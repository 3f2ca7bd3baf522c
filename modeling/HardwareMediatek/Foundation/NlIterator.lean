import HardwareMediatek.Foundation.ByteMemory

/-!
# Walking the attributes of a payload

The loop `for (nl_iterator it(attr); it.has_next(); it.next())` over the payload of an attribute:
an attribute is visited while its header and its claimed length fit in what remains.
-/

namespace HardwareMediatek.Foundation

/-- The payload of an attribute in memory, from its first byte on. -/
structure Payload where
  bytes : Bytes
  len : ℕ

/-- An attribute inside a payload: its type field, and where its own payload is. -/
structure AttrView where
  type : ℕ
  start : ℕ
  length : ℕ
  deriving DecidableEq, Repr

def AttrView.limit (attr : AttrView) : ℕ := attr.start + attr.length

def nlaHdrlen : ℕ := 4

def nlaAlign (length : ℕ) : ℕ := (length + 3) / 4 * 4

def nlaOk (bytes : Bytes) (pos : ℕ) (rem : ℤ) : Bool :=
  4 ≤ rem ∧ nlaHdrlen ≤ u16At bytes pos ∧ u16At bytes pos ≤ rem

def viewAt (bytes : Bytes) (pos : ℕ) : AttrView where
  type := u16At bytes (pos + 2)
  start := pos + nlaHdrlen
  length := u16At bytes pos - nlaHdrlen

/-- The attributes visited from `pos` on, with `rem` bytes left, in at most `fuel` rounds. -/
def visited (bytes : Bytes) : ℕ → ℕ → ℤ → List AttrView
  | 0, _, _ => []
  | fuel + 1, pos, rem =>
      if nlaOk bytes pos rem then
        viewAt bytes pos :: visited bytes fuel (pos + nlaAlign (u16At bytes pos))
          (rem - nlaAlign (u16At bytes pos))
      else []

def Payload.attrs (payload : Payload) : List AttrView :=
  visited payload.bytes payload.len 0 payload.len

theorem le_nlaAlign (length : ℕ) : length ≤ nlaAlign length := by
  unfold nlaAlign
  omega

theorem nlaOk_iff (bytes : Bytes) (pos : ℕ) (rem : ℤ) :
    nlaOk bytes pos rem = true ↔ 4 ≤ rem ∧ 4 ≤ u16At bytes pos ∧ (u16At bytes pos : ℤ) ≤ rem := by
  rw [nlaOk, decide_eq_true_eq]
  rfl

theorem limit_le_of_mem_visited (bytes : Bytes) {fuel pos : ℕ} {rem : ℤ} {attr : AttrView}
    (hattr : attr ∈ visited bytes fuel pos rem) : (attr.limit : ℤ) ≤ pos + rem := by
  induction fuel generalizing pos rem with
  | zero => simp [visited] at hattr
  | succ fuel ih =>
    unfold visited at hattr
    by_cases hok : nlaOk bytes pos rem = true
    · rw [if_pos hok, List.mem_cons] at hattr
      cases hattr with
      | inl hhead =>
        have hlength := (nlaOk_iff bytes pos rem).mp hok
        rw [hhead]
        simp only [AttrView.limit, viewAt, nlaHdrlen]
        omega
      | inr htail =>
        have := ih htail
        omega
    · rw [if_neg hok] at hattr
      exact absurd hattr (by simp)

/-- Every attribute visited lies inside the payload. -/
theorem Payload.limit_le_len {payload : Payload} {attr : AttrView} (hattr : attr ∈ payload.attrs) :
    attr.limit ≤ payload.len := by
  have := limit_le_of_mem_visited payload.bytes hattr
  omega

end HardwareMediatek.Foundation
