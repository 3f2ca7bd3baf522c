import HardwareMediatek.Foundation.Checked
import HardwareMediatek.Foundation.Netlink
import HardwareMediatek.Foundation.NlIterator

/-!
# Messages in a fixed space

A message is allocated with a size, and an attribute that does not fit in it is refused. A nest without room
is a null pointer, which the calls behind it need not notice until the nest is to be closed.
-/

namespace HardwareMediatek.Foundation

section Buffers

variable {τ : Type}

/-- A message, the bytes of it that are used, and the size it was allocated with. -/
structure MsgBuf (τ : Type) where
  message : NlMessage τ
  used : ℕ
  capacity : ℕ

/-- Why the building of a message stops. -/
inductive BuildStop where
  | failed (error : ℤ)
  | nullNest
  deriving DecidableEq, Repr

/-- The bytes of an attribute with `length` bytes of payload. -/
def nlaTotalSize (length : ℕ) : ℕ := nlaAlign (nlaHdrlen + length)

/-- `-NLE_NOMEM` -/
def nleNoMem : ℤ := -5

variable (buf : MsgBuf τ)

/-- `nla_put` -/
def MsgBuf.put (type : τ) (data : List UInt8) : Except BuildStop (MsgBuf τ) :=
  if buf.used + nlaTotalSize data.length ≤ buf.capacity then
    .ok { buf with
      message := buf.message.add (.payload type data)
      used := buf.used + nlaTotalSize data.length }
  else .error (.failed nleNoMem)

/-- Puts one after the other, up to the first that fails. -/
def MsgBuf.putAll (puts : List (τ × List UInt8)) : Except BuildStop (MsgBuf τ) :=
  puts.foldlM (fun buf put ↦ buf.put put.1 put.2) buf

/-- The buffer with the header of a nest behind what is used. -/
def MsgBuf.opened (type : τ) : MsgBuf τ :=
  { buf with
    message := (BuildCall.attrStart type).apply buf.message
    used := buf.used + nlaHdrlen }

/-- `nla_nest_start`, with whether the pointer it returns is not null. -/
def MsgBuf.attrStart (type : τ) : Bool × MsgBuf τ :=
  if buf.used + nlaHdrlen ≤ buf.capacity then (true, buf.opened type) else (false, buf)

/-- `nla_nest_end` of the pointer that `attrStart` gave. -/
def MsgBuf.attrEnd (attr : Bool) : Except BuildStop (MsgBuf τ) :=
  if attr then .ok { buf with message := BuildCall.attrEnd.apply buf.message } else .error .nullNest

mutual

/-- The bytes of an attribute in a message. -/
def NlAttr.size : NlAttr τ → ℕ
  | .payload _ data => nlaTotalSize data.length
  | .nest _ attrs => nlaHdrlen + NlAttr.sizeOf attrs

def NlAttr.sizeOf : List (NlAttr τ) → ℕ
  | [] => 0
  | attr :: attrs => attr.size + NlAttr.sizeOf attrs

end

/-- The buffer with attributes added to its message, wherever it ends. -/
def MsgBuf.added (attrs : List (NlAttr τ)) : MsgBuf τ :=
  { buf with
    message := buf.message.addAll attrs
    used := buf.used + NlAttr.sizeOf attrs }

def MsgBuf.Fits (attrs : List (NlAttr τ)) : Prop := buf.used + NlAttr.sizeOf attrs ≤ buf.capacity

instance (attrs : List (NlAttr τ)) : Decidable (buf.Fits attrs) := inferInstanceAs (Decidable (_ ≤ _))

def payloads (puts : List (τ × List UInt8)) : List (NlAttr τ) := puts.map fun put ↦ .payload put.1 put.2

end Buffers

section Sizes

variable {τ : Type}

@[simp]
theorem NlAttr.size_payload (type : τ) (data : List UInt8) :
    (NlAttr.payload type data).size = nlaTotalSize data.length := by
  simp only [NlAttr.size]

@[simp]
theorem NlAttr.size_nest (type : τ) (attrs : List (NlAttr τ)) :
    (NlAttr.nest type attrs).size = nlaHdrlen + NlAttr.sizeOf attrs := by
  simp only [NlAttr.size]

@[simp]
theorem NlAttr.sizeOf_nil : NlAttr.sizeOf ([] : List (NlAttr τ)) = 0 := by
  simp only [NlAttr.sizeOf]

@[simp]
theorem NlAttr.sizeOf_cons (attr : NlAttr τ) (attrs : List (NlAttr τ)) :
    NlAttr.sizeOf (attr :: attrs) = attr.size + NlAttr.sizeOf attrs := by
  simp only [NlAttr.sizeOf]

theorem NlAttr.sizeOf_append (left right : List (NlAttr τ)) :
    NlAttr.sizeOf (left ++ right) = NlAttr.sizeOf left + NlAttr.sizeOf right := by
  induction left with
  | nil => simp
  | cons attr attrs ih => rw [List.cons_append, sizeOf_cons, sizeOf_cons, ih, Nat.add_assoc]

/-- Attributes of one size. -/
theorem NlAttr.sizeOf_map {α : Type} {attrOf : α → NlAttr τ} {size : ℕ}
    (hsize : ∀ x, (attrOf x).size = size) (xs : List α) :
    NlAttr.sizeOf (xs.map attrOf) = size * xs.length := by
  induction xs with
  | nil => simp
  | cons x xs ih =>
    calc
      _ = (attrOf x).size + NlAttr.sizeOf (xs.map attrOf) := by rw [List.map_cons, sizeOf_cons]
      _ = size + size * xs.length := by rw [hsize, ih]
      _ = size * (x :: xs).length := by rw [List.length_cons, Nat.mul_succ, Nat.add_comm]

end Sizes

section Added

variable {τ : Type} {buf : MsgBuf τ}

theorem MsgBuf.added_nil : buf.added [] = buf := by
  simp [added, NlMessage.addAll]

theorem MsgBuf.added_added (left right : List (NlAttr τ)) :
    (buf.added left).added right = buf.added (left ++ right) := by
  simp only [added, NlMessage.addAll, List.foldl_append, NlAttr.sizeOf_append, Nat.add_assoc]

theorem MsgBuf.fits_append (left right : List (NlAttr τ)) :
    buf.Fits (left ++ right) ↔ buf.Fits left ∧ (buf.added left).Fits right := by
  unfold Fits added
  rw [NlAttr.sizeOf_append]
  dsimp only
  omega

theorem MsgBuf.Fits.room {attrs : List (NlAttr τ)} (hfits : buf.Fits attrs) :
    (buf.added attrs).used ≤ (buf.added attrs).capacity := hfits

theorem MsgBuf.fits_opened (type : τ) (attrs : List (NlAttr τ)) :
    (buf.opened type).Fits attrs ↔ buf.Fits [.nest type attrs] := by
  unfold Fits opened
  rw [NlAttr.sizeOf_cons, NlAttr.sizeOf_nil, NlAttr.size_nest, Nat.add_zero, Nat.add_assoc]

/-- A message with no open nest gets attributes at its end. -/
theorem NlMessage.attrs_addAll {message : NlMessage τ} (hclosed : message.nests = [])
    (attrs : List (NlAttr τ)) : (message.addAll attrs).attrs = message.attrs ++ attrs := by
  induction attrs generalizing message with
  | nil => exact (List.append_nil _).symm
  | cons attr attrs ih =>
    have hadd : message.add attr = { message with attrs := message.attrs ++ [attr] } := by
      unfold add
      rw [hclosed]
    have hopen : (message.add attr).nests = [] := by rw [hadd]; exact hclosed
    have hrest := ih hopen
    rw [hadd, List.append_assoc, List.singleton_append] at hrest
    rw [← hrest, ← hadd]
    rfl

end Added

section Adds

variable {τ : Type} {buf : MsgBuf τ} {left right : List (NlAttr τ)}

/-- Calls that add attributes exactly if these fit. -/
def MsgBuf.Adds (buf : MsgBuf τ) (calls : Except BuildStop (MsgBuf τ))
    (attrs : List (NlAttr τ)) : Prop :=
  ∀ result, calls = .ok result ↔ buf.Fits attrs ∧ buf.added attrs = result

theorem MsgBuf.adds_of_not_fits {calls : Except BuildStop (MsgBuf τ)} {stop : BuildStop}
    (hcalls : calls = .error stop) (hfits : ¬ buf.Fits left) : buf.Adds calls left := by
  intro result
  rw [hcalls]
  exact iff_of_false (fun h ↦ nomatch h) fun h ↦ hfits h.1

theorem MsgBuf.Adds.bind {calls : Except BuildStop (MsgBuf τ)}
    {next : MsgBuf τ → Except BuildStop (MsgBuf τ)} (hcalls : buf.Adds calls left)
    (hnext : buf.Fits left → (buf.added left).Adds (next (buf.added left)) right) :
    buf.Adds (calls >>= next) (left ++ right) := by
  intro result
  rw [bind_eq_ok, fits_append, ← added_added]
  constructor
  · intro h
    obtain ⟨middle, hmiddle, hresult⟩ := h
    obtain ⟨hfits, rfl⟩ := (hcalls middle).mp hmiddle
    have hlater := (hnext hfits result).mp hresult
    exact ⟨⟨hfits, hlater.1⟩, hlater.2⟩
  · intro h
    obtain ⟨⟨hfits, hlater⟩, hresult⟩ := h
    exact ⟨_, (hcalls _).mpr ⟨hfits, rfl⟩, (hnext hfits result).mpr ⟨hlater, hresult⟩⟩

theorem MsgBuf.adds_put (buf : MsgBuf τ) (type : τ) (data : List UInt8) :
    buf.Adds (buf.put type data) [.payload type data] := by
  intro result
  unfold put Fits added
  simp only [NlAttr.sizeOf_cons, NlAttr.sizeOf_nil, NlAttr.size_payload, Nat.add_zero, NlMessage.addAll,
    List.foldl_cons, List.foldl_nil]
  split
  · rename_i hroom
    simp [hroom]
  · rename_i hroom
    simp [hroom]

/-- A loop over elements, each of which adds one attribute. -/
theorem MsgBuf.adds_foldlM {α : Type} {step : MsgBuf τ → α → Except BuildStop (MsgBuf τ)}
    {attrOf : α → NlAttr τ}
    (hstep : ∀ (buf : MsgBuf τ) (x : α), buf.used ≤ buf.capacity → buf.Adds (step buf x) [attrOf x])
    (hroom : buf.used ≤ buf.capacity) (xs : List α) :
    buf.Adds (xs.foldlM step buf) (xs.map attrOf) := by
  induction xs generalizing buf with
  | nil =>
    intro result
    have hfits : buf.Fits [] := hroom
    rw [List.map_nil, added_nil, and_iff_right hfits, List.foldlM_nil]
    exact Iff.of_eq (Except.ok.injEq buf result)
  | cons x xs ih =>
    rw [List.foldlM_cons, List.map_cons, ← List.singleton_append]
    exact (hstep buf x hroom).bind fun hfits ↦ ih hfits

theorem MsgBuf.adds_putAll (hroom : buf.used ≤ buf.capacity) (puts : List (τ × List UInt8)) :
    buf.Adds (buf.putAll puts) (payloads puts) :=
  adds_foldlM (fun buf put _ ↦ buf.adds_put put.1 put.2) hroom puts

variable {type : τ}

theorem MsgBuf.attrStart_of_room (hroom : buf.used + nlaHdrlen ≤ buf.capacity) :
    buf.attrStart type = (true, buf.opened type) := if_pos hroom

theorem MsgBuf.attrStart_of_not_room (hfull : ¬ buf.used + nlaHdrlen ≤ buf.capacity) :
    buf.attrStart type = (false, buf) := if_neg hfull

/-- Where a nest has no room, nothing else has. -/
theorem MsgBuf.put_of_not_room (hfull : ¬ buf.used + nlaHdrlen ≤ buf.capacity) (data : List UInt8) :
    buf.put type data = .error (.failed nleNoMem) := by
  apply if_neg
  have halign := le_nlaAlign (nlaHdrlen + data.length)
  unfold nlaTotalSize
  omega

theorem MsgBuf.not_fits_of_not_room (hfull : ¬ buf.used + nlaHdrlen ≤ buf.capacity)
    (attrs : List (NlAttr τ)) : ¬ buf.Fits [.nest type attrs] := by
  unfold Fits
  rw [NlAttr.sizeOf_cons, NlAttr.size_nest]
  omega

/-- What is added between the ends of a nest is added as a nest. -/
theorem MsgBuf.attrEnd_opened (type : τ) (attrs : List (NlAttr τ)) :
    ((buf.opened type).added attrs).attrEnd true = .ok (buf.added [.nest type attrs]) := by
  have hnest := NlAttr.foldl_calls (.nest type attrs) buf.message
  rw [NlAttr.calls_nest, List.foldl_cons, List.foldl_append, NlAttr.foldl_callsOf, List.foldl_cons,
    List.foldl_nil] at hnest
  unfold attrEnd added opened
  rw [if_pos rfl]
  dsimp only
  rw [hnest, NlAttr.sizeOf_cons, NlAttr.sizeOf_nil, NlAttr.size_nest, Nat.add_zero, Nat.add_assoc]
  rfl

theorem MsgBuf.adds_nest {calls : Except BuildStop (MsgBuf τ)} {attrs : List (NlAttr τ)}
    (hcalls : (buf.opened type).Adds calls attrs) :
    buf.Adds (calls >>= fun inner ↦ inner.attrEnd true) [.nest type attrs] := by
  intro result
  rw [bind_eq_ok, ← fits_opened]
  constructor
  · intro h
    obtain ⟨inner, hinner, hresult⟩ := h
    obtain ⟨hfits, rfl⟩ := (hcalls inner).mp hinner
    exact ⟨hfits, Except.ok.inj ((attrEnd_opened type attrs).symm.trans hresult)⟩
  · intro h
    exact ⟨_, (hcalls _).mpr ⟨h.1, rfl⟩, (attrEnd_opened type attrs).trans (congrArg _ h.2)⟩

end Adds

end HardwareMediatek.Foundation
