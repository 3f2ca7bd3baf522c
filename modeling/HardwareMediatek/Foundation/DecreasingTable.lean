import Mathlib.Order.MinMax
import Mathlib.Data.List.Nodup

/-!
# Strictly decreasing tables

A search in a strictly decreasing table for the first entry that a number covers. What the search finds
is bounded below by the entries above the number, and above by the entries that it covers; the bounds
are kept by minima and maxima.
-/

namespace HardwareMediatek

variable {α : Type} [LinearOrder α] {table : List α} {j k : ℤ} {x y : α}

/-- Every entry before an index is above the number. -/
def AboveBefore (table : List α) (k : ℤ) (x : α) : Prop :=
  ∀ (i : ℕ) (entry : α), (i : ℤ) < k → table[i]? = some entry → x < entry

/-- Every entry from an index on is covered by the number. -/
def CoveredFrom (table : List α) (k : ℤ) (x : α) : Prop :=
  ∀ (i : ℕ) (entry : α), k ≤ i → table[i]? = some entry → entry ≤ x

/-- The first index whose entry the number covers, or the last one. -/
structure IsFirstCovered (table : List α) (x : α) (found : ℤ) : Prop where
  nonneg : 0 ≤ found
  lt_length : found < table.length
  le_iff : ∀ (i : ℕ) (entry : α), table[i]? = some entry →
    (found ≤ i ↔ i + 1 = table.length ∨ entry ≤ x)

theorem AboveBefore.mono (h : AboveBefore table k x) (hjk : j ≤ k) (hyx : y ≤ x) :
    AboveBefore table j y :=
  fun i entry hi hentry ↦ hyx.trans_lt (h i entry (hi.trans_le hjk) hentry)

theorem AboveBefore.max (hx : AboveBefore table k x) (hy : AboveBefore table k y) :
    AboveBefore table k (max x y) :=
  fun i entry hi hentry ↦ max_lt (hx i entry hi hentry) (hy i entry hi hentry)

theorem CoveredFrom.mono (h : CoveredFrom table k x) (hkj : k ≤ j) (hxy : x ≤ y) :
    CoveredFrom table j y :=
  fun i entry hi hentry ↦ (h i entry (hkj.trans hi) hentry).trans hxy

theorem CoveredFrom.min (hx : CoveredFrom table k x) (hy : CoveredFrom table k y) :
    CoveredFrom table k (min x y) :=
  fun i entry hi hentry ↦ le_min (hx i entry hi hentry) (hy i entry hi hentry)

section Sorted

variable (hsorted : table.Pairwise fun x y ↦ y < x)
include hsorted

theorem entry_lt_entry {i j : ℕ} {entry entry' : α} (hentry : table[i]? = some entry)
    (hentry' : table[j]? = some entry') (hij : i < j) : entry' < entry := by
  obtain ⟨hi, hvalue⟩ := List.getElem?_eq_some_iff.mp hentry
  obtain ⟨hj, hvalue'⟩ := List.getElem?_eq_some_iff.mp hentry'
  rw [← hvalue, ← hvalue']
  exact List.pairwise_iff_getElem.mp hsorted i j hi hj hij

/-- An entry is at one index only. -/
theorem index_unique {i j : ℕ} {entry : α} (hi : table[i]? = some entry)
    (hj : table[j]? = some entry) : i = j := by
  apply le_antisymm
  · exact not_lt.mp fun hlt ↦ lt_irrefl _ (entry_lt_entry hsorted hj hi hlt)
  · exact not_lt.mp fun hlt ↦ lt_irrefl _ (entry_lt_entry hsorted hi hj hlt)

theorem aboveBefore_entry {i : ℕ} {entry : α} (hentry : table[i]? = some entry) (hki : k ≤ i) :
    AboveBefore table k entry := by
  intro i' entry' hi' hentry'
  apply entry_lt_entry hsorted hentry' hentry
  exact_mod_cast hi'.trans_le hki

theorem coveredFrom_entry {i : ℕ} {entry : α} (hentry : table[i]? = some entry) (hik : i ≤ k) :
    CoveredFrom table k entry := by
  intro i' entry' hi' hentry'
  have hle : i ≤ i' := by exact_mod_cast hik.trans hi'
  apply Or.elim hle.eq_or_lt
  · intro hsame
    rw [hsame, hentry'] at hentry
    exact (Option.some.inj hentry).le
  · exact fun hlt ↦ (entry_lt_entry hsorted hentry hentry' hlt).le

/-- The number that finds an index covers the entries from there on, unless it is the last one. -/
theorem IsFirstCovered.coveredFrom {found : ℤ} (h : IsFirstCovered table x found)
    (hlast : found + 1 < table.length) : CoveredFrom table found x := by
  have hfound : ((found.toNat : ℕ) : ℤ) = found := Int.toNat_of_nonneg h.nonneg
  have hlt : found.toNat < table.length := by
    have hlength := h.lt_length
    omega
  have hentry := List.getElem?_eq_getElem hlt
  have hcovers := (h.le_iff found.toNat _ hentry).mp hfound.ge
  have hle := hcovers.resolve_left (by omega)
  exact (coveredFrom_entry hsorted hentry hfound.le).mono le_rfl hle

end Sorted

variable {found : ℤ}

/-- The entries before the index that is found are above the number. -/
theorem IsFirstCovered.aboveBefore (h : IsFirstCovered table x found) :
    AboveBefore table found x := by
  intro i entry hi hentry
  exact not_le.mp fun hle ↦ absurd ((h.le_iff i entry hentry).mpr (Or.inr hle)) (not_le.mpr hi)

theorem IsFirstCovered.le_of_aboveBefore (h : IsFirstCovered table x found)
    (habove : AboveBefore table k x) (hk : k < table.length) : k ≤ found := by
  by_contra hlt
  rw [not_le] at hlt
  have hfound : ((found.toNat : ℕ) : ℤ) = found := Int.toNat_of_nonneg h.nonneg
  have hindex : found.toNat < table.length := by omega
  have hentry := List.getElem?_eq_getElem hindex
  apply ((h.le_iff found.toNat _ hentry).mp hfound.ge).elim
  · intro hlast
    omega
  · intro hle
    exact absurd (habove found.toNat _ (hfound.trans_lt hlt) hentry) (not_lt.mpr hle)

theorem IsFirstCovered.le_of_coveredFrom (h : IsFirstCovered table x found) (hk : 0 ≤ k)
    (hcovered : CoveredFrom table k x) : found ≤ k := by
  by_contra hlt
  rw [not_le] at hlt
  have hlength := h.lt_length
  have hkNat : ((k.toNat : ℕ) : ℤ) = k := Int.toNat_of_nonneg hk
  have hindex : k.toNat < table.length := by omega
  have hentry := List.getElem?_eq_getElem hindex
  have hle := (h.le_iff k.toNat _ hentry).mpr (Or.inr (hcovered k.toNat _ hkNat.ge hentry))
  omega

end HardwareMediatek
