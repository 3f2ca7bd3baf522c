import HardwareMediatek.Foundation.NlIterator
import Mathlib.Data.List.Basic
import Mathlib.Tactic.Common

/-!
# Ranging results of a completion event

Each result attribute is copied into memory of its own length. Elements behind the fixed part of a
result replace the pointers to LCI and LCR in the copy, and what is not replaced stays as the driver
sent it. The fixed part is declared elsewhere and known by its size and the offsets of the two
pointers.
-/

namespace HardwareMediatek.Wifi

open Foundation

section Events

def rttAttributeResultCnt : ℕ := 32
def rttAttributeResult : ℕ := 33
def dot11HdrLen : ℕ := 2
def dot11MngMeasureRequestId : UInt8 := 38
def dot11MeasureTypeLci : UInt8 := 8
def dot11MeasureTypeCivicloc : UInt8 := 11
def maxResults : ℕ := 1024
def sizeofPointer : ℕ := 8

/-- `wifi_rtt_result`, with both pointers inside. -/
structure RttResultLayout where
  size : ℕ
  LCI : ℕ
  LCR : ℕ
  LCI_le : LCI + sizeofPointer ≤ size
  LCR_le : LCR + sizeofPointer ≤ size

/-- Which allocations succeed, and what is in memory behind each. -/
structure RttMemory where
  malloc : ℕ → Bool
  beyond : ℕ → Bytes

/-- A pointer as the driver sent it, or to an element of the copy. -/
inductive ResultPointer where
  | sent (value : List UInt8)
  | element (offset : ℕ)
  deriving DecidableEq

structure RttResult where
  size : ℕ
  bytes : Bytes
  LCI : ResultPointer
  LCR : ResultPointer

variable (layout : RttResultLayout) (memory : RttMemory)

/-- `dot11_rm_ie` -/
def elementId (bytes : Bytes) (element : ℕ) : UInt8 := bytes element
def elementLen (bytes : Bytes) (element : ℕ) : ℕ := (bytes (element + 1)).toNat
def elementType (bytes : Bytes) (element : ℕ) : UInt8 := bytes (element + 4)

def sentPointer (bytes : Bytes) (offset : ℕ) : ResultPointer :=
  .sent ((List.range sizeofPointer).map fun i ↦ bytes (offset + i))

/-- The trailing elements replace the pointers, LCI and LCR in this order. -/
def patchPointers (bytes : Bytes) (size : ℕ) : ResultPointer × ResultPointer :=
  let result_len : ℤ := size - layout.size
  let e1 := layout.size
  let e2 := e1 + (elementLen bytes e1 + dot11HdrLen)
  let left : ℤ := result_len - (elementLen bytes e1 + dot11HdrLen : ℕ)
  if 0 < result_len then
    if elementId bytes e1 = dot11MngMeasureRequestId then
      if elementType bytes e1 = dot11MeasureTypeLci then
        (.element e1,
          if 0 < left ∧ elementId bytes e2 = dot11MngMeasureRequestId ∧
              elementType bytes e2 = dot11MeasureTypeCivicloc then .element e2
          else sentPointer bytes layout.LCR)
      else if elementType bytes e1 = dot11MeasureTypeCivicloc then
        (if 0 < left ∧ elementId bytes e2 = dot11MngMeasureRequestId ∧
              elementType bytes e2 = dot11MeasureTypeLci then .element e2
          else sentPointer bytes layout.LCI,
          .element e1)
      else (sentPointer bytes layout.LCI, sentPointer bytes layout.LCR)
    else (sentPointer bytes layout.LCI, sentPointer bytes layout.LCR)
  else (sentPointer bytes layout.LCI, sentPointer bytes layout.LCR)

/-- The copy of an attribute in the memory of an allocation. -/
def copyBytes (payload : Bytes) (attr : AttrView) (index : ℕ) : Bytes := fun i ↦
  if i < attr.length then payload (attr.start + i) else memory.beyond index i

def copyResult (payload : Bytes) (attr : AttrView) (index : ℕ) : RttResult where
  size := attr.length
  bytes := copyBytes memory payload attr index
  LCI := (patchPointers layout (copyBytes memory payload attr index) attr.length).1
  LCR := (patchPointers layout (copyBytes memory payload attr index) attr.length).2

/-- The results so far, the count that the event claims, and the entries of the array written. -/
structure RttParse where
  results : List RttResult := []
  result_count : ℕ := 0
  written : List ℕ := []

/-- An empty result and a failed allocation end the loop, the latter after its entry was written. -/
def rttLoop (payload : Bytes) : List AttrView → RttParse → RttParse
  | [], parse => parse
  | attr :: rest, parse =>
      if attr.type = rttAttributeResultCnt then
        rttLoop payload rest { parse with result_count := u32At payload attr.start }
      else if attr.type = rttAttributeResult then
        if attr.length = 0 then parse
        else if memory.malloc parse.results.length then
          rttLoop payload rest
            { parse with
              results := parse.results ++ [copyResult layout memory payload attr parse.results.length]
              written := parse.written ++ [parse.results.length] }
        else { parse with written := parse.written ++ [parse.results.length] }
      else rttLoop payload rest parse

/-- The results handed to `on_rtt_results`, which is not called without vendor data. -/
def rttParseEvent (vendor_data : Option Payload) : RttParse :=
  match vendor_data with
  | none => {}
  | some payload =>
      if payload.len = 0 then {} else rttLoop layout memory payload.bytes payload.attrs {}

end Events

section Bounds

variable (layout : RttResultLayout) (memory : RttMemory)

/-- A pointer is null, or its element lies in the copied bytes. -/
def ResultPointer.Inside (bytes : Bytes) (size : ℕ) : ResultPointer → Prop
  | .sent value => ∀ byte ∈ value, byte = 0
  | .element offset => offset + (dot11HdrLen + elementLen bytes offset) ≤ size

/-- The writes stay in the array, each result is complete, and its pointers are null or inside. -/
structure RttParse.Inside (parse : RttParse) : Prop where
  written : ∀ index ∈ parse.written, index < maxResults
  complete : ∀ result ∈ parse.results, layout.size ≤ result.size
  LCI : ∀ result ∈ parse.results, result.LCI.Inside result.bytes result.size
  LCR : ∀ result ∈ parse.results, result.LCR.Inside result.bytes result.size

/-- A measurement element that is looked for. -/
def isMeasurement (bytes : Bytes) (element : ℕ) : Bool :=
  elementId bytes element = dot11MngMeasureRequestId ∧
    (elementType bytes element = dot11MeasureTypeLci ∨
      elementType bytes element = dot11MeasureTypeCivicloc)

/-- The elements behind the fixed part: one of the two kinds, and one of the other. -/
def trailingElements (bytes : Bytes) (size : ℕ) : List ℕ :=
  let e1 := layout.size
  let e2 := e1 + (dot11HdrLen + elementLen bytes e1)
  if e1 < size ∧ isMeasurement bytes e1 then
    if e2 < size ∧ isMeasurement bytes e2 ∧ elementType bytes e2 ≠ elementType bytes e1 then [e1, e2]
    else [e1]
  else []

/-- A result as long as the fixed part, whose elements end in it, and whose pointers are null where no
element replaces them. -/
structure ResultFits (bytes : Bytes) (size : ℕ) : Prop where
  complete : layout.size ≤ size
  elements : ∀ e ∈ trailingElements layout bytes size, e + (dot11HdrLen + elementLen bytes e) ≤ size
  LCI : (∀ e ∈ trailingElements layout bytes size, elementType bytes e ≠ dot11MeasureTypeLci) →
    ∀ i < sizeofPointer, bytes (layout.LCI + i) = 0
  LCR : (∀ e ∈ trailingElements layout bytes size, elementType bytes e ≠ dot11MeasureTypeCivicloc) →
    ∀ i < sizeofPointer, bytes (layout.LCR + i) = 0

theorem sentPointer_inside_iff (bytes : Bytes) (size offset : ℕ) :
    (sentPointer bytes offset).Inside bytes size ↔ ∀ i < sizeofPointer, bytes (offset + i) = 0 := by
  unfold sentPointer ResultPointer.Inside
  simp

section Cases

variable {layout : RttResultLayout} {bytes : Bytes} {size : ℕ}

/-- No element behind the fixed part. -/
theorem patchPointers_none (hnone : ¬ (layout.size < size ∧ isMeasurement bytes layout.size = true)) :
    patchPointers layout bytes size = (sentPointer bytes layout.LCI, sentPointer bytes layout.LCR) ∧
      trailingElements layout bytes size = [] := by
  unfold patchPointers trailingElements
  dsimp only
  rw [if_neg hnone]
  apply And.intro _ rfl
  by_cases hroom : (0 : ℤ) < size - layout.size
  · have hmeasure : ¬ isMeasurement bytes layout.size = true := fun hm ↦ hnone ⟨by omega, hm⟩
    unfold isMeasurement at hmeasure
    rw [decide_eq_true_eq, not_and] at hmeasure
    rw [if_pos hroom]
    by_cases hid : elementId bytes layout.size = dot11MngMeasureRequestId
    · have htype := not_or.mp (hmeasure hid)
      rw [if_pos hid, if_neg htype.1, if_neg htype.2]
    · rw [if_neg hid]
  · rw [if_neg hroom]

/-- An element of one kind, and one of the other behind it if there is one. -/
theorem patchPointers_some (hroom : layout.size < size)
    (hid : elementId bytes layout.size = dot11MngMeasureRequestId) {next : ℕ}
    (hnext : next = layout.size + (dot11HdrLen + elementLen bytes layout.size)) :
    (elementType bytes layout.size = dot11MeasureTypeLci →
      patchPointers layout bytes size = (.element layout.size,
        if next < size ∧ elementId bytes next = dot11MngMeasureRequestId ∧
          elementType bytes next = dot11MeasureTypeCivicloc then .element next
        else sentPointer bytes layout.LCR)) ∧
    (elementType bytes layout.size = dot11MeasureTypeCivicloc →
      patchPointers layout bytes size =
        (if next < size ∧ elementId bytes next = dot11MngMeasureRequestId ∧
          elementType bytes next = dot11MeasureTypeLci then .element next
        else sentPointer bytes layout.LCI, .element layout.size)) := by
  have hroom' : (0 : ℤ) < size - layout.size := by omega
  have hleft : (0 : ℤ) < size - layout.size -
      (elementLen bytes layout.size + dot11HdrLen : ℕ) ↔ next < size := by
    rw [hnext]
    omega
  have hsame : layout.size + (elementLen bytes layout.size + dot11HdrLen) = next := by
    rw [hnext, Nat.add_comm dot11HdrLen]
  unfold patchPointers
  dsimp only
  rw [if_pos hroom', if_pos hid, hsame]
  simp only [hleft]
  apply And.intro
  · intro hlci
    rw [if_pos hlci]
  · intro hcivic
    have hlci : ¬ elementType bytes layout.size = dot11MeasureTypeLci := by
      rw [hcivic]
      decide
    rw [if_neg hlci, if_pos hcivic]

/-- A second element of the other kind. -/
theorem trailingElements_some (hroom : layout.size < size)
    (hmeasure : isMeasurement bytes layout.size = true) {next : ℕ}
    (hnext : next = layout.size + (dot11HdrLen + elementLen bytes layout.size)) :
    trailingElements layout bytes size =
      if next < size ∧ isMeasurement bytes next = true ∧
        elementType bytes next ≠ elementType bytes layout.size then [layout.size, next]
      else [layout.size] := by
  unfold trailingElements
  dsimp only
  rw [if_pos ⟨hroom, hmeasure⟩, ← hnext]

/-- The kinds of measurement are two. -/
theorem otherMeasurement_iff (element : ℕ) {kind other : UInt8}
    (hkinds : kind = dot11MeasureTypeLci ∧ other = dot11MeasureTypeCivicloc ∨
      kind = dot11MeasureTypeCivicloc ∧ other = dot11MeasureTypeLci) :
    (isMeasurement bytes element = true ∧ elementType bytes element ≠ kind) ↔
      elementId bytes element = dot11MngMeasureRequestId ∧ elementType bytes element = other := by
  have hdiffer : dot11MeasureTypeLci ≠ dot11MeasureTypeCivicloc := by decide
  unfold isMeasurement
  rw [decide_eq_true_eq]
  rcases hkinds with hkind | hkind
  · rw [hkind.1, hkind.2]
    grind
  · rw [hkind.1, hkind.2]
    grind

end Cases

theorem resultFits_iff (bytes : Bytes) (size : ℕ) :
    ResultFits layout bytes size ↔ layout.size ≤ size ∧
      (patchPointers layout bytes size).1.Inside bytes size ∧
      (patchPointers layout bytes size).2.Inside bytes size := by
  have hparts : ResultFits layout bytes size ↔ layout.size ≤ size ∧
      (∀ e ∈ trailingElements layout bytes size,
        e + (dot11HdrLen + elementLen bytes e) ≤ size) ∧
      ((∀ e ∈ trailingElements layout bytes size, elementType bytes e ≠ dot11MeasureTypeLci) →
        (sentPointer bytes layout.LCI).Inside bytes size) ∧
      ((∀ e ∈ trailingElements layout bytes size,
        elementType bytes e ≠ dot11MeasureTypeCivicloc) →
        (sentPointer bytes layout.LCR).Inside bytes size) := by
    rw [sentPointer_inside_iff, sentPointer_inside_iff]
    exact ⟨fun h ↦ ⟨h.complete, h.elements, h.LCI, h.LCR⟩,
      fun h ↦ ⟨h.1, h.2.1, h.2.2.1, h.2.2.2⟩⟩
  have hdiffer : dot11MeasureTypeLci ≠ dot11MeasureTypeCivicloc := by decide
  rw [hparts]
  apply and_congr_right
  intro _
  by_cases hfirst : layout.size < size ∧ isMeasurement bytes layout.size = true
  · generalize hnext : layout.size + (dot11HdrLen + elementLen bytes layout.size) = next
    have hmeasure := hfirst.2
    unfold isMeasurement at hmeasure
    have hkind := of_decide_eq_true hmeasure
    have hpatch := patchPointers_some hfirst.1 hkind.1 hnext.symm
    rw [trailingElements_some hfirst.1 hfirst.2 hnext.symm]
    rcases hkind.2 with hlci | hcivic
    · rw [hpatch.1 hlci, hlci]
      simp only [otherMeasurement_iff next (Or.inl ⟨rfl, rfl⟩)]
      split
      · rename_i hsecond
        simp [hlci, hsecond.2.2, ResultPointer.Inside]
      · simp [hlci, hdiffer, ResultPointer.Inside]
    · rw [hpatch.2 hcivic, hcivic]
      simp only [otherMeasurement_iff next (Or.inr ⟨rfl, rfl⟩)]
      split
      · rename_i hsecond
        simp [hcivic, hsecond.2.2, ResultPointer.Inside, and_comm]
      · simp [hcivic, Ne.symm hdiffer, ResultPointer.Inside, and_comm]
  · have hnone := patchPointers_none hfirst
    rw [hnone.1, hnone.2]
    simp

/-- The result attributes up to the first empty one. -/
def resultAttrs (attrs : List AttrView) : List AttrView :=
  (attrs.filter fun attr ↦ attr.type = rttAttributeResult).takeWhile fun attr ↦ attr.length ≠ 0

/-- Those of the attributes, numbered from `first`, for which there is memory. -/
def storedResults (first : ℕ) (attrs : List AttrView) : List (AttrView × ℕ) :=
  (attrs.zipIdx first).takeWhile fun entry ↦ memory.malloc entry.2

theorem resultAttrs_cons_of_ne {attr : AttrView} (hother : attr.type ≠ rttAttributeResult)
    (rest : List AttrView) : resultAttrs (attr :: rest) = resultAttrs rest := by
  unfold resultAttrs
  rw [List.filter_cons_of_neg (by simpa using hother)]

theorem resultAttrs_cons_of_eq {attr : AttrView} (hresult : attr.type = rttAttributeResult)
    (rest : List AttrView) :
    resultAttrs (attr :: rest) = if attr.length = 0 then [] else attr :: resultAttrs rest := by
  unfold resultAttrs
  rw [List.filter_cons_of_pos (by simpa using hresult), List.takeWhile_cons]
  by_cases hempty : attr.length = 0 <;> simp [hempty]

theorem storedResults_cons (first : ℕ) (attr : AttrView) (rest : List AttrView) :
    storedResults memory first (attr :: rest) =
      if memory.malloc first then (attr, first) :: storedResults memory (first + 1) rest
      else [] := by
  unfold storedResults
  rw [List.zipIdx_cons, List.takeWhile_cons]

/-- The loop stores the results for which there is memory, and writes one entry more if it runs out. -/
theorem rttLoop_eq (payload : Bytes) (attrs : List AttrView) (parse : RttParse) :
    (rttLoop layout memory payload attrs parse).results =
        parse.results ++ (storedResults memory parse.results.length (resultAttrs attrs)).map
          (fun entry ↦ copyResult layout memory payload entry.1 entry.2) ∧
      (rttLoop layout memory payload attrs parse).written =
        parse.written ++ List.range' parse.results.length
          (min (resultAttrs attrs).length
            ((storedResults memory parse.results.length (resultAttrs attrs)).length + 1)) := by
  induction attrs generalizing parse with
  | nil => simp [rttLoop, resultAttrs, storedResults]
  | cons attr rest ih =>
    unfold rttLoop
    by_cases hcnt : attr.type = rttAttributeResultCnt
    · have hother : attr.type ≠ rttAttributeResult := by
        rw [hcnt]
        decide
      rw [if_pos hcnt, resultAttrs_cons_of_ne hother]
      exact ih _
    · rw [if_neg hcnt]
      by_cases hresult : attr.type = rttAttributeResult
      · rw [if_pos hresult, resultAttrs_cons_of_eq hresult]
        by_cases hempty : attr.length = 0
        · rw [if_pos hempty, if_pos hempty]
          simp [storedResults]
        · rw [if_neg hempty, if_neg hempty, storedResults_cons]
          by_cases hmalloc : memory.malloc parse.results.length = true
          · have hnext := ih { parse with
              results := parse.results ++
                [copyResult layout memory payload attr parse.results.length]
              written := parse.written ++ [parse.results.length] }
            dsimp only at hnext
            rw [List.length_append, List.length_singleton] at hnext
            rw [if_pos hmalloc, if_pos hmalloc, hnext.1, hnext.2]
            apply And.intro
            · rw [List.map_cons, List.append_assoc, List.singleton_append]
            · rw [List.length_cons, List.length_cons, Nat.add_min_add_right, List.range'_succ,
                List.append_assoc, List.singleton_append]
          · rw [if_neg hmalloc, if_neg hmalloc]
            apply And.intro
            · simp
            · simp
      · rw [if_neg hresult, resultAttrs_cons_of_ne hresult]
        exact ih _

/-- No more results than the array has entries, or no memory for one more, and each that is stored
fits. -/
def EventFits (payload : Payload) : Prop :=
  let results := resultAttrs payload.attrs
  let stored := storedResults memory 0 results
  (results.length ≤ maxResults ∨ stored.length < maxResults) ∧
    ∀ entry ∈ stored,
      ResultFits layout (copyBytes memory payload.bytes entry.1 entry.2) entry.1.length

theorem inside_empty : ({} : RttParse).Inside layout where
  written index hindex := absurd hindex (by simp)
  complete result hresult := absurd hresult (by simp)
  LCI result hresult := absurd hresult (by simp)
  LCR result hresult := absurd hresult (by simp)

theorem written_lt_iff (results stored : ℕ) :
    (∀ index ∈ List.range' 0 (min results (stored + 1)), index < maxResults) ↔
      results ≤ maxResults ∨ stored < maxResults := by
  apply Iff.intro
  · intro hall
    by_contra hnot
    have hbig := not_or.mp hnot
    have hlast := hall maxResults (List.mem_range'_1.mpr (by omega))
    exact Nat.lt_irrefl _ hlast
  · intro hor index hindex
    have hbound := (List.mem_range'_1.mp hindex).2
    omega

/-- A parse of the event is inside its array, its results complete, and their pointers null or inside,
exactly when the results are at most as many as the array has entries and each fits. -/
theorem rttResults_inside_iff (vendor_data : Option Payload) :
    (rttParseEvent layout memory vendor_data).Inside layout ↔
      ∀ payload ∈ vendor_data, payload.len ≠ 0 → EventFits layout memory payload := by
  cases vendor_data with
  | none => exact iff_of_true (inside_empty layout) (by simp)
  | some payload =>
    unfold rttParseEvent
    dsimp only
    by_cases hempty : payload.len = 0
    · rw [if_pos hempty]
      apply iff_of_true (inside_empty layout)
      intro other hother hlen
      rw [← Option.some.inj hother] at hlen
      exact absurd hempty hlen
    · rw [if_neg hempty]
      have hloop := rttLoop_eq layout memory payload.bytes payload.attrs {}
      have hwritten := written_lt_iff (resultAttrs payload.attrs).length
        (storedResults memory 0 (resultAttrs payload.attrs)).length
      have hfits (entry : AttrView × ℕ) := resultFits_iff layout
        (copyBytes memory payload.bytes entry.1 entry.2) entry.1.length
      rw [List.length_nil, List.nil_append, List.nil_append] at hloop
      apply Iff.intro
      · intro hinside other hother _
        rw [← Option.some.inj hother]
        have hcopies (entry : AttrView × ℕ)
            (hentry : entry ∈ storedResults memory 0 (resultAttrs payload.attrs)) :
            copyResult layout memory payload.bytes entry.1 entry.2 ∈
              (rttLoop layout memory payload.bytes payload.attrs {}).results := by
          rw [hloop.1]
          exact List.mem_map_of_mem (f := fun entry ↦
            copyResult layout memory payload.bytes entry.1 entry.2) hentry
        apply And.intro
        · apply hwritten.mp
          rw [← hloop.2]
          exact hinside.written
        · intro entry hentry
          have hcopy := hcopies entry hentry
          exact (hfits entry).mpr ⟨hinside.complete _ hcopy, hinside.LCI _ hcopy,
            hinside.LCR _ hcopy⟩
      · intro hall
        have hevent := hall payload rfl hempty
        have hresult (result : RttResult) (hmem : result ∈
            (rttLoop layout memory payload.bytes payload.attrs {}).results) :
            layout.size ≤ result.size ∧ result.LCI.Inside result.bytes result.size ∧
              result.LCR.Inside result.bytes result.size := by
          rw [hloop.1] at hmem
          obtain ⟨entry, hentry⟩ := List.mem_map.mp hmem
          rw [← hentry.2]
          exact (hfits entry).mp (hevent.2 entry hentry.1)
        apply RttParse.Inside.mk
        · rw [hloop.2]
          exact hwritten.mpr hevent.1
        · intro result hmem
          exact (hresult result hmem).1
        · intro result hmem
          exact (hresult result hmem).2.1
        · intro result hmem
          exact (hresult result hmem).2.2

/-- A layout with the pointers at the end, as in a 64-bit process. -/
def pointersLast : RttResultLayout := ⟨152, 136, 144, by decide, by decide⟩

/-- A single result attribute of four bytes. -/
def shortResult : Payload where
  bytes i := [8, 0, 33, 0, 1, 2, 3, 4].getD i 0
  len := 8

/-- The four bytes are passed on as a result. -/
theorem shortResult_not_inside :
    ¬ (rttParseEvent pointersLast ⟨fun _ ↦ true, fun _ _ ↦ 0⟩ (some shortResult)).Inside
      pointersLast := by
  intro hinside
  have hcomplete := hinside.complete (copyResult pointersLast ⟨fun _ ↦ true, fun _ _ ↦ 0⟩
    shortResult.bytes ⟨33, 4, 4⟩ 0) (List.mem_singleton.mpr rfl)
  exact absurd hcomplete (by decide)

end Bounds

end HardwareMediatek.Wifi
