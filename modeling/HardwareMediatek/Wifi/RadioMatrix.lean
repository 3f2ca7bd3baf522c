import HardwareMediatek.Wifi.GetterReplies

/-!
# The radio combination matrix

`GetSupportedRadioCombinationsMatrixCommand::handleResponse` writes the size that it expects before it
compares it with the caller's, and fills the caller's matrix while it still converts the driver's
codes, so a reply that it refuses can leave parts of itself behind.
-/

namespace HardwareMediatek.Wifi

open Foundation

def wifiAttributeRadioCombinationsMatrixMatrix : ℕ := 1
def combMatrixLen : ℕ := 6
/-- The sizes of `ANDROID_T_COMB_UNIT` and `ANDROID_T_COMB_MATRIX`. -/
def sizeofCombUnit : ℕ := 4
def sizeofCombMatrix : ℕ := sizeofCombUnit * combMatrixLen

def sizeofWifiRadioCombinationMatrix : ℕ := 4
def sizeofWifiRadioCombination : ℕ := 4
def sizeofWifiRadioConfiguration : ℕ := 8

inductive WlanMacBand where
  | band_2_4
  | band_5_0
  | band_6_0
  | band_60_0
  deriving DecidableEq, Repr

inductive WifiAntennaConfiguration where
  | antenna_1x1
  | antenna_2x2
  | antenna_3x3
  | antenna_4x4
  deriving DecidableEq, Repr

/-- A field that the clearing of the matrix left at zero is `none`. -/
structure RadioConfiguration where
  band : Option WlanMacBand := none
  antenna_cfg : Option WifiAntennaConfiguration := none
  deriving DecidableEq, Repr

structure RadioCombination where
  radio_configurations : List RadioConfiguration
  deriving DecidableEq, Repr

structure RadioCombinationMatrix where
  num_radio_combinations : ℕ
  radio_combinations : List RadioCombination
  deriving DecidableEq, Repr

/-- `ANDROID_T_COMB_UNIT` -/
structure CombUnit where
  band_0 : ℕ
  ant_0 : ℕ
  band_1 : ℕ
  ant_1 : ℕ
  deriving DecidableEq, Repr

def combUnitAt (bytes : Bytes) (pos : ℕ) : CombUnit where
  band_0 := (bytes pos).toNat
  ant_0 := (bytes (pos + 1)).toNat
  band_1 := (bytes (pos + 2)).toNat
  ant_1 := (bytes (pos + 3)).toNat

/-- The driver's matrix in an attribute. -/
def combMatrixAt (bytes : Bytes) (start : ℕ) : List CombUnit :=
  (List.range combMatrixLen).map fun i ↦ combUnitAt bytes (start + sizeofCombUnit * i)

def convert_band : ℕ → Option WlanMacBand
  | 2 => some .band_2_4
  | 5 => some .band_5_0
  | 6 => some .band_6_0
  | 60 => some .band_60_0
  | _ => none

def convert_antenna : ℕ → Option WifiAntennaConfiguration
  | 1 => some .antenna_1x1
  | 2 => some .antenna_2x2
  | 3 => some .antenna_3x3
  | 5 => some .antenna_4x4
  | _ => none

/-- The expected size and the number of combinations. -/
def check_sanity (driver_matrix : List CombUnit) : ℕ × ℕ :=
  driver_matrix.foldl (fun (expected_size, count) unit ↦
    if unit.band_0 ≠ 0 then
      (expected_size + sizeofWifiRadioCombination + sizeofWifiRadioConfiguration +
        (if unit.band_1 ≠ 0 then sizeofWifiRadioConfiguration else 0), count + 1)
    else (expected_size, count)) (sizeofWifiRadioCombinationMatrix, 0)

/-- Whether both codes of a configuration could be converted, and what was written. -/
def fillConfiguration (band antenna : ℕ) : Bool × RadioConfiguration :=
  match convert_band band with
  | none => (false, {})
  | some converted =>
      match convert_antenna antenna with
      | none => (false, { band := converted })
      | some antenna_cfg => (true, { band := converted, antenna_cfg := antenna_cfg })

def fillCombination (unit : CombUnit) : Bool × RadioCombination :=
  let first := fillConfiguration unit.band_0 unit.ant_0
  if first.1 ∧ unit.band_1 ≠ 0 then
    let second := fillConfiguration unit.band_1 unit.ant_1
    (second.1, { radio_configurations := [first.2, second.2] })
  else (first.1, { radio_configurations := [first.2] })

/-- The loop over the driver's matrix ends at the first code that it cannot convert. -/
def fillCombinations : List CombUnit → Bool × List RadioCombination
  | [] => (true, [])
  | unit :: units =>
      if unit.band_0 = 0 then fillCombinations units
      else
        let combination := fillCombination unit
        if combination.1 then
          let rest := fillCombinations units
          (rest.1, combination.2 :: rest.2)
        else (false, [combination.2])

structure RadioMatrixOutputs where
  rc_size : Cell ℕ
  matrix : Cell RadioCombinationMatrix

section Decoding

variable (set_size_max : ℕ) (bytes : Bytes) (k : ℕ)

def decodeRadioMatrix : List AttrView → RadioMatrixOutputs → NlStatus × RadioMatrixOutputs
  | [], outputs => (.ok, outputs)
  | attr :: attrs, outputs =>
      if attr.type = wifiAttributeRadioCombinationsMatrixMatrix then
        if attr.length < sizeofCombMatrix then (.skip, outputs)
        else
          let driver_matrix := combMatrixAt bytes attr.start
          let sanity := check_sanity driver_matrix
          let sized := { outputs with rc_size := ⟨sanity.1, .reply k⟩ }
          if set_size_max < sanity.1 then (.skip, sized)
          else
            let filled := fillCombinations driver_matrix
            let written := { sized with matrix := ⟨⟨sanity.2, filled.2⟩, .reply k⟩ }
            if filled.1 then decodeRadioMatrix attrs written else (.skip, written)
      else decodeRadioMatrix attrs outputs

end Decoding

/-! ## The replies that are decoded -/

/-- Every code of a combination stands for a band or an antenna configuration. -/
def CombUnit.Known (unit : CombUnit) : Prop :=
  unit.band_0 ≠ 0 →
    ((convert_band unit.band_0).isSome ∧ (convert_antenna unit.ant_0).isSome) ∧
      (unit.band_1 ≠ 0 → (convert_band unit.band_1).isSome ∧ (convert_antenna unit.ant_1).isSome)

theorem fillConfiguration_iff (band antenna : ℕ) :
    (fillConfiguration band antenna).1 = true ↔
      (convert_band band).isSome ∧ (convert_antenna antenna).isSome := by
  unfold fillConfiguration
  cases convert_band band with
  | none => simp
  | some converted =>
    cases convert_antenna antenna with
    | none => simp
    | some antenna_cfg => simp

theorem fillCombination_iff {unit : CombUnit} (hband : unit.band_0 ≠ 0) :
    (fillCombination unit).1 = true ↔ unit.Known := by
  unfold CombUnit.Known
  rw [← fillConfiguration_iff, ← fillConfiguration_iff]
  unfold fillCombination
  dsimp only
  by_cases hsecond : (fillConfiguration unit.band_0 unit.ant_0).1 = true ∧ unit.band_1 ≠ 0
  · rw [if_pos hsecond]
    apply Iff.intro
    · intro hfilled _
      exact ⟨hsecond.1, fun _ ↦ hfilled⟩
    · intro hknown
      exact (hknown hband).2 hsecond.2
  · rw [if_neg hsecond]
    apply Iff.intro
    · intro hfilled _
      exact ⟨hfilled, fun hband_1 ↦ absurd ⟨hfilled, hband_1⟩ hsecond⟩
    · intro hknown
      exact (hknown hband).1

theorem fillCombinations_iff (units : List CombUnit) :
    (fillCombinations units).1 = true ↔ ∀ unit ∈ units, unit.Known := by
  induction units with
  | nil => simp [fillCombinations]
  | cons unit units ih =>
    rw [List.forall_mem_cons, ← ih, fillCombinations]
    by_cases hband : unit.band_0 = 0
    · have hknown : unit.Known := fun hnot ↦ absurd hband hnot
      rw [if_pos hband, and_iff_right hknown]
    · rw [if_neg hband, ← fillCombination_iff hband]
      dsimp only
      by_cases hfilled : (fillCombination unit).1 = true
      · rw [if_pos hfilled, and_iff_right hfilled]
      · rw [if_neg hfilled]
        exact iff_of_false Bool.false_ne_true fun hboth ↦ hfilled hboth.1

/-- The matrix in an attribute is long enough, fits in the caller's memory, and has known codes
only. -/
structure MatrixAccepted (set_size_max : ℕ) (bytes : Bytes) (attr : AttrView) : Prop where
  length : sizeofCombMatrix ≤ attr.length
  size : (check_sanity (combMatrixAt bytes attr.start)).1 ≤ set_size_max
  known : ∀ unit ∈ combMatrixAt bytes attr.start, unit.Known

def firstMatrix (attrs : List AttrView) : Option AttrView :=
  attrs.find? fun attr ↦ attr.type = wifiAttributeRadioCombinationsMatrixMatrix

theorem firstMatrix_cons (attr : AttrView) (attrs : List AttrView) :
    firstMatrix (attr :: attrs) =
      if attr.type = wifiAttributeRadioCombinationsMatrixMatrix then some attr
      else firstMatrix attrs := by
  unfold firstMatrix
  by_cases htype : attr.type = wifiAttributeRadioCombinationsMatrixMatrix
  · rw [if_pos htype]
    exact List.find?_cons_of_pos (decide_eq_true htype)
  · rw [if_neg htype]
    apply List.find?_cons_of_neg
    rw [decide_eq_true_eq]
    exact htype

/-- The first matrix is long enough to be looked at. -/
def FirstMatrixReached (attrs : List AttrView) : Prop :=
  ∃ attr ∈ firstMatrix attrs, sizeofCombMatrix ≤ attr.length

def MatrixTouches (payload : Payload) : Prop := FirstMatrixReached payload.attrs

instance : DecidablePred MatrixTouches := fun payload ↦
  inferInstanceAs (Decidable (∃ attr ∈ firstMatrix payload.attrs, sizeofCombMatrix ≤ attr.length))

/-- There is a matrix, and every one is accepted. -/
def MatrixCompletes (set_size_max : ℕ) (payload : Payload) : Prop :=
  (∃ attr ∈ payload.attrs, attr.type = wifiAttributeRadioCombinationsMatrixMatrix) ∧
    ∀ attr ∈ payload.attrs, attr.type = wifiAttributeRadioCombinationsMatrixMatrix →
      MatrixAccepted set_size_max payload.bytes attr

def RadioMatrixOutputs.WrittenFrom (j : ℕ) (outputs : RadioMatrixOutputs) : Prop :=
  outputs.rc_size.source = .reply j ∧ outputs.matrix.source = .reply j

def RadioMatrixOutputs.Older (k : ℕ) (outputs : RadioMatrixOutputs) : Prop :=
  outputs.rc_size.source.Before k ∧ outputs.matrix.source.Before k

section Results

variable {set_size_max : ℕ} {bytes : Bytes} {k : ℕ}

/-- What holds of the sources before and of the reply holds of the sources afterwards. -/
theorem size_source_decodeRadioMatrix (P : Source → Prop) (hreply : P (.reply k))
    (attrs : List AttrView) {outputs : RadioMatrixOutputs} (hsize : P outputs.rc_size.source) :
    P (decodeRadioMatrix set_size_max bytes k attrs outputs).2.rc_size.source := by
  induction attrs generalizing outputs with
  | nil => exact hsize
  | cons attr attrs ih =>
    unfold decodeRadioMatrix
    dsimp only
    split
    · split
      · exact hsize
      · split
        · exact hreply
        · split
          · apply ih
            exact hreply
          · exact hreply
    · exact ih hsize

theorem matrix_source_decodeRadioMatrix (P : Source → Prop) (hreply : P (.reply k))
    (attrs : List AttrView) {outputs : RadioMatrixOutputs} (hmatrix : P outputs.matrix.source) :
    P (decodeRadioMatrix set_size_max bytes k attrs outputs).2.matrix.source := by
  induction attrs generalizing outputs with
  | nil => exact hmatrix
  | cons attr attrs ih =>
    unfold decodeRadioMatrix
    dsimp only
    split
    · split
      · exact hmatrix
      · split
        · exact hmatrix
        · split
          · apply ih
            exact hreply
          · exact hreply
    · exact ih hmatrix

/-- The loop ends normally exactly when it accepts every matrix. -/
theorem decodeRadioMatrix_ok_iff (attrs : List AttrView) (outputs : RadioMatrixOutputs) :
    (decodeRadioMatrix set_size_max bytes k attrs outputs).1 = .ok ↔
      ∀ attr ∈ attrs, attr.type = wifiAttributeRadioCombinationsMatrixMatrix →
        MatrixAccepted set_size_max bytes attr := by
  induction attrs generalizing outputs with
  | nil => simp [decodeRadioMatrix]
  | cons attr attrs ih =>
    rw [List.forall_mem_cons]
    unfold decodeRadioMatrix
    dsimp only
    by_cases htype : attr.type = wifiAttributeRadioCombinationsMatrixMatrix
    · rw [if_pos htype]
      by_cases hlength : attr.length < sizeofCombMatrix
      · rw [if_pos hlength]
        apply iff_of_false
        · exact fun hskip ↦ nomatch hskip
        · exact fun hboth ↦ Nat.not_le_of_lt hlength (hboth.1 htype).length
      · rw [if_neg hlength]
        by_cases hsize : set_size_max < (check_sanity (combMatrixAt bytes attr.start)).1
        · rw [if_pos hsize]
          apply iff_of_false
          · exact fun hskip ↦ nomatch hskip
          · exact fun hboth ↦ Nat.not_le_of_lt hsize (hboth.1 htype).size
        · rw [if_neg hsize]
          by_cases hfilled : (fillCombinations (combMatrixAt bytes attr.start)).1 = true
          · have haccepted : MatrixAccepted set_size_max bytes attr :=
              ⟨Nat.le_of_not_lt hlength, Nat.le_of_not_lt hsize,
                (fillCombinations_iff _).mp hfilled⟩
            rw [if_pos hfilled, ih, and_iff_right fun _ ↦ haccepted]
          · rw [if_neg hfilled]
            apply iff_of_false
            · exact fun hskip ↦ nomatch hskip
            · exact fun hboth ↦ hfilled ((fillCombinations_iff _).mpr (hboth.1 htype).known)
    · rw [if_neg htype, ih, and_iff_right fun hsame ↦ absurd hsame htype]

theorem decodeRadioMatrix_of_not_reached {attrs : List AttrView} (hnot : ¬ FirstMatrixReached attrs)
    (outputs : RadioMatrixOutputs) :
    (decodeRadioMatrix set_size_max bytes k attrs outputs).2 = outputs := by
  unfold FirstMatrixReached at hnot
  induction attrs with
  | nil => rfl
  | cons attr attrs ih =>
    unfold decodeRadioMatrix
    rw [firstMatrix_cons] at hnot
    by_cases htype : attr.type = wifiAttributeRadioCombinationsMatrixMatrix
    · rw [if_pos htype] at hnot ⊢
      rw [if_pos]
      apply Nat.lt_of_not_le
      intro hlength
      exact hnot ⟨attr, rfl, hlength⟩
    · rw [if_neg htype] at hnot ⊢
      exact ih hnot

theorem size_source_of_reached {attrs : List AttrView} (hreached : FirstMatrixReached attrs)
    (outputs : RadioMatrixOutputs) :
    (decodeRadioMatrix set_size_max bytes k attrs outputs).2.rc_size.source = .reply k := by
  unfold FirstMatrixReached at hreached
  induction attrs with
  | nil =>
    obtain ⟨attr, hattr⟩ := hreached
    cases hattr.1
  | cons attr attrs ih =>
    unfold decodeRadioMatrix
    rw [firstMatrix_cons] at hreached
    by_cases htype : attr.type = wifiAttributeRadioCombinationsMatrixMatrix
    · rw [if_pos htype] at hreached ⊢
      have hlength : sizeofCombMatrix ≤ attr.length := by
        obtain ⟨first, hfirst⟩ := hreached
        rw [Option.some.inj hfirst.1]
        exact hfirst.2
      rw [if_neg (Nat.not_lt_of_le hlength)]
      dsimp only
      split
      · rfl
      · split
        · exact size_source_decodeRadioMatrix (· = .reply k) rfl attrs rfl
        · rfl
    · rw [if_neg htype] at hreached ⊢
      exact ih hreached

/-- A loop that accepts a matrix has written both outputs. -/
theorem matrix_source_of_accepted {attrs : List AttrView} (outputs : RadioMatrixOutputs)
    (haccepted : ∀ attr ∈ attrs, attr.type = wifiAttributeRadioCombinationsMatrixMatrix →
      MatrixAccepted set_size_max bytes attr)
    (hmatrix : ∃ attr ∈ attrs, attr.type = wifiAttributeRadioCombinationsMatrixMatrix) :
    (decodeRadioMatrix set_size_max bytes k attrs outputs).2.matrix.source = .reply k := by
  induction attrs with
  | nil =>
    obtain ⟨attr, hattr⟩ := hmatrix
    cases hattr.1
  | cons attr attrs ih =>
    rw [List.forall_mem_cons] at haccepted
    unfold decodeRadioMatrix
    by_cases htype : attr.type = wifiAttributeRadioCombinationsMatrixMatrix
    · have hattr := haccepted.1 htype
      dsimp only
      rw [if_pos htype, if_neg (Nat.not_lt_of_le hattr.length),
        if_neg (Nat.not_lt_of_le hattr.size), if_pos ((fillCombinations_iff _).mpr hattr.known)]
      exact matrix_source_decodeRadioMatrix (· = .reply k) rfl attrs rfl
    · rw [if_neg htype]
      apply ih haccepted.2
      rw [List.exists_mem_cons_iff] at hmatrix
      exact hmatrix.resolve_left htype

theorem decodes_radioMatrix (set_size_max : ℕ) :
    Decodes RadioMatrixOutputs.WrittenFrom
      (fun k (payload : Payload) outputs ↦
        decodeRadioMatrix set_size_max payload.bytes k payload.attrs outputs)
      RadioMatrixOutputs.Older MatrixTouches (MatrixCompletes set_size_max) := by
  apply Decodes.mk
  · intro k payload outputs hnot
    exact decodeRadioMatrix_of_not_reached hnot outputs
  · intro k payload outputs htouches holder
    have hsize := holder.1
    rw [size_source_of_reached htouches] at hsize
    exact Nat.lt_irrefl k hsize
  · intro k payload outputs holder
    apply And.intro
    · exact size_source_decodeRadioMatrix (Source.Before (k + 1)) (Nat.lt_succ_self k) _
        (holder.1.mono (Nat.le_succ k))
    · exact matrix_source_decodeRadioMatrix (Source.Before (k + 1)) (Nat.lt_succ_self k) _
        (holder.2.mono (Nat.le_succ k))
  · intro k l outputs hle holder
    exact ⟨holder.1.mono hle, holder.2.mono hle⟩
  · intro k j outputs holder hwritten
    have hbefore := holder.1
    rw [hwritten.1] at hbefore
    exact hbefore
  · intro k j payload outputs htouches hwritten
    have hsize := hwritten.1
    rw [size_source_of_reached htouches] at hsize
    exact (Source.reply.inj hsize).symm
  · intro k payload outputs holder htouches
    unfold MatrixCompletes
    rw [decodeRadioMatrix_ok_iff, and_comm]
    apply and_congr_left
    intro haccepted
    apply Iff.intro
    · intro _
      obtain ⟨attr, hattr⟩ := htouches
      have hfound := List.find?_some hattr.1
      exact ⟨attr, List.mem_of_find?_eq_some hattr.1, of_decide_eq_true hfound⟩
    · intro hmatrix
      exact ⟨size_source_of_reached htouches outputs,
        matrix_source_of_accepted outputs haccepted hmatrix⟩

end Results

end HardwareMediatek.Wifi
