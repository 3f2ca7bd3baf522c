import HardwareMediatek.Foundation.ByteWriter
import HardwareMediatek.Foundation.Checked
import HardwareMediatek.Wifi.RadioMatrix

/-!
# Layout of the radio combination matrix

Combinations lie one behind the other, each a number of configurations and the configurations. One function
adds up their sizes, a second writes them with a stride of its own, and a third walks over them with the
numbers that it finds.
-/

namespace HardwareMediatek.Wifi

open Foundation

section Writer

/-- The enumerators of the framework. -/
structure RadioCodes where
  band : WlanMacBand → UInt32
  antenna : WifiAntennaConfiguration → UInt32

/-- `*field = value;` for a field of four bytes. -/
def store32 (matrix : ByteWriter) (start value : ℕ) : ByteWriter := matrix.storeAll start (le32 value)

/-- `radio_configurations[j]` of a combination. -/
def configurationAt (p_combo j : ℕ) : ℕ :=
  p_combo + sizeofWifiRadioCombination + sizeofWifiRadioConfiguration * j

/-- From one combination to the next, in the memory as it is. -/
def nextCombination (bytes : Bytes) (p_combo : ℕ) : ℕ :=
  p_combo + sizeofWifiRadioCombination + sizeofWifiRadioConfiguration * u32At bytes p_combo

variable (codes : RadioCodes)

/-- The pointer of the writer is `p_combo`. A code that is not known leaves the memory as it is by then. -/
def writeConfiguration (matrix : ByteWriter) (j band antenna : ℕ) : Except ByteWriter ByteWriter :=
  match convert_band band with
  | none => .error matrix
  | some converted =>
    let matrix := store32 matrix (configurationAt matrix.pos j) (codes.band converted).toNat
    match convert_antenna antenna with
    | none => .error matrix
    | some antenna_cfg =>
      .ok (store32 matrix (configurationAt matrix.pos j + 4) (codes.antenna antenna_cfg).toNat)

/-- The second configuration, after the number is counted up. -/
def writeSecond (matrix : ByteWriter) (unit : CombUnit) : Except ByteWriter ByteWriter :=
  if unit.band_1 = 0 then .ok matrix
  else
    writeConfiguration codes (store32 matrix matrix.pos (u32At matrix.bytes matrix.pos + 1)) 1 unit.band_1
      unit.ant_1

/-- One round of the loop. -/
def writeCombination (matrix : ByteWriter) (unit : CombUnit) : Except ByteWriter ByteWriter :=
  if unit.band_0 = 0 then .ok matrix
  else do
    let matrix ← writeConfiguration codes (store32 matrix matrix.pos 1) 0 unit.band_0 unit.ant_0
    let matrix ← writeSecond codes matrix unit
    return { matrix with pos := nextCombination matrix.bytes matrix.pos }

/-- What `handleResponse` makes of a driver's matrix: the memory of the caller is cleared, and then written.
The clearing does not count as written. -/
def writeMatrix (set_size_max : ℕ) (memory : Bytes) (driver_matrix : List CombUnit) :
    Except ByteWriter ByteWriter :=
  let sanity := check_sanity driver_matrix
  if set_size_max < sanity.1 then .error ⟨memory, 0, 0⟩
  else
    let cleared : ByteWriter := ⟨fun pos ↦ if pos < set_size_max then 0 else memory pos, 0, 0⟩
    let counted := store32 cleared 0 sanity.2
    driver_matrix.foldlM (writeCombination codes) { counted with pos := sizeofWifiRadioCombinationMatrix }

end Writer

section Reader

/-- Band and antenna configuration, as numbers. -/
abbrev Configuration := ℕ × ℕ

def configurations (bytes : Bytes) (p_combo : ℕ) : List Configuration :=
  (List.range (u32At bytes p_combo)).map fun j ↦
    (u32At bytes (configurationAt p_combo j), u32At bytes (configurationAt p_combo j + 4))

/-- The loop over combinations. -/
def walkCombinations (bytes : Bytes) : ℕ → ℕ → List (List Configuration)
  | 0, _ => []
  | left + 1, p_combo =>
    configurations bytes p_combo :: walkCombinations bytes left (nextCombination bytes p_combo)

/-- What `dump_matrix` visits. -/
def dump_matrix (bytes : Bytes) : List (List Configuration) :=
  walkCombinations bytes (u32At bytes 0) sizeofWifiRadioCombinationMatrix

end Reader

/-! ## The rows of a matrix -/

section Rows

variable (codes : RadioCodes)

/-- The codes of a configuration, converted. -/
def convertedConfiguration (band antenna : ℕ) : Configuration :=
  (((convert_band band).map fun converted ↦ (codes.band converted).toNat).getD 0,
    ((convert_antenna antenna).map fun antenna_cfg ↦ (codes.antenna antenna_cfg).toNat).getD 0)

def convertedRow (unit : CombUnit) : List Configuration :=
  convertedConfiguration codes unit.band_0 unit.ant_0 ::
    if unit.band_1 = 0 then [] else [convertedConfiguration codes unit.band_1 unit.ant_1]

/-- The rows with a band, in their order. -/
def usedRows (driver_matrix : List CombUnit) : List (List Configuration) :=
  (driver_matrix.filter fun unit ↦ unit.band_0 ≠ 0).map (convertedRow codes)

def encodeConfiguration (configuration : Configuration) : List UInt8 :=
  le32 configuration.1 ++ le32 configuration.2

def encodeRow (row : List Configuration) : List UInt8 := le32 row.length ++ row.flatMap encodeConfiguration

def encodeRows (rows : List (List Configuration)) : List UInt8 := rows.flatMap encodeRow

theorem usedRows_cons (unit : CombUnit) (units : List CombUnit) :
    usedRows codes (unit :: units) =
      if unit.band_0 = 0 then usedRows codes units else convertedRow codes unit :: usedRows codes units := by
  unfold usedRows
  rw [List.filter_cons]
  by_cases hband : unit.band_0 = 0
  · rw [if_pos hband, if_neg (by simp [hband])]
  · rw [if_neg hband, if_pos (by simp [hband]), List.map_cons]

theorem length_encodeRow (row : List Configuration) :
    (encodeRow row).length = sizeofWifiRadioCombination + sizeofWifiRadioConfiguration * row.length := by
  have hconfigurations : (row.flatMap encodeConfiguration).length = 8 * row.length := by
    induction row with
    | nil => rfl
    | cons configuration row ih =>
      have hhead : (encodeConfiguration configuration).length = 8 := rfl
      rw [List.flatMap_cons, List.length_append, ih, hhead, List.length_cons]
      omega
  unfold encodeRow
  rw [List.length_append, hconfigurations, length_le32]
  rfl

/-- The sizes that `check_sanity` adds up are those of the rows. -/
theorem check_sanity_eq (units : List CombUnit) :
    check_sanity units =
      (sizeofWifiRadioCombinationMatrix + (encodeRows (usedRows codes units)).length,
        (usedRows codes units).length) := by
  have hfold : ∀ size count : ℕ, units.foldl (fun sizes unit ↦
      if unit.band_0 ≠ 0 then
        (sizes.1 + sizeofWifiRadioCombination + sizeofWifiRadioConfiguration +
          (if unit.band_1 ≠ 0 then sizeofWifiRadioConfiguration else 0), sizes.2 + 1)
      else sizes) (size, count) =
        (size + (encodeRows (usedRows codes units)).length, count + (usedRows codes units).length) := by
    induction units with
    | nil => exact fun size count ↦ rfl
    | cons unit units ih =>
      intro size count
      rw [List.foldl_cons, usedRows_cons]
      dsimp only
      by_cases hband : unit.band_0 = 0
      · rw [if_neg (not_not_intro hband), if_pos hband]
        exact ih size count
      · have hrow : (encodeRow (convertedRow codes unit)).length =
            sizeofWifiRadioCombination + sizeofWifiRadioConfiguration +
              (if unit.band_1 ≠ 0 then sizeofWifiRadioConfiguration else 0) := by
          rw [length_encodeRow]
          unfold convertedRow
          by_cases hsecond : unit.band_1 = 0
          · rw [if_pos hsecond, if_neg (not_not_intro hsecond)]
            rfl
          · rw [if_neg hsecond, if_pos hsecond]
            rfl
        rw [if_pos hband, if_neg hband, ih]
        apply Prod.ext
        · unfold encodeRows
          rw [List.flatMap_cons, List.length_append, hrow]
          dsimp only
          omega
        · rw [List.length_cons]
          dsimp only
          omega
  have hstart := hfold sizeofWifiRadioCombinationMatrix 0
  rw [Nat.zero_add] at hstart
  exact hstart

/-- A combination of the decoded matrix, in the codes of the framework. -/
def RadioCombination.row (combination : RadioCombination) : List Configuration :=
  combination.radio_configurations.map fun configuration ↦
    ((configuration.band.map fun band ↦ (codes.band band).toNat).getD 0,
      (configuration.antenna_cfg.map fun antenna_cfg ↦ (codes.antenna antenna_cfg).toNat).getD 0)

theorem row_fillCombination {unit : CombUnit} (hfilled : (fillCombination unit).1 = true) :
    (fillCombination unit).2.row codes = convertedRow codes unit := by
  have hconfiguration : ∀ band antenna, (fillConfiguration band antenna).1 = true →
      RadioCombination.row codes ⟨[(fillConfiguration band antenna).2]⟩ =
        [convertedConfiguration codes band antenna] := by
    intro band antenna hconverted
    rw [fillConfiguration_iff] at hconverted
    obtain ⟨converted, hband⟩ := Option.isSome_iff_exists.mp hconverted.1
    obtain ⟨antenna_cfg, hantenna⟩ := Option.isSome_iff_exists.mp hconverted.2
    unfold fillConfiguration convertedConfiguration
    rw [hband, hantenna]
    rfl
  unfold fillCombination at hfilled ⊢
  unfold convertedRow
  dsimp only at hfilled ⊢
  split_ifs at hfilled ⊢ with hboth hband hband
  · exact absurd hband hboth.2
  · apply congrArg₂ List.cons
    · exact List.cons.inj (hconfiguration _ _ hboth.1) |>.1
    · exact hconfiguration _ _ hfilled
  · exact hconfiguration _ _ hfilled
  · exact absurd ⟨hfilled, hband⟩ hboth

/-- The rows are those of the decoded matrix. -/
theorem map_row_fillCombinations {units : List CombUnit} (hknown : ∀ unit ∈ units, unit.Known) :
    (fillCombinations units).2.map (RadioCombination.row codes) = usedRows codes units := by
  induction units with
  | nil => rfl
  | cons unit units ih =>
    rw [List.forall_mem_cons] at hknown
    rw [usedRows_cons, fillCombinations]
    by_cases hband : unit.band_0 = 0
    · rw [if_pos hband, if_pos hband]
      exact ih hknown.2
    · have hfilled := (fillCombination_iff hband).mpr hknown.1
      rw [if_neg hband, if_neg hband]
      dsimp only
      rw [if_pos hfilled, List.map_cons, ih hknown.2, row_fillCombination codes hfilled]

end Rows

/-! ## Writing -/

section Writing

variable (codes : RadioCodes) {unit : CombUnit}

theorem writes_store32 (matrix : ByteWriter) (start value : ℕ) :
    ByteWriter.Writes matrix (store32 matrix start value) start (le32 value) :=
  ByteWriter.writes_storeAll matrix start (le32 value)

theorem store32_pos (matrix : ByteWriter) (start value : ℕ) : (store32 matrix start value).pos = matrix.pos :=
  ByteWriter.storeAll_pos matrix start (le32 value)

/-- A configuration with known codes is written. -/
theorem exists_writeConfiguration (before : ByteWriter) (j : ℕ) {band antenna : ℕ}
    (hband : (convert_band band).isSome = true) (hantenna : (convert_antenna antenna).isSome = true) :
    ∃ after, writeConfiguration codes before j band antenna = .ok after ∧ after.pos = before.pos ∧
      ByteWriter.Writes before after (configurationAt before.pos j)
        (encodeConfiguration (convertedConfiguration codes band antenna)) := by
  obtain ⟨converted, hconverted⟩ := Option.isSome_iff_exists.mp hband
  obtain ⟨antenna_cfg, hcfg⟩ := Option.isSome_iff_exists.mp hantenna
  unfold writeConfiguration encodeConfiguration convertedConfiguration
  rw [hconverted, hcfg]
  refine ⟨_, rfl, ?_, ?_⟩
  · rw [store32_pos, store32_pos]
  · apply (writes_store32 before _ _).trans
    rw [store32_pos]
    exact writes_store32 _ _ _

/-- The row behind one that was written ends where the number in its front says. -/
theorem appends_of_writes {before after : ByteWriter} {row : List Configuration}
    (hcount : row.length < 4294967296) (hpos : after.pos = before.pos)
    (hwrites : ByteWriter.Writes before after before.pos (encodeRow row)) :
    ByteWriter.Appends before { after with pos := nextCombination after.bytes after.pos } (encodeRow row) where
  writes := ⟨hwrites.holds, hwrites.kept, hwrites.written⟩
  pos := by
    have hnumber : u32At after.bytes before.pos = row.length :=
      u32At_of_holds hcount ((holds_append _ _).mp hwrites.holds).1
    unfold nextCombination
    rw [hpos, hnumber, length_encodeRow, Nat.add_assoc]

/-- A row in use is appended, whole. -/
theorem exists_writeCombination (before : ByteWriter) (hused : unit.band_0 ≠ 0) (hknown : unit.Known) :
    ∃ after, writeCombination codes before unit = .ok after ∧
      ByteWriter.Appends before after (encodeRow (convertedRow codes unit)) := by
  have hknown_0 := (hknown hused).1
  obtain ⟨first, hfirst, hfirstPos, hfirstWrites⟩ :=
    exists_writeConfiguration codes (store32 before before.pos 1) 0 hknown_0.1 hknown_0.2
  rw [store32_pos] at hfirstPos hfirstWrites
  have hone := (writes_store32 before before.pos 1).trans hfirstWrites
  unfold writeCombination convertedRow
  rw [if_neg hused]
  by_cases hband : unit.band_1 = 0
  · have hsecond : writeSecond codes first unit = .ok first := if_pos hband
    rw [if_pos hband]
    refine ⟨_, bind_eq_ok.mpr ⟨first, hfirst, bind_eq_ok.mpr ⟨first, hsecond, rfl⟩⟩, ?_⟩
    refine appends_of_writes ?_ hfirstPos ?_
    · exact show 1 < 4294967296 by decide
    · unfold encodeRow
      rw [List.flatMap_singleton]
      exact hone
  · -- The number is read back, counted up and written over.
    have hknown_1 := (hknown hused).2 hband
    have hnumber : u32At first.bytes first.pos = 1 := by
      rw [hfirstPos]
      exact u32At_of_holds (by decide) ((holds_append _ _).mp hone.holds).1
    have hcounted := hone.overwriteFront (writes_store32 first before.pos 2) rfl
    obtain ⟨second, hsecond, hsecondPos, hsecondWrites⟩ :=
      exists_writeConfiguration codes (store32 first first.pos 2) 1 hknown_1.1 hknown_1.2
    have hwriteSecond : writeSecond codes first unit = .ok second := by
      unfold writeSecond
      rw [if_neg hband, hnumber]
      exact hsecond
    rw [store32_pos, hfirstPos] at hsecondPos hsecondWrites
    have htwo := hcounted.trans hsecondWrites
    rw [if_neg hband]
    refine ⟨_, bind_eq_ok.mpr ⟨first, hfirst, bind_eq_ok.mpr ⟨second, hwriteSecond, rfl⟩⟩, ?_⟩
    refine appends_of_writes ?_ hsecondPos ?_
    · exact show 2 < 4294967296 by decide
    · unfold encodeRow
      rw [List.flatMap_cons, List.flatMap_singleton, ← List.append_assoc]
      exact htwo

/-- The used rows are appended, one behind the other. -/
theorem exists_foldlM_writeCombination (before : ByteWriter) (units : List CombUnit)
    (hknown : ∀ unit ∈ units, unit.Known) :
    ∃ after, units.foldlM (writeCombination codes) before = .ok after ∧
      ByteWriter.Appends before after (encodeRows (usedRows codes units)) := by
  induction units generalizing before with
  | nil => exact ⟨before, rfl, ByteWriter.Appends.nil before⟩
  | cons unit units ih =>
    rw [List.forall_mem_cons] at hknown
    rw [List.foldlM_cons, usedRows_cons]
    by_cases hband : unit.band_0 = 0
    · have hskip : writeCombination codes before unit = .ok before := if_pos hband
      rw [if_pos hband, hskip]
      exact ih before hknown.2
    · obtain ⟨middle, hmiddle, happends⟩ := exists_writeCombination codes before hband hknown.1
      obtain ⟨after, hafter, hrest⟩ := ih middle hknown.2
      rw [if_neg hband, hmiddle]
      exact ⟨after, hafter, happends.trans hrest⟩

theorem isOk_writeConfiguration (matrix : ByteWriter) (j band antenna : ℕ) :
    (writeConfiguration codes matrix j band antenna).isOk = (fillConfiguration band antenna).1 := by
  unfold writeConfiguration fillConfiguration
  cases convert_band band with
  | none => rfl
  | some converted =>
    cases convert_antenna antenna with
    | none => rfl
    | some antenna_cfg => rfl

theorem isOk_writeCombination (matrix : ByteWriter) (hused : unit.band_0 ≠ 0) :
    (writeCombination codes matrix unit).isOk = (fillCombination unit).1 := by
  have hfirst := isOk_writeConfiguration codes (store32 matrix matrix.pos 1) 0 unit.band_0 unit.ant_0
  unfold writeCombination fillCombination
  rw [if_neg hused]
  cases hwritten : writeConfiguration codes (store32 matrix matrix.pos 1) 0 unit.band_0 unit.ant_0 with
  | error left =>
    rw [hwritten] at hfirst
    dsimp only
    rw [← hfirst]
    rfl
  | ok first =>
    rw [hwritten] at hfirst
    dsimp only
    rw [← hfirst]
    change (writeSecond codes first unit >>= _).isOk = _
    unfold writeSecond
    by_cases hband : unit.band_1 = 0
    · rw [if_pos hband, if_neg (fun hboth ↦ hboth.2 hband)]
      rfl
    · rw [if_neg hband, if_pos ⟨rfl, hband⟩]
      dsimp only
      rw [← isOk_writeConfiguration codes
        (store32 first first.pos (u32At first.bytes first.pos + 1)) 1 unit.band_1 unit.ant_1]
      cases writeConfiguration codes _ 1 unit.band_1 unit.ant_1 with
      | error left => rfl
      | ok second => rfl

/-- The loop that writes comes to its end exactly where the one that decodes does. -/
theorem isOk_foldlM_writeCombination (before : ByteWriter) (units : List CombUnit) :
    (units.foldlM (writeCombination codes) before).isOk = (fillCombinations units).1 := by
  induction units generalizing before with
  | nil => rfl
  | cons unit units ih =>
    rw [List.foldlM_cons, fillCombinations]
    by_cases hband : unit.band_0 = 0
    · have hskip : writeCombination codes before unit = .ok before := if_pos hband
      rw [if_pos hband, hskip]
      exact ih before
    · have hunit := isOk_writeCombination codes before hband
      rw [if_neg hband]
      dsimp only
      rw [← hunit]
      cases writeCombination codes before unit with
      | error left => rfl
      | ok middle => exact ih middle

/-- What is written is what is decoded: the combinations, one behind the other. -/
theorem exists_foldlM_fillCombinations (before : ByteWriter) {units : List CombUnit}
    (hfilled : (fillCombinations units).1 = true) :
    ∃ after, units.foldlM (writeCombination codes) before = .ok after ∧
      ByteWriter.Appends before after
        (encodeRows ((fillCombinations units).2.map (RadioCombination.row codes))) := by
  have hknown := (fillCombinations_iff units).mp hfilled
  rw [map_row_fillCombinations codes hknown]
  exact exists_foldlM_writeCombination codes before units hknown

end Writing

/-! ## Walking -/

section Walking

variable {bytes : Bytes}

/-- Numbers that fit their fields. -/
def RowFits (row : List Configuration) : Prop :=
  row.length < 4294967296 ∧ ∀ configuration ∈ row, configuration.1 < 4294967296 ∧ configuration.2 < 4294967296

theorem configurations_of_holds_at {start : ℕ} (row : List Configuration)
    (hfits : ∀ configuration ∈ row, configuration.1 < 4294967296 ∧ configuration.2 < 4294967296)
    (hholds : Holds bytes start (row.flatMap encodeConfiguration)) :
    ((List.range row.length).map fun j ↦
      (u32At bytes (start + sizeofWifiRadioConfiguration * j),
        u32At bytes (start + sizeofWifiRadioConfiguration * j + 4))) = row := by
  have hread : ∀ configuration ∈ row, ∀ pos, Holds bytes pos (encodeConfiguration configuration) →
      (u32At bytes pos, u32At bytes (pos + 4)) = configuration := by
    intro configuration hconfiguration pos hholds
    have hboth := (holds_append _ _).mp hholds
    have hfit := hfits configuration hconfiguration
    exact Prod.ext (u32At_of_holds hfit.1 hboth.1) (u32At_of_holds hfit.2 hboth.2)
  have hsize : ∀ configuration ∈ row,
      (encodeConfiguration configuration).length = sizeofWifiRadioConfiguration := fun _ _ ↦ rfl
  calc
    _ = row.map fun configuration ↦ configuration := map_read_of_holds hsize hread hholds
    _ = row := List.map_id' row

/-- A row that was written is read, and the next one is behind it. -/
theorem configurations_of_holds {p_combo : ℕ} {row : List Configuration} (hfits : RowFits row)
    (hholds : Holds bytes p_combo (encodeRow row)) :
    configurations bytes p_combo = row ∧ nextCombination bytes p_combo = p_combo + (encodeRow row).length := by
  have hparts := (holds_append _ _).mp hholds
  have hcount : u32At bytes p_combo = row.length := u32At_of_holds hfits.1 hparts.1
  unfold configurations nextCombination
  rw [hcount]
  apply And.intro
  · exact configurations_of_holds_at row hfits.2 hparts.2
  · rw [length_encodeRow, Nat.add_assoc]

theorem walkCombinations_of_holds {p_combo : ℕ} (rows : List (List Configuration))
    (hfits : ∀ row ∈ rows, RowFits row) (hholds : Holds bytes p_combo (encodeRows rows)) :
    walkCombinations bytes rows.length p_combo = rows := by
  induction rows generalizing p_combo with
  | nil => rfl
  | cons row rows ih =>
    rw [List.forall_mem_cons] at hfits
    unfold encodeRows at hholds
    rw [List.flatMap_cons, holds_append] at hholds
    have hrow := configurations_of_holds hfits.1 hholds.1
    rw [List.length_cons, walkCombinations, hrow.1, hrow.2, ih hfits.2 hholds.2]

theorem convertedConfiguration_lt (codes : RadioCodes) (band antenna : ℕ) :
    (convertedConfiguration codes band antenna).1 < 4294967296 ∧
      (convertedConfiguration codes band antenna).2 < 4294967296 := by
  unfold convertedConfiguration
  apply And.intro
  · cases convert_band band with
    | none => exact Nat.zero_lt_succ _
    | some converted => exact (codes.band converted).toNat_lt
  · cases convert_antenna antenna with
    | none => exact Nat.zero_lt_succ _
    | some antenna_cfg => exact (codes.antenna antenna_cfg).toNat_lt

theorem rowFits_convertedRow (codes : RadioCodes) (unit : CombUnit) : RowFits (convertedRow codes unit) := by
  have hfits := convertedConfiguration_lt codes
  unfold convertedRow
  by_cases hsecond : unit.band_1 = 0
  · rw [if_pos hsecond]
    apply And.intro (show 1 < 4294967296 by decide)
    rw [List.forall_mem_singleton]
    exact hfits _ _
  · rw [if_neg hsecond]
    apply And.intro (show 2 < 4294967296 by decide)
    rw [List.forall_mem_cons, List.forall_mem_singleton]
    exact ⟨hfits _ _, hfits _ _⟩

theorem length_usedRows_le (codes : RadioCodes) (units : List CombUnit) :
    (usedRows codes units).length ≤ units.length := by
  unfold usedRows
  rw [List.length_map]
  exact List.length_filter_le _ _

/-- With known codes and enough memory, the rows in use are written up to the size that is reported, and
visited in their order. -/
theorem radioMatrix_layout (codes : RadioCodes) (set_size_max : ℕ) (memory : Bytes)
    (driver_matrix : List CombUnit) (hlength : driver_matrix.length = combMatrixLen)
    (hknown : ∀ unit ∈ driver_matrix, unit.Known) (hsize : (check_sanity driver_matrix).1 ≤ set_size_max) :
    ∃ matrix, writeMatrix codes set_size_max memory driver_matrix = .ok matrix ∧
      matrix.pos = (check_sanity driver_matrix).1 ∧ matrix.written = (check_sanity driver_matrix).1 ∧
      dump_matrix matrix.bytes = usedRows codes driver_matrix := by
  have hsanity := check_sanity_eq codes driver_matrix
  have hcount : (usedRows codes driver_matrix).length < 4294967296 := by
    have hrows := length_usedRows_le codes driver_matrix
    rw [hlength] at hrows
    exact Nat.lt_of_le_of_lt hrows (by decide)
  let cleared : ByteWriter := ⟨fun pos ↦ if pos < set_size_max then 0 else memory pos, 0, 0⟩
  let counted := store32 cleared 0 (check_sanity driver_matrix).2
  let start : ByteWriter := { counted with pos := sizeofWifiRadioCombinationMatrix }
  have hcounted := writes_store32 cleared 0 (check_sanity driver_matrix).2
  obtain ⟨matrix, hmatrix, happends⟩ := exists_foldlM_writeCombination codes start driver_matrix hknown
  have hwritten : start.written = start.pos := by
    apply Nat.le_antisymm
    · exact (hcounted.written _).mpr ⟨Nat.zero_le _, Or.inr (Nat.le_refl _)⟩
    · exact ((hcounted.written _).mp (Nat.le_refl _)).2.resolve_left (by rw [length_le32]; decide)
  have hpos : matrix.pos = (check_sanity driver_matrix).1 := by
    rw [happends.pos, hsanity]
  refine ⟨matrix, ?_, hpos, ?_, ?_⟩
  · unfold writeMatrix
    exact (if_neg (Nat.not_lt_of_le hsize)).trans hmatrix
  · rw [happends.written_eq_pos hwritten, hpos]
  · have hnumber : u32At matrix.bytes 0 = (usedRows codes driver_matrix).length := by
      apply u32At_of_holds hcount
      intro k hk
      rw [happends.writes.kept (0 + k) (Or.inl (by rw [Nat.zero_add]; exact hk))]
      have hheld := hcounted.holds k hk
      rw [hheld]
      congr 1
      rw [hsanity]
    unfold dump_matrix
    rw [hnumber]
    apply walkCombinations_of_holds
    · unfold usedRows
      rw [List.forall_mem_map]
      exact fun unit _ ↦ rowFits_convertedRow codes unit
    · exact happends.writes.holds

instance (unit : CombUnit) : Decidable unit.Known := inferInstanceAs (Decidable (_ → _))

/-- Five rows unused, and one with two bands. -/
theorem radioMatrix_layout_twoBands :
    ∃ matrix, writeMatrix ⟨fun _ ↦ 1, fun _ ↦ 2⟩ 64 (fun _ ↦ 7)
        [⟨0, 0, 0, 0⟩, ⟨2, 1, 5, 2⟩, ⟨0, 0, 0, 0⟩, ⟨0, 0, 0, 0⟩, ⟨0, 0, 0, 0⟩, ⟨0, 0, 0, 0⟩] = .ok matrix ∧
      matrix.pos = 24 ∧ matrix.written = 24 ∧ dump_matrix matrix.bytes = [[(1, 2), (1, 2)]] := by
  apply radioMatrix_layout
  · rfl
  · decide
  · decide

end Walking

end HardwareMediatek.Wifi
