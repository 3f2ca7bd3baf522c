import HardwareMediatek.Foundation.NamedEntries
import HardwareMediatek.Thermal.ParsedSensors
import HardwareMediatek.Thermal.VirtualRails

/-!
# Parsing power rails

Two rails with one name are not refused: the later one replaces the earlier, which still counts for its
trigger sensor.
-/

namespace HardwareMediatek.Thermal

open Foundation UnorderedMap

/-- The formulas of a virtual rail. -/
def powerFormulaOptions : List (String × FormulaOption) :=
  [("COUNT_THRESHOLD", .countThreshold), ("WEIGHTED_AVG", .weightedAvg), ("MAXIMUM", .maximum),
    ("MINIMUM", .minimum)]

/-- The sizes are compared a second time behind the offset. -/
def parseVirtualRail (powerRail : Json) : Parsing VirtualPowerRailInfo := do
  let values ← read (powerRail.get "Combination")
  check (values.size ≠ 0)
  let linkedPowerRails ← parseStrings values
  let values ← read (powerRail.get "Coefficient")
  check (values.size ≠ 0)
  let items ← sizedItems values
  let coefficients ← items.mapM getFloatFromValue
  check (linkedPowerRails.length = coefficients.length)
  let offset ← parseOffset powerRail
  check (linkedPowerRails.length = coefficients.length)
  let formula ← read (powerRail.get "Formula")
  let formula ← parseOption powerFormulaOptions formula
  pure ⟨linkedPowerRails, coefficients, offset, formula⟩

def parseVirtualRails (powerRail : Json) : Parsing (Option VirtualPowerRailInfo) := do
  let isVirtualPowerRail ← parseFlag "VirtualRails" powerRail
  if isVirtualPowerRail then do
    let virtualInfo ← parseVirtualRail powerRail
    pure (some virtualInfo)
  else pure none

/-- A delay that is not configured is endless. -/
def parsePowerSampleDelay (powerRail : Json) : Parsing ℤ := do
  let value ← read (powerRail.get "PowerSampleDelay")
  if value.isNull then pure maxMilliseconds else getIntFromValue value

/-- The sensor that switches the rail. A list of sensors is passed over. -/
def parsePowerTrigger (powerRail : Json) : Parsing (Option String) := do
  let values ← read (powerRail.get "TriggerSensor")
  if !values.empty && values.isString then do
    let sensor ← read values.asString
    pure (some sensor)
  else pure none

/-- What is read of a rail. -/
structure ParsedRail where
  name : String
  info : PowerRailInfo
  trigger : Option String

def parsePowerRail (powerRail : Json) : Parsing ParsedRail := do
  let name ← getString "Name" powerRail
  check (name ≠ "")
  let virtualPowerRailInfo ← parseVirtualRails powerRail
  let count ← read (powerRail.get "PowerSampleCount")
  let count ← read count.asInt
  let delay ← parsePowerSampleDelay powerRail
  let trigger ← parsePowerTrigger powerRail
  pure
    { name := name
      info :=
        { powerSampleCount := count
          powerSampleDelay := delay
          virtualPowerRailInfo := virtualPowerRailInfo }
      trigger := trigger }

/-- The rails by name, and by sensor the names of the rails that it switches. -/
abbrev PowerRailMaps := UnorderedMap String PowerRailInfo × UnorderedMap String (List String)

def addTrigger (powerRailSwitchMap : UnorderedMap String (List String)) (rail : ParsedRail) :
    UnorderedMap String (List String) :=
  match rail.trigger with
  | some sensor =>
    powerRailSwitchMap.put sensor ((powerRailSwitchMap.lookup sensor).getD [] ++ [rail.name])
  | none => powerRailSwitchMap

/-- The end of a round. -/
def addRail (maps : PowerRailMaps) (rail : ParsedRail) : PowerRailMaps :=
  (maps.1.put rail.name rail.info, addTrigger maps.2 rail)

def parsePowerRailInfo (config : Json) : Parsing PowerRailMaps := do
  let powerRails ← read (config.get "PowerRails")
  let items ← read powerRails.items
  items.foldlM (fun maps powerRail ↦ do
    let rail ← parsePowerRail powerRail
    pure (addRail maps rail)) (∅, ∅)

/-! ## What is accepted -/

section Accepted

variable {config powerRail : Json} {maps : PowerRailMaps}

/-- What the parser has read when it accepts. -/
structure ReadsRails (config : Json) (rails : List ParsedRail) : Prop where
  items : ∃ powerRails items, config.get "PowerRails" = some powerRails ∧
    powerRails.items = some items ∧ items.mapM parsePowerRail = .ok rails

theorem parsePowerRailInfo_eq_ok :
    parsePowerRailInfo config = .ok maps ↔
      ∃ rails, ReadsRails config rails ∧ maps = rails.foldl addRail (∅, ∅) := by
  unfold parsePowerRailInfo
  simp only [foldlM_eq_foldl]
  constructor
  · intro hparse
    obtain ⟨powerRails, hrails, hparse⟩ := bind_eq_ok.mp hparse
    obtain ⟨items, hitems, hparse⟩ := bind_eq_ok.mp hparse
    cases hmap : items.mapM parsePowerRail with
    | error halt =>
      rw [hmap] at hparse
      cases hparse
    | ok rails =>
      rw [hmap] at hparse
      exact ⟨rails, ⟨powerRails, items, read_eq_ok.mp hrails, read_eq_ok.mp hitems, hmap⟩,
        (Except.ok.inj hparse).symm⟩
  · intro hreads
    obtain ⟨rails, hreads, hmaps⟩ := hreads
    obtain ⟨powerRails, items, hrails, hitems, hmap⟩ := hreads.items
    apply bind_eq_ok.mpr ⟨powerRails, read_eq_ok.mpr hrails, ?_⟩
    apply bind_eq_ok.mpr ⟨items, read_eq_ok.mpr hitems, ?_⟩
    rw [hmap, hmaps]
    rfl

theorem foldl_addRail (rails : List ParsedRail) (maps : PowerRailMaps) :
    rails.foldl addRail maps =
      (putAll (rails.map fun rail ↦ (rail.name, rail.info)) maps.1, rails.foldl addTrigger maps.2) := by
  induction rails generalizing maps with
  | nil => rfl
  | cons rail rest ih =>
    rw [List.foldl_cons, ih]
    rfl

/-- The rails that a sensor switches. -/
def switchedBy (sensor : String) (rails : List ParsedRail) : List String :=
  (rails.filter fun rail ↦ rail.trigger = some sensor).map ParsedRail.name

theorem lookup_addTrigger (m : UnorderedMap String (List String)) (rail : ParsedRail) (sensor : String) :
    ((addTrigger m rail).lookup sensor).getD [] =
      (m.lookup sensor).getD [] ++ switchedBy sensor [rail] := by
  unfold addTrigger switchedBy
  cases htrigger : rail.trigger with
  | none => simp [htrigger]
  | some other =>
    by_cases hsame : sensor = other
    · rw [hsame]
      simp [htrigger, lookup_put]
    · simp [htrigger, hsame, Ne.symm hsame, lookup_put]

/-- The rails of a sensor are listed in the order in which they are configured. -/
theorem lookup_foldl_addTrigger (rails : List ParsedRail) (m : UnorderedMap String (List String))
    (sensor : String) :
    ((rails.foldl addTrigger m).lookup sensor).getD [] =
      (m.lookup sensor).getD [] ++ switchedBy sensor rails := by
  induction rails generalizing m with
  | nil => simp [switchedBy]
  | cons rail rest ih =>
    rw [List.foldl_cons, ih, lookup_addTrigger, List.append_assoc]
    congr 1
    simp only [switchedBy, ← List.map_append, ← List.filter_append, List.singleton_append]

/-- The rail with a name that counts. -/
def lastRail (rails : List ParsedRail) (name : String) : Option ParsedRail :=
  rails.reverse.find? fun rail ↦ rail.name = name

theorem lookup_rails (rails : List ParsedRail) (name : String) :
    (rails.foldl addRail (∅, ∅)).1.lookup name = (lastRail rails name).map ParsedRail.info := by
  rw [foldl_addRail, lookup_putAll, AList.lookup_empty, Option.or_none, ← List.map_reverse,
    List.find?_map, Option.map_map]
  rfl

/-- What the two maps hold. -/
theorem rails_of_parse (hparse : parsePowerRailInfo config = .ok maps) :
    ∃ rails, ReadsRails config rails ∧
      (∀ name, maps.1.lookup name = (lastRail rails name).map ParsedRail.info) ∧
      ∀ sensor, (maps.2.lookup sensor).getD [] = switchedBy sensor rails := by
  obtain ⟨rails, hreads, hmaps⟩ := parsePowerRailInfo_eq_ok.mp hparse
  refine ⟨rails, hreads, fun name ↦ ?_, fun sensor ↦ ?_⟩
  · rw [hmaps, lookup_rails]
  · rw [hmaps, foldl_addRail, lookup_foldl_addTrigger]
    rfl

theorem parseVirtualRail_parsed {virtualInfo : VirtualPowerRailInfo}
    (hparse : parseVirtualRail powerRail = .ok virtualInfo) : virtualInfo.Parsed := by
  obtain ⟨values, -, hparse⟩ := bind_eq_ok.mp hparse
  obtain ⟨_, hsize, hparse⟩ := bind_eq_ok.mp hparse
  obtain ⟨linked, hlinked, hparse⟩ := bind_eq_ok.mp hparse
  obtain ⟨values', -, hparse⟩ := bind_eq_ok.mp hparse
  obtain ⟨_, -, hparse⟩ := bind_eq_ok.mp hparse
  obtain ⟨items', -, hparse⟩ := bind_eq_ok.mp hparse
  obtain ⟨coefficients, -, hparse⟩ := bind_eq_ok.mp hparse
  obtain ⟨_, hlength, hparse⟩ := bind_eq_ok.mp hparse
  obtain ⟨offset, -, hparse⟩ := bind_eq_ok.mp hparse
  obtain ⟨_, -, hparse⟩ := bind_eq_ok.mp hparse
  obtain ⟨text, -, hparse⟩ := bind_eq_ok.mp hparse
  obtain ⟨formula, hformula, hparse⟩ := bind_eq_ok.mp hparse
  rw [← Except.ok.inj hparse]
  constructor
  · obtain ⟨items, hitems, hlinked⟩ := bind_eq_ok.mp hlinked
    have hsize : values.size ≠ 0 := of_decide_eq_true (check_eq_ok.mp hsize)
    unfold sizedItems at hitems
    rw [if_pos hsize] at hitems
    have hcount : linked.length = values.size :=
      (length_of_mapM_eq_ok hlinked).trans (length_items hsize (read_eq_ok.mp hitems))
    intro hnil
    change linked = [] at hnil
    rw [hnil] at hcount
    exact hsize hcount.symm
  · exact of_decide_eq_true (check_eq_ok.mp hlength)
  · have hknown : ∀ pair ∈ powerFormulaOptions, pair.2 ∈ powerFormulas := by decide
    obtain ⟨name, -, hmem⟩ := parseOption_mem hformula
    exact hknown _ hmem

theorem parsePowerRail_parsed {rail : ParsedRail} (hparse : parsePowerRail powerRail = .ok rail) :
    rail.name ≠ "" ∧
      ∀ virtualInfo, rail.info.virtualPowerRailInfo = some virtualInfo → virtualInfo.Parsed := by
  obtain ⟨name, -, hparse⟩ := bind_eq_ok.mp hparse
  obtain ⟨_, hname, hparse⟩ := bind_eq_ok.mp hparse
  obtain ⟨virtualPowerRailInfo, hvirtual, hparse⟩ := bind_eq_ok.mp hparse
  obtain ⟨value, -, hparse⟩ := bind_eq_ok.mp hparse
  obtain ⟨count, -, hparse⟩ := bind_eq_ok.mp hparse
  obtain ⟨delay, -, hparse⟩ := bind_eq_ok.mp hparse
  obtain ⟨trigger, -, hparse⟩ := bind_eq_ok.mp hparse
  rw [← Except.ok.inj hparse]
  refine ⟨of_decide_eq_true (check_eq_ok.mp hname), fun virtualInfo hinfo ↦ ?_⟩
  change virtualPowerRailInfo = some virtualInfo at hinfo
  rw [hinfo] at hvirtual
  obtain ⟨isVirtual, -, hvirtual⟩ := bind_eq_ok.mp hvirtual
  split_ifs at hvirtual
  · obtain ⟨parsed, hparsed, hsame⟩ := bind_eq_ok.mp hvirtual
    rw [← Option.some.inj (Except.ok.inj hsame)]
    exact parseVirtualRail_parsed hparsed
  · cases Except.ok.inj hvirtual

/-- Every virtual rail that is accepted is as the computation of its power requires. -/
theorem parsePowerRailInfo_parsed (hparse : parsePowerRailInfo config = .ok maps) {name : String}
    {info : PowerRailInfo} (hinfo : maps.1.lookup name = some info) :
    name ≠ "" ∧ ∀ virtualInfo, info.virtualPowerRailInfo = some virtualInfo → virtualInfo.Parsed := by
  obtain ⟨rails, hreads, hinfos, -⟩ := rails_of_parse hparse
  obtain ⟨powerRails, items, -, -, hmap⟩ := hreads.items
  rw [hinfos, Option.map_eq_some_iff] at hinfo
  obtain ⟨rail, hlast, hsame⟩ := hinfo
  have hname : rail.name = name := by simpa using List.find?_some hlast
  obtain ⟨item, -, hitem⟩ :=
    (mem_of_mapM_eq_ok hmap).mp (List.mem_reverse.mp (List.mem_of_find?_eq_some hlast))
  rw [← hname, ← hsame]
  exact parsePowerRail_parsed hitem

/-- The later of two rails with one name counts, both of them are switched by their trigger sensors, and
what is accepted as a virtual rail has linked rails with as many coefficients, and one of the formulas. -/
theorem parsePowerRailInfo_sound (hparse : parsePowerRailInfo config = .ok maps) :
    ∃ rails, ReadsRails config rails ∧
      (∀ name, maps.1.lookup name = (lastRail rails name).map ParsedRail.info) ∧
      (∀ sensor, (maps.2.lookup sensor).getD [] = switchedBy sensor rails) ∧
      ∀ name info, maps.1.lookup name = some info →
        name ≠ "" ∧ ∀ virtualInfo, info.virtualPowerRailInfo = some virtualInfo → virtualInfo.Parsed := by
  obtain ⟨rails, hreads, hinfos, hswitched⟩ := rails_of_parse hparse
  exact ⟨rails, hreads, hinfos, hswitched, fun _ _ ↦ parsePowerRailInfo_parsed hparse⟩

def smallRails : PowerRailMaps := (parsePowerRailInfo smallConfig).toOption.getD (∅, ∅)

theorem parsePowerRailInfo_small : parsePowerRailInfo smallConfig = .ok smallRails :=
  eq_ok_of_toOption (∅, ∅) (by decide)

theorem parsePowerRailInfo_sound_small :
    ∃ rails, ReadsRails smallConfig rails ∧
      (∀ name, smallRails.1.lookup name = (lastRail rails name).map ParsedRail.info) ∧
      (∀ sensor, (smallRails.2.lookup sensor).getD [] = switchedBy sensor rails) ∧
      ∀ name info, smallRails.1.lookup name = some info →
        name ≠ "" ∧ ∀ virtualInfo, info.virtualPowerRailInfo = some virtualInfo → virtualInfo.Parsed :=
  parsePowerRailInfo_sound parsePowerRailInfo_small

end Accepted

end HardwareMediatek.Thermal
