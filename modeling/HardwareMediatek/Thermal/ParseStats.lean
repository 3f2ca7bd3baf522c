import HardwareMediatek.Foundation.Loops
import HardwareMediatek.Thermal.FrequencyLimits
import HardwareMediatek.Thermal.ThermalStats

/-!
# Parsing the statistics

Which records are kept, by default and by custom thresholds, and what is watched for abnormal
temperatures. A threshold list that is not a list but some other value has no thresholds, and is not
empty either.
-/

namespace HardwareMediatek.Thermal

open Foundation

/-! ## Records -/

/-- How a threshold is read and compared with the one before. -/
class ParsedThreshold (α : Type) where
  fromValue : Json → Parsing α
  atMost : α → α → Bool

instance : ParsedThreshold ExactFloat := ⟨getFloatFromValue, fun x y ↦ x ≤ y⟩

/-- Both branches of the conditional have the type `float`, so a whole number is converted there and
back. -/
instance : ParsedThreshold ℤ where
  fromValue value := do
    let number ← getIntFromValue value
    pure (toInt (ExactFloat.ofInt number))
  atMost x y := x ≤ y

/-- `std::numeric_limits<float>::lowest()`. -/
def floatLowest : ExactFloat := -floatMax

/-- An empty `StatsInfo`. -/
def noStatsInfo {α : Type} : StatsInfo α := ⟨.flag false, ∅⟩

section StatsInfo

variable {α ν : Type} [ParsedThreshold α] (entityInfo : UnorderedMap String ν)

/-- The loop over the thresholds, which must be strictly increasing. One that is not a number passes. -/
def statsThresholds (values : Json) : List ℕ → α → Parsing (List α)
  | [], _ => .ok []
  | index :: rest, prev => do
    let value ← read (values.at? index)
    let threshold ← ParsedThreshold.fromValue value
    check !ParsedThreshold.atMost threshold prev
    let thresholds ← statsThresholds values rest threshold
    pure (threshold :: thresholds)

/-- The name of an entry, which must be known. -/
def parseStatsName (name : Json) : Parsing String := do
  let name ← read name.asString
  check (name ∈ entityInfo)
  pure name

def parseLoggingName (loggingName : Json) : Parsing (Option String) :=
  if loggingName.empty then pure none
  else do
    let text ← read loggingName.asString
    pure (some text)

def parseThresholdList (minValue : α) (entry : Json) : Parsing (String × ThresholdList α) := do
  let name ← read (entry.get "Name")
  let name ← parseStatsName entityInfo name
  let loggingName ← read (entry.get "LoggingName")
  let loggingName ← parseLoggingName loggingName
  let values ← read (entry.get "Thresholds")
  check !values.empty
  check (values.size ≤ kMaxStatsThresholdCount)
  let thresholds ← statsThresholds values (List.range values.size) minValue
  pure (name, ⟨loggingName, thresholds⟩)

def parseRecordByThreshold (minValue : α) (entries : List Json) :
    Parsing (UnorderedMap String (List (ThresholdList α))) :=
  entries.foldlM (fun recordByThreshold entry ↦ do
    let (name, thresholdList) ← parseThresholdList entityInfo minValue entry
    pure (recordByThreshold.put name
      ((recordByThreshold.lookup name).getD [] ++ [thresholdList]))) ∅

/-- A list of names excludes that all are recorded. -/
def parseRecordByDefault (statsConfig : Json) : Parsing RecordByDefault := do
  let enableAll ← read (statsConfig.get "DefaultThresholdEnableAll")
  let all := !enableAll.empty && enableAll.isBool && enableAll.asBool == some true
  let values ← read (statsConfig.get "RecordWithDefaultThreshold")
  if values.size ≠ 0 then do
    check !all
    let names ← read values.items
    let names ← names.mapM (parseStatsName entityInfo)
    pure (.nameSet names)
  else pure (.flag all)

/-- The entries of a list that has a size. -/
def sizedItems (values : Json) : Parsing (List Json) :=
  if values.size ≠ 0 then read values.items else pure []

def parseStatsInfo (statsConfig : Json) (minValue : α) : Parsing (StatsInfo α) :=
  if statsConfig.empty then pure noStatsInfo
  else do
    let recordByDefault ← parseRecordByDefault entityInfo statsConfig
    let values ← read (statsConfig.get "RecordWithThreshold")
    let entries ← sizedItems values
    let recordByThreshold ← parseRecordByThreshold entityInfo minValue entries
    pure ⟨recordByDefault, recordByThreshold⟩

end StatsInfo

/-! ## Abnormal temperatures -/

def getTempRangeInfoFromJsonValues (values : Json) : Parsing TempRangeInfo := do
  check (values.size = 2)
  let first ← read (values.at? 0)
  let minTemp ← getFloatFromValue first
  let second ← read (values.at? 1)
  let maxTemp ← getFloatFromValue second
  check !(minTemp.isNaN || maxTemp.isNaN)
  check !(maxTemp < minTemp)
  pure
    { minTempThreshold := toInt minTemp
      maxTempThreshold := toInt maxTemp }

/-- A member that must be there and positive. -/
def parsePositive (key : String) (values : Json) : Parsing ℤ := do
  let member ← read (values.get key)
  check !member.empty
  let number ← getIntFromValue member
  check (0 < number)
  pure number

def getTempStuckInfoFromJsonValue (values : Json) : Parsing TempStuckInfo := do
  let minStuckDuration ← parsePositive "MinStuckDuration" values
  let minPollingCount ← parsePositive "MinPollingCount" values
  pure
    { minPollingCount := minPollingCount
      minStuckDuration := minStuckDuration }

section Abnormality

variable (sensorInfoMap : SensorInfoMap)

/-- The sensors that an entry lists. None of them may be unknown, listed twice, or among the sensors of
the entries before. -/
def parseMonitor (sensorsParsed : List String) (config : Json) : Parsing (List String) := do
  let values ← read (config.get "Monitor")
  check (values.size ≠ 0)
  let items ← read values.items
  items.foldlM (fun sensors item ↦ do
    let sensor ← read item.asString
    check (sensor ∈ sensorInfoMap)
    check (sensor ∉ sensorsParsed ++ sensors)
    pure (sensors ++ [sensor])) []

variable {ι : Type} (parse : Json → Parsing ι)

def parseSensorsInfos (infoKey : String) (configs : List Json) : Parsing (List (SensorsInfo ι)) :=
  configs.foldlM (fun infos config ↦ do
    let sensors ← parseMonitor sensorInfoMap (infos.flatMap SensorsInfo.sensors) config
    let values ← read (config.get infoKey)
    let info ← parse values
    pure (infos ++ [⟨sensors, info⟩])) []

/-- The default is written where the value of the optional is, if it has one. -/
def parseDefaultInfo (engaged : Option ι) (default : Json) : Parsing (Option ι) :=
  if default.isNull then pure engaged
  else do
    let _value ← read engaged
    let info ← parse default
    pure (some info)

/-- The section of the outliers, or the one of the stuck sensors. -/
def parseAbnormalitySection (sectionKey infoKey : String) (config : Json) :
    Parsing (Option ι × List (SensorsInfo ι)) := do
  let part ← read (config.get sectionKey)
  if part.isNull then pure (none, [])
  else do
    let default ← read (part.get "Default")
    let default ← parseDefaultInfo parse none default
    let configs ← read (part.get "Configs")
    if configs.isNull then pure (default, [])
    else do
      let configs ← read configs.items
      let infos ← parseSensorsInfos sensorInfoMap parse infoKey configs
      pure (default, infos)

def noAbnormalStatsInfo : AbnormalStatsInfo := ⟨none, [], none, []⟩

def parseSensorAbnormalStatsConfig (config : Json) : Parsing AbnormalStatsInfo :=
  if config.empty then pure noAbnormalStatsInfo
  else do
    let (defaultRange, ranges) ← parseAbnormalitySection sensorInfoMap getTempRangeInfoFromJsonValues
      "Outlier" "TempRange" config
    let (defaultStuck, stucks) ← parseAbnormalitySection sensorInfoMap getTempStuckInfoFromJsonValue
      "Stuck" "TempStuck" config
    pure
      { defaultTempRangeInfo := defaultRange
        sensorsTempRangeInfos := ranges
        defaultTempStuckInfo := defaultStuck
        sensorsTempStuckInfos := stucks }

end Abnormality

/-! ## What is accepted -/

/-- An entry has so many thresholds. -/
def ThresholdCount (entry : Json) (count : ℕ) : Prop :=
  ∃ values, entry.get "Thresholds" = some values ∧ values.size = count

/-- An entry for custom thresholds. -/
def IsThresholdEntry (statsConfig entry : Json) : Prop :=
  ∃ values entries, statsConfig.get "RecordWithThreshold" = some values ∧
    values.items = some entries ∧ entry ∈ entries

/-- A name is recorded by default. -/
def RecordedByDefault (statsConfig : Json) (name : String) : Prop :=
  statsConfig.get "DefaultThresholdEnableAll" = some (.bool true) ∨
    ∃ values names item, statsConfig.get "RecordWithDefaultThreshold" = some values ∧
      values.items = some names ∧ item ∈ names ∧ item.asString = some name

theorem items_eq_nil {values : Json} (hsize : values.size = 0) {items : List Json}
    (hitems : values.items = some items) : items = [] := by
  cases values with
  | arr elements =>
    obtain rfl := Option.some.inj hitems
    exact List.length_eq_zero_iff.mp hsize
  | obj members =>
    simp only [Json.items] at hitems
    split at hitems
    · exact (Option.some.inj hitems).symm
    · cases hitems
  | null | bool _ | int _ | real _ _ | str _ => exact (Option.some.inj hitems).symm

/-- Elements are read from a list that has a size, and there are no others. -/
theorem mem_sizedItems {values : Json} {entries : List Json} (hread : sizedItems values = .ok entries)
    (entry : Json) : entry ∈ entries ↔ ∃ items, values.items = some items ∧ entry ∈ items := by
  unfold sizedItems at hread
  split at hread
  · rw [read_eq_ok.mp hread]
    simp
  · rename_i hsize
    obtain rfl := Except.ok.inj hread
    refine iff_of_false List.not_mem_nil ?_
    rintro ⟨items, hitems, hmem⟩
    rw [items_eq_nil (not_not.mp hsize) hitems] at hmem
    cases hmem

/-- A member of nothing. -/
theorem get_of_empty {value : Json} (hempty : value.empty = true) {key : String} {member : Json}
    (hmember : value.get key = some member) : member = .null := by
  cases value with
  | null => exact (Option.some.inj hmember).symm
  | arr elements => cases hmember
  | obj members =>
    obtain rfl := List.isEmpty_iff.mp hempty
    exact (Option.some.inj hmember).symm
  | _ => cases hempty

section Accepted

variable {α ν : Type} [ParsedThreshold α] {entityInfo : UnorderedMap String ν} {statsConfig : Json}
  {minValue : α} {info : StatsInfo α}

theorem statsThresholds_length {values : Json} {indices : List ℕ} {prev : α} {thresholds : List α}
    (hparsed : statsThresholds values indices prev = .ok thresholds) :
    thresholds.length = indices.length := by
  induction indices generalizing prev thresholds with
  | nil =>
    obtain rfl := Except.ok.inj hparsed
    rfl
  | cons index rest ih =>
    obtain ⟨value, -, hparsed⟩ := bind_eq_ok.mp hparsed
    obtain ⟨threshold, -, hparsed⟩ := bind_eq_ok.mp hparsed
    obtain ⟨_, -, hparsed⟩ := bind_eq_ok.mp hparsed
    obtain ⟨others, hothers, hparsed⟩ := bind_eq_ok.mp hparsed
    obtain rfl := Except.ok.inj hparsed
    rw [List.length_cons, List.length_cons, ih hothers]

theorem parseStatsName_eq_ok {name : Json} {accepted : String} :
    parseStatsName entityInfo name = .ok accepted ↔
      name.asString = some accepted ∧ accepted ∈ entityInfo := by
  unfold parseStatsName
  rw [bind_eq_ok]
  constructor
  · rintro ⟨text, htext, hparsed⟩
    obtain ⟨_, hknown, hparsed⟩ := bind_eq_ok.mp hparsed
    obtain rfl := Except.ok.inj hparsed
    exact ⟨read_eq_ok.mp htext, of_decide_eq_true (check_eq_ok.mp hknown)⟩
  · rintro ⟨htext, hknown⟩
    refine ⟨accepted, read_eq_ok.mpr htext, bind_eq_ok.mpr ⟨(), ?_, rfl⟩⟩
    unfold check
    rw [decide_eq_true hknown]
    rfl

theorem parseThresholdList_accepted {entry : Json} {name : String} {thresholdList : ThresholdList α}
    (hparsed : parseThresholdList entityInfo minValue entry = .ok (name, thresholdList)) :
    name ∈ entityInfo ∧ thresholdList.thresholds.length ≤ kMaxStatsThresholdCount ∧
      ThresholdCount entry thresholdList.thresholds.length := by
  obtain ⟨nameMember, -, hparsed⟩ := bind_eq_ok.mp hparsed
  obtain ⟨known, hname, hparsed⟩ := bind_eq_ok.mp hparsed
  obtain ⟨loggingMember, -, hparsed⟩ := bind_eq_ok.mp hparsed
  obtain ⟨loggingName, -, hparsed⟩ := bind_eq_ok.mp hparsed
  obtain ⟨values, hvalues, hparsed⟩ := bind_eq_ok.mp hparsed
  obtain ⟨_, -, hparsed⟩ := bind_eq_ok.mp hparsed
  obtain ⟨_, hcount, hparsed⟩ := bind_eq_ok.mp hparsed
  obtain ⟨thresholds, hthresholds, hparsed⟩ := bind_eq_ok.mp hparsed
  obtain ⟨rfl, rfl⟩ := ok_pair hparsed
  have hlength : thresholds.length = values.size :=
    (statsThresholds_length hthresholds).trans List.length_range
  refine ⟨(parseStatsName_eq_ok.mp hname).2, ?_, values, read_eq_ok.mp hvalues, hlength.symm⟩
  exact hlength ▸ of_decide_eq_true (check_eq_ok.mp hcount)

/-- The lists of thresholds come from the entries that are done, and every one of these has a list. -/
structure FromEntries (entityInfo : UnorderedMap String ν) (done : List Json)
    (recordByThreshold : UnorderedMap String (List (ThresholdList α))) : Prop where
  counted : ∀ name thresholdLists, recordByThreshold.lookup name = some thresholdLists →
    ∀ thresholdList ∈ thresholdLists,
      thresholdList.thresholds.length ≤ kMaxStatsThresholdCount ∧
        ∃ entry ∈ done, ThresholdCount entry thresholdList.thresholds.length
  listed : ∀ entry ∈ done, ∀ count, ThresholdCount entry count →
    ∃ name ∈ entityInfo, ∃ thresholdLists, recordByThreshold.lookup name = some thresholdLists ∧
      ∃ thresholdList ∈ thresholdLists, thresholdList.thresholds.length = count

theorem FromEntries.add {done : List Json}
    {recordByThreshold : UnorderedMap String (List (ThresholdList α))}
    (h : FromEntries entityInfo done recordByThreshold) {entry : Json} {name : String}
    {thresholdList : ThresholdList α}
    (hparsed : parseThresholdList entityInfo minValue entry = .ok (name, thresholdList)) :
    FromEntries entityInfo (done ++ [entry]) (recordByThreshold.put name
      ((recordByThreshold.lookup name).getD [] ++ [thresholdList])) := by
  obtain ⟨hname, hmax, hcount⟩ := parseThresholdList_accepted hparsed
  constructor
  · intro other thresholdLists hlookup other' hmem
    have hbefore : ∀ lists, recordByThreshold.lookup other = some lists → other' ∈ lists →
        other'.thresholds.length ≤ kMaxStatsThresholdCount ∧
          ∃ entry' ∈ done ++ [entry], ThresholdCount entry' other'.thresholds.length := by
      intro lists hlists hin
      obtain ⟨hle, entry', hentry', hcount'⟩ := h.counted other lists hlists other' hin
      exact ⟨hle, entry', List.mem_append_left _ hentry', hcount'⟩
    rw [UnorderedMap.lookup_put] at hlookup
    split at hlookup
    · rename_i hsame
      subst hsame
      obtain rfl := Option.some.inj hlookup
      rcases List.mem_append.mp hmem with hin | hlast
      · cases hlists : recordByThreshold.lookup other with
        | none =>
          rw [hlists] at hin
          cases hin
        | some lists =>
          rw [hlists] at hin
          exact hbefore lists hlists hin
      · obtain rfl := List.mem_singleton.mp hlast
        exact ⟨hmax, entry, List.mem_concat_self, hcount⟩
    · exact hbefore thresholdLists hlookup hmem
  · intro entry' hentry' count hcount'
    rcases List.mem_append.mp hentry' with hdone | hlast
    · obtain ⟨other, hother, lists, hlists, other', hin, hlength⟩ := h.listed entry' hdone count hcount'
      by_cases hsame : other = name
      · subst hsame
        refine ⟨other, hother, _, by rw [UnorderedMap.lookup_put, if_pos rfl], other', ?_, hlength⟩
        rw [hlists]
        exact List.mem_append_left _ hin
      · refine ⟨other, hother, lists, ?_, other', hin, hlength⟩
        rw [UnorderedMap.lookup_put, if_neg hsame, hlists]
    · obtain rfl := List.mem_singleton.mp hlast
      refine ⟨name, hname, _, by rw [UnorderedMap.lookup_put, if_pos rfl], thresholdList,
        List.mem_concat_self, ?_⟩
      obtain ⟨values, hvalues, hsize⟩ := hcount
      obtain ⟨values', hvalues', hsize'⟩ := hcount'
      rw [hvalues] at hvalues'
      obtain rfl := Option.some.inj hvalues'
      exact hsize.symm.trans hsize'

theorem parseRecordByThreshold_fromEntries {entries : List Json}
    {recordByThreshold : UnorderedMap String (List (ThresholdList α))}
    (hparsed : parseRecordByThreshold entityInfo minValue entries = .ok recordByThreshold) :
    FromEntries entityInfo entries recordByThreshold := by
  apply foldlM_done _ _ hparsed
  · constructor
    · intro name thresholdLists hlookup
      rw [AList.lookup_empty] at hlookup
      cases hlookup
    · exact fun entry hentry ↦ absurd hentry List.not_mem_nil
  · intro done entry before after hbefore hround
    obtain ⟨⟨name, thresholdList⟩, hentry, hround⟩ := bind_eq_ok.mp hround
    obtain rfl := Except.ok.inj hround
    exact hbefore.add hentry

/-- The lists of thresholds of an accepted configuration are those of its entries. -/
theorem parseStatsInfo_fromEntries (hparsed : parseStatsInfo entityInfo statsConfig minValue = .ok info) :
    ∃ entries, FromEntries entityInfo entries info.recordByThreshold ∧
      ∀ entry, entry ∈ entries ↔ IsThresholdEntry statsConfig entry := by
  unfold parseStatsInfo at hparsed
  split at hparsed
  · rename_i hempty
    obtain rfl := Except.ok.inj hparsed
    refine ⟨[], ⟨fun name thresholdLists hlookup ↦ ?_, fun entry hentry ↦ nomatch hentry⟩, fun entry ↦ ?_⟩
    · have hnone : (none : Option (List (ThresholdList α))) = some thresholdLists :=
        (AList.lookup_empty name).symm.trans hlookup
      cases hnone
    · refine iff_of_false List.not_mem_nil ?_
      rintro ⟨values, entries, hvalues, hitems, hmem⟩
      obtain rfl := get_of_empty hempty hvalues
      obtain rfl : [] = entries := Option.some.inj hitems
      cases hmem
  · obtain ⟨recordByDefault, -, hparsed⟩ := bind_eq_ok.mp hparsed
    obtain ⟨values, hvalues, hparsed⟩ := bind_eq_ok.mp hparsed
    obtain ⟨entries, hentries, hparsed⟩ := bind_eq_ok.mp hparsed
    obtain ⟨recordByThreshold, hrecords, hparsed⟩ := bind_eq_ok.mp hparsed
    obtain rfl := Except.ok.inj hparsed
    refine ⟨entries, parseRecordByThreshold_fromEntries hrecords, fun entry ↦ ?_⟩
    rw [mem_sizedItems hentries]
    constructor
    · rintro ⟨items, hitems, hmem⟩
      exact ⟨values, items, read_eq_ok.mp hvalues, hitems, hmem⟩
    · rintro ⟨values', items, hvalues', hitems, hmem⟩
      rw [read_eq_ok.mp hvalues] at hvalues'
      obtain rfl := Option.some.inj hvalues'
      exact ⟨items, hitems, hmem⟩

theorem enableAll_iff {enableAll : Json} :
    (!enableAll.empty && enableAll.isBool && enableAll.asBool == some true) = true ↔
      enableAll = .bool true := by
  cases enableAll with
  | bool b => cases b <;> simp [Json.empty, Json.isBool, Json.asBool]
  | _ => simp [Json.isBool]

/-- The names that are recorded by default, in an accepted configuration. -/
theorem parseStatsInfo_recordedByDefault
    (hparsed : parseStatsInfo entityInfo statsConfig minValue = .ok info) (name : String) :
    isRecordByDefaultThreshold info.recordByDefaultThreshold name = true ↔
      RecordedByDefault statsConfig name := by
  unfold parseStatsInfo at hparsed
  split at hparsed
  · rename_i hempty
    obtain rfl := Except.ok.inj hparsed
    refine iff_of_false Bool.false_ne_true ?_
    rintro (hall | ⟨values, names, item, hvalues, hitems, hmem, -⟩)
    · cases get_of_empty hempty hall
    · obtain rfl := get_of_empty hempty hvalues
      obtain rfl : [] = names := Option.some.inj hitems
      cases hmem
  · obtain ⟨recordByDefault, hdefault, hparsed⟩ := bind_eq_ok.mp hparsed
    obtain ⟨_, -, hparsed⟩ := bind_eq_ok.mp hparsed
    obtain ⟨_, -, hparsed⟩ := bind_eq_ok.mp hparsed
    obtain ⟨_, -, hparsed⟩ := bind_eq_ok.mp hparsed
    obtain rfl := Except.ok.inj hparsed
    obtain ⟨enableAll, hall, hdefault⟩ := bind_eq_ok.mp hdefault
    obtain ⟨values, hvalues, hdefault⟩ := bind_eq_ok.mp hdefault
    unfold RecordedByDefault
    rw [read_eq_ok.mp hall, Option.some_inj, ← enableAll_iff]
    split at hdefault
    · obtain ⟨_, hnone, hdefault⟩ := bind_eq_ok.mp hdefault
      obtain ⟨items, hitems, hdefault⟩ := bind_eq_ok.mp hdefault
      obtain ⟨names, hnames, hdefault⟩ := bind_eq_ok.mp hdefault
      obtain rfl := Except.ok.inj hdefault
      rw [Bool.not_eq_eq_eq_not.mp (check_eq_ok.mp hnone)]
      unfold isRecordByDefaultThreshold
      dsimp only
      rw [decide_eq_true_eq, mem_of_mapM_eq_ok hnames]
      constructor
      · rintro ⟨item, hmem, hitem⟩
        exact Or.inr ⟨values, items, item, read_eq_ok.mp hvalues, read_eq_ok.mp hitems, hmem,
          (parseStatsName_eq_ok.mp hitem).1⟩
      · rintro (hfalse | ⟨values', items', item, hvalues', hitems', hmem, htext⟩)
        · cases hfalse
        · rw [read_eq_ok.mp hvalues] at hvalues'
          obtain rfl := Option.some.inj hvalues'
          rw [read_eq_ok.mp hitems] at hitems'
          obtain rfl := Option.some.inj hitems'
          obtain ⟨accepted, haccepted⟩ := exists_of_mapM_eq_ok hnames hmem
          rw [(parseStatsName_eq_ok.mp haccepted).1] at htext
          exact ⟨item, hmem, Option.some.inj htext ▸ haccepted⟩
    · rename_i hsize
      obtain rfl := Except.ok.inj hdefault
      refine ⟨Or.inl, Or.rec id ?_⟩
      rintro ⟨values', names, item, hvalues', hitems, hmem, -⟩
      rw [read_eq_ok.mp hvalues] at hvalues'
      obtain rfl := Option.some.inj hvalues'
      rw [items_eq_nil (not_not.mp hsize) hitems] at hmem
      cases hmem

end Accepted

end HardwareMediatek.Thermal
