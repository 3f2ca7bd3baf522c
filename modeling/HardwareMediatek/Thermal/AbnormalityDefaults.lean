import HardwareMediatek.Thermal.ParseStats

/-!
# Abnormality rules and their defaults

A sensor is watched by the rule of the entry that lists it, otherwise by the default. The maps of the
helper follow this for every parsed configuration. The parser writes a default through an optional that
has no value, so a configuration with a default is never parsed.
-/

namespace HardwareMediatek.Thermal

open Foundation UnorderedMap

/-! ## The rule of a sensor -/

section Rules

variable {ι : Type}

/-- The entry that lists the sensor, otherwise the default. -/
def ruleOf (default : Option ι) (infos : List (SensorsInfo ι)) (sensor : String) : Option ι :=
  ((infos.find? fun entry ↦ sensor ∈ entry.sensors).map SensorsInfo.info).or default

/-- No sensor is listed twice. -/
def ListedOnce (infos : List (SensorsInfo ι)) : Prop := (infos.flatMap SensorsInfo.sensors).Nodup

theorem lookup_putEach (info : ι) (sensors : List String) (infoMap : UnorderedMap String ι)
    (sensor : String) :
    (sensors.foldl (fun infoMap sensor ↦ infoMap.put sensor info) infoMap).lookup sensor =
      if sensor ∈ sensors then some info else infoMap.lookup sensor := by
  induction sensors generalizing infoMap with
  | nil => rfl
  | cons first rest ih =>
    rw [List.foldl_cons, ih, lookup_put]
    by_cases hrest : sensor ∈ rest
    · rw [if_pos hrest, if_pos (List.mem_cons_of_mem _ hrest)]
    · rw [if_neg hrest]
      by_cases hfirst : sensor = first
      · rw [if_pos hfirst, if_pos (hfirst ▸ List.mem_cons_self)]
      · rw [if_neg hfirst, if_neg (List.not_mem_cons_of_ne_of_not_mem hfirst hrest)]

/-- The last entry that lists the sensor is put last. Without repetition it is the only one. -/
theorem lookup_putForSensors {infos : List (SensorsInfo ι)} (honce : ListedOnce infos)
    (sensor : String) : (putForSensors infos).lookup sensor = ruleOf none infos sensor := by
  unfold putForSensors
  suffices h : ∀ infoMap : UnorderedMap String ι,
      (infos.foldl (fun infoMap entry ↦
        entry.sensors.foldl (fun infoMap sensor ↦ infoMap.put sensor entry.info) infoMap)
          infoMap).lookup sensor = ruleOf (infoMap.lookup sensor) infos sensor by
    exact (h ∅).trans (by rw [AList.lookup_empty])
  induction infos with
  | nil => exact fun _ ↦ rfl
  | cons entry rest ih =>
    intro infoMap
    have hparts := List.nodup_append.mp (show (entry.sensors ++ rest.flatMap SensorsInfo.sensors).Nodup
      from honce)
    rw [List.foldl_cons, ih hparts.2.1, lookup_putEach]
    unfold ruleOf
    rw [List.find?_cons]
    by_cases hlisted : sensor ∈ entry.sensors
    · have hnone : rest.find? (fun entry ↦ sensor ∈ entry.sensors) = none := by
        rw [List.find?_eq_none]
        intro other hother hin
        have hrest : sensor ∈ rest.flatMap SensorsInfo.sensors :=
          List.mem_flatMap.mpr ⟨other, hother, of_decide_eq_true hin⟩
        exact hparts.2.2 sensor hlisted sensor hrest rfl
      rw [if_pos hlisted, hnone, decide_eq_true hlisted]
      rfl
    · rw [if_neg hlisted, decide_eq_false hlisted]

theorem lookup_putIfMissing (info : ι) (infoMap : UnorderedMap String ι) (first sensor : String) :
    (if first ∈ infoMap then infoMap else infoMap.put first info).lookup sensor =
      if sensor = first then (infoMap.lookup sensor).or (some info) else infoMap.lookup sensor := by
  by_cases hsame : sensor = first
  · subst hsame
    rw [if_pos rfl]
    split
    · rename_i hmem
      obtain ⟨before, hbefore⟩ := mem_iff_lookup.mp hmem
      rw [hbefore]
      rfl
    · rename_i hmem
      rw [lookup_put, if_pos rfl, AList.lookup_eq_none.mpr hmem]
      rfl
  · rw [if_neg hsame]
    split
    · rfl
    · rw [lookup_put, if_neg hsame]

theorem lookup_putDefault {default : Option ι} {sensors : List String} {sensor : String}
    (hsensor : sensor ∈ sensors) (infoMap : UnorderedMap String ι) :
    (putDefault default sensors infoMap).lookup sensor = (infoMap.lookup sensor).or default := by
  cases default with
  | none => exact (Option.or_none).symm
  | some info =>
    unfold putDefault
    dsimp only
    suffices h : ∀ infoMap : UnorderedMap String ι,
        (sensors.foldl (fun infoMap sensor ↦
          if sensor ∈ infoMap then infoMap else infoMap.put sensor info) infoMap).lookup sensor =
            if sensor ∈ sensors then (infoMap.lookup sensor).or (some info) else infoMap.lookup sensor by
      rw [h, if_pos hsensor]
    clear hsensor
    induction sensors with
    | nil => exact fun _ ↦ rfl
    | cons first rest ih =>
      intro infoMap
      rw [List.foldl_cons, ih, lookup_putIfMissing]
      by_cases hfirst : sensor = first
      · subst hfirst
        rw [if_pos rfl, Option.or_assoc, Option.or_self, ite_self, if_pos List.mem_cons_self]
      · rw [if_neg hfirst]
        by_cases hrest : sensor ∈ rest
        · rw [if_pos hrest, if_pos (List.mem_cons_of_mem _ hrest)]
        · rw [if_neg hrest, if_neg (List.not_mem_cons_of_ne_of_not_mem hfirst hrest)]

/-- The rules of a sensor after the initialization. -/
theorem initializeSensorAbnormalityStats_rules {info : AbnormalStatsInfo}
    (hranges : ListedOnce info.sensorsTempRangeInfos) (hstucks : ListedOnce info.sensorsTempStuckInfos)
    {sensorInfoMap : SensorInfoMap} (tempStatsMap : UnorderedMap String SensorTempStats) {sensor : String}
    (hsensor : sensor ∈ sensorInfoMap) :
    (initializeSensorAbnormalityStats info sensorInfoMap tempStatsMap).tempRangeInfoMap.lookup sensor =
        ruleOf info.defaultTempRangeInfo info.sensorsTempRangeInfos sensor ∧
      (initializeSensorAbnormalityStats info sensorInfoMap tempStatsMap).tempStuckInfoMap.lookup sensor =
        ruleOf info.defaultTempStuckInfo info.sensorsTempStuckInfos sensor := by
  have hmem := AList.mem_keys.mp hsensor
  unfold initializeSensorAbnormalityStats
  dsimp only
  rw [lookup_putDefault hmem, lookup_putDefault hmem, lookup_putForSensors hranges,
    lookup_putForSensors hstucks]
  unfold ruleOf
  rw [Option.or_none, Option.or_none]
  exact ⟨rfl, rfl⟩

end Rules

/-! ## Configurations -/

section Configurations

variable {ι : Type} (sensorInfoMap : SensorInfoMap) (parse : Json → Parsing ι)

/-- An entry lists some known sensors by their names, and gives a rule that is accepted. -/
structure DescribesEntry (infoKey : String) (config : Json) (entry : SensorsInfo ι) : Prop where
  monitor : ∃ items, config.get "Monitor" = some (.arr items) ∧ items ≠ [] ∧
    List.Forall₂ (fun item sensor ↦ item.asString = some sensor) items entry.sensors
  known : ∀ sensor ∈ entry.sensors, sensor ∈ sensorInfoMap
  rule : ∃ values, config.get infoKey = some values ∧ parse values = .ok entry.info

inductive DescribesDefault (part : Json) : Option ι → Prop
  | missing (hmissing : part.get "Default" = some .null) : DescribesDefault part none
  | given {values : Json} {info : ι} (hvalues : part.get "Default" = some values)
      (hgiven : values.isNull = false) (hinfo : parse values = .ok info) :
      DescribesDefault part (some info)

inductive DescribesConfigs (infoKey : String) (part : Json) : List (SensorsInfo ι) → Prop
  | missing (hmissing : part.get "Configs" = some .null) : DescribesConfigs infoKey part []
  | given {configs : List Json} {infos : List (SensorsInfo ι)}
      (hconfigs : part.get "Configs" = some (.arr configs))
      (hentries : List.Forall₂ (DescribesEntry sensorInfoMap parse infoKey) configs infos) :
      DescribesConfigs infoKey part infos

/-- A section with an optional default and optional entries, which list no sensor twice. -/
inductive DescribesSection (sectionKey infoKey : String) (config : Json) :
    Option ι → List (SensorsInfo ι) → Prop
  | missing (hmissing : config.get sectionKey = some .null) :
      DescribesSection sectionKey infoKey config none []
  | given {part : Json} {default : Option ι} {infos : List (SensorsInfo ι)}
      (hpart : config.get sectionKey = some part) (hgiven : part.isNull = false)
      (hdefault : DescribesDefault parse part default)
      (hconfigs : DescribesConfigs sensorInfoMap parse infoKey part infos)
      (honce : ListedOnce infos) : DescribesSection sectionKey infoKey config default infos

end Configurations

/-- A well-formed configuration, and the rules that it gives. -/
structure DescribesAbnormality (sensorInfoMap : SensorInfoMap) (config : Json)
    (info : AbnormalStatsInfo) : Prop where
  outlier : DescribesSection sensorInfoMap getTempRangeInfoFromJsonValues "Outlier" "TempRange" config
    info.defaultTempRangeInfo info.sensorsTempRangeInfos
  stuck : DescribesSection sensorInfoMap getTempStuckInfoFromJsonValue "Stuck" "TempStuck" config
    info.defaultTempStuckInfo info.sensorsTempStuckInfos

section Parsed

variable {ι : Type} {sensorInfoMap : SensorInfoMap} {parse : Json → Parsing ι} {sectionKey infoKey : String}
  {config part : Json}

theorem parseMonitor_eq_ok {sensorsParsed : List String} {entry : SensorsInfo ι}
    (h : DescribesEntry sensorInfoMap parse infoKey config entry)
    (honce : (sensorsParsed ++ entry.sensors).Nodup) :
    parseMonitor sensorInfoMap sensorsParsed config = .ok entry.sensors := by
  obtain ⟨items, hmonitor, hne, hnames⟩ := h.monitor
  have hsize : (Json.arr items).size ≠ 0 := fun hzero ↦ hne (List.length_eq_zero_iff.mp hzero)
  have hloop : ∀ (items : List Json) (names sensors : List String),
      List.Forall₂ (fun item sensor ↦ item.asString = some sensor) items names →
        (∀ sensor ∈ names, sensor ∈ sensorInfoMap) →
          (sensorsParsed ++ sensors ++ names).Nodup →
            items.foldlM (fun sensors item ↦ do
              let sensor ← read item.asString
              check (sensor ∈ sensorInfoMap)
              check (sensor ∉ sensorsParsed ++ sensors)
              pure (sensors ++ [sensor])) sensors = (.ok (sensors ++ names) : Parsing _) := by
    intro items names sensors hnames
    induction hnames generalizing sensors with
    | nil =>
      intro _ _
      rw [List.append_nil]
      rfl
    | @cons item name items names hname hrest ih =>
      intro hknown honce
      have hnew : name ∉ sensorsParsed ++ sensors := by
        intro hmem
        exact (List.nodup_append.mp honce).2.2 name hmem name List.mem_cons_self rfl
      have hnext := ih (sensors ++ [name]) (fun sensor hmem ↦ hknown sensor (List.mem_cons_of_mem _ hmem))
        (by rw [← List.append_assoc, List.append_assoc _ [name]]; exact honce)
      rw [List.foldlM_cons, read_eq_ok.mpr hname]
      simp only [bind, Except.bind, pure, Except.pure] at hnext ⊢
      rw [check_eq_ok.mpr (decide_eq_true (hknown name List.mem_cons_self)),
        check_eq_ok.mpr (decide_eq_true hnew)]
      dsimp only
      rw [hnext, List.append_assoc, List.singleton_append]
  unfold parseMonitor
  rw [hmonitor]
  simp only [read, bind, Except.bind]
  rw [check_eq_ok.mpr (decide_eq_true hsize)]
  exact hloop items entry.sensors [] hnames h.known (by rw [List.append_nil]; exact honce)

theorem parseSensorsInfos_eq_ok {configs : List Json} {infos : List (SensorsInfo ι)}
    (hentries : List.Forall₂ (DescribesEntry sensorInfoMap parse infoKey) configs infos)
    (honce : ListedOnce infos) : parseSensorsInfos sensorInfoMap parse infoKey configs = .ok infos := by
  unfold parseSensorsInfos
  suffices h : ∀ before : List (SensorsInfo ι), ListedOnce (before ++ infos) →
      configs.foldlM (fun infos config ↦ do
        let sensors ← parseMonitor sensorInfoMap (infos.flatMap SensorsInfo.sensors) config
        let values ← read (config.get infoKey)
        let info ← parse values
        pure (infos ++ [⟨sensors, info⟩])) before = (.ok (before ++ infos) : Parsing _) by
    exact h [] honce
  clear honce
  induction hentries with
  | nil =>
    intro before _
    rw [List.append_nil]
    rfl
  | @cons config entry configs infos hentry hrest ih =>
    intro before honce
    obtain ⟨values, hvalues, hinfo⟩ := hentry.rule
    have hsensors : (before.flatMap SensorsInfo.sensors ++ entry.sensors).Nodup := by
      unfold ListedOnce at honce
      rw [List.flatMap_append, List.flatMap_cons, ← List.append_assoc] at honce
      exact (List.nodup_append.mp honce).1
    have hnext := ih (before ++ [entry]) (by rwa [List.append_assoc])
    rw [List.foldlM_cons, parseMonitor_eq_ok hentry hsensors, hvalues]
    simp only [read, bind, Except.bind, pure, Except.pure, hinfo] at hnext ⊢
    rw [hnext, List.append_assoc, List.singleton_append]

/-- A section is parsed exactly when it has no default. -/
theorem parseAbnormalitySection_describes {default : Option ι} {infos : List (SensorsInfo ι)}
    (h : DescribesSection sensorInfoMap parse sectionKey infoKey config default infos) :
    parseAbnormalitySection sensorInfoMap parse sectionKey infoKey config =
      if default.isSome then .error .aborted else .ok (default, infos) := by
  unfold parseAbnormalitySection
  cases h with
  | missing hmissing =>
    rw [hmissing]
    rfl
  | given hpart hgiven hdefault hconfigs honce =>
    simp only [hpart, read, bind, Except.bind, hgiven, Bool.false_eq_true, if_false]
    cases hdefault with
    | given hvalues hset hinfo =>
      simp only [hvalues, parseDefaultInfo, hset, Bool.false_eq_true, if_false]
      rfl
    | missing hmissing =>
      simp only [hmissing, parseDefaultInfo, Json.isNull, if_true, pure, Except.pure, Option.isSome_none,
        Bool.false_eq_true, if_false]
      cases hconfigs with
      | missing hmissing =>
        rw [hmissing]
        rfl
      | given hlisted hentries =>
        simp only [hlisted, Bool.false_eq_true, if_false, Json.items,
          parseSensorsInfos_eq_ok hentries honce]

theorem DescribesSection.listedOnce {default : Option ι} {infos : List (SensorsInfo ι)}
    (h : DescribesSection sensorInfoMap parse sectionKey infoKey config default infos) :
    ListedOnce infos := by
  cases h with
  | missing => exact List.nodup_nil
  | given _ _ _ _ honce => exact honce

/-- Nothing has no section. -/
theorem DescribesSection.of_empty {default : Option ι} {infos : List (SensorsInfo ι)}
    (h : DescribesSection sensorInfoMap parse sectionKey infoKey config default infos)
    (hempty : config.empty = true) : default = none ∧ infos = [] := by
  cases h with
  | missing => exact ⟨rfl, rfl⟩
  | given hpart hgiven =>
    obtain rfl := get_of_empty hempty hpart
    cases hgiven

end Parsed

section Abnormality

variable {sensorInfoMap : SensorInfoMap} {config : Json} {info : AbnormalStatsInfo}

/-- A well-formed configuration is parsed exactly when it has no default. -/
theorem parseSensorAbnormalStatsConfig_describes (h : DescribesAbnormality sensorInfoMap config info) :
    parseSensorAbnormalStatsConfig sensorInfoMap config =
      if info.defaultTempRangeInfo.isSome || info.defaultTempStuckInfo.isSome then .error .aborted
      else .ok info := by
  unfold parseSensorAbnormalStatsConfig
  cases hempty : config.empty with
  | true =>
    obtain ⟨hrange, hranges⟩ := h.outlier.of_empty hempty
    obtain ⟨hstuck, hstucks⟩ := h.stuck.of_empty hempty
    obtain ⟨defaultRange, ranges, defaultStuck, stucks⟩ := info
    obtain rfl : defaultRange = none := hrange
    obtain rfl : ranges = [] := hranges
    obtain rfl : defaultStuck = none := hstuck
    obtain rfl : stucks = [] := hstucks
    rfl
  | false =>
    rw [parseAbnormalitySection_describes h.outlier, parseAbnormalitySection_describes h.stuck]
    cases hrange : info.defaultTempRangeInfo with
    | some range => rfl
    | none =>
      cases hstuck : info.defaultTempStuckInfo with
      | some stuck => rfl
      | none =>
        obtain ⟨defaultRange, ranges, defaultStuck, stucks⟩ := info
        obtain rfl : defaultRange = none := hrange
        obtain rfl : defaultStuck = none := hstuck
        rfl

/-- The configuration is accepted, and after the initialization every sensor is watched by the rules of
the entries that list it, otherwise by the defaults. -/
def FollowsRules (sensorInfoMap : SensorInfoMap) (config : Json) (info : AbnormalStatsInfo) : Prop :=
  ∃ accepted, parseSensorAbnormalStatsConfig sensorInfoMap config = .ok accepted ∧
    ∀ tempStatsMap, ∀ sensor ∈ sensorInfoMap,
      (initializeSensorAbnormalityStats accepted sensorInfoMap tempStatsMap).tempRangeInfoMap.lookup
          sensor = ruleOf info.defaultTempRangeInfo info.sensorsTempRangeInfos sensor ∧
        (initializeSensorAbnormalityStats accepted sensorInfoMap tempStatsMap).tempStuckInfoMap.lookup
          sensor = ruleOf info.defaultTempStuckInfo info.sensorsTempStuckInfos sensor

theorem followsRules_iff (hdescribes : DescribesAbnormality sensorInfoMap config info) :
    FollowsRules sensorInfoMap config info ↔
      info.defaultTempRangeInfo = none ∧ info.defaultTempStuckInfo = none := by
  unfold FollowsRules
  rw [parseSensorAbnormalStatsConfig_describes hdescribes]
  cases hrange : info.defaultTempRangeInfo with
  | some range => simp
  | none =>
    cases hstuck : info.defaultTempStuckInfo with
    | some stuck => simp
    | none =>
      refine iff_of_true ⟨info, rfl, fun tempStatsMap sensor hsensor ↦ ?_⟩ ⟨rfl, rfl⟩
      have hrules := initializeSensorAbnormalityStats_rules hdescribes.outlier.listedOnce
        hdescribes.stuck.listedOnce tempStatsMap hsensor
      rwa [hrange, hstuck] at hrules

end Abnormality

/-! ## Listed sensors, and a default range -/

def listedSensors : SensorInfoMap := ((∅ : SensorInfoMap).insert "soc" default).insert "skin" default

/-- Both sensors have a range, and one of them can be stuck. -/
def listedConfig : Json :=
  .obj [("Outlier", .obj [("Configs", .arr [.obj [("Monitor", .arr [.str "soc", .str "skin"]),
      ("TempRange", .arr [.int 0, .int 100])]])]),
    ("Stuck", .obj [("Configs", .arr [.obj [("Monitor", .arr [.str "skin"]),
      ("TempStuck", .obj [("MinStuckDuration", .int 1000), ("MinPollingCount", .int 3)])]])])]

def listedInfo : AbnormalStatsInfo := ⟨none, [⟨["soc", "skin"], ⟨100, 0⟩⟩], none, [⟨["skin"], ⟨3, 1000⟩⟩]⟩

theorem listedConfig_describes : DescribesAbnormality listedSensors listedConfig listedInfo where
  outlier := .given rfl rfl (.missing rfl)
    (.given rfl (.cons
      { monitor := ⟨_, rfl, List.cons_ne_nil _ _, .cons rfl (.cons rfl .nil)⟩
        known := by decide
        rule := ⟨_, rfl, by decide +kernel⟩ } .nil))
    (by unfold ListedOnce; decide)
  stuck := .given rfl rfl (.missing rfl)
    (.given rfl (.cons
      { monitor := ⟨_, rfl, List.cons_ne_nil _ _, .cons rfl .nil⟩
        known := by decide
        rule := ⟨_, rfl, by decide +kernel⟩ } .nil))
    (by unfold ListedOnce; decide)

theorem listedConfig_followsRules : FollowsRules listedSensors listedConfig listedInfo :=
  (followsRules_iff listedConfig_describes).mpr ⟨rfl, rfl⟩

def rangedConfig : Json := .obj [("Outlier", .obj [("Default", .arr [.int 0, .int 100])])]

def rangedInfo : AbnormalStatsInfo := ⟨some ⟨100, 0⟩, [], none, []⟩

theorem rangedConfig_describes (sensorInfoMap : SensorInfoMap) :
    DescribesAbnormality sensorInfoMap rangedConfig rangedInfo where
  outlier := .given rfl rfl (.given rfl rfl (by decide +kernel)) (.missing rfl) List.nodup_nil
  stuck := .missing rfl

/-- The configuration is well-formed and ends the program. -/
theorem rangedConfig_not_followsRules :
    DescribesAbnormality ∅ rangedConfig rangedInfo ∧ ¬FollowsRules ∅ rangedConfig rangedInfo := by
  refine ⟨rangedConfig_describes ∅, ?_⟩
  rintro ⟨accepted, hparsed, -⟩
  have haborted : parseSensorAbnormalStatsConfig ∅ rangedConfig = .error .aborted := rfl
  rw [haborted] at hparsed
  cases hparsed

end HardwareMediatek.Thermal
