import HardwareMediatek.Thermal.ParseConfig
import HardwareMediatek.Thermal.ParsedSensors

/-!
# Sensors and cooling devices of several files

The parsers run on the lists that the files were merged into. What they make of a name is decided by the
first file that lists it, in the order in which the files are loaded: it hides the entries of the others
even when its own is disabled.
-/

namespace HardwareMediatek.Thermal

open Foundation Relation

/-- The first entry with a name, in the order of the files. -/
def firstEntry (files : ConfigFiles) (member : ConfigMember) (order : List String) (name : String) :
    Option ConfigEntry :=
  order.findSome? fun path ↦ findKey ConfigEntry.name name (fileEntries files member path)

/-- A member of a JSON value is the list of some entries. -/
structure HoldsEntries (key : String) (config : Json) (entries : List ConfigEntry) : Prop where
  list : config.get key = some (.arr (entries.map ConfigEntry.body))
  names : ∀ entry ∈ entries, getString "Name" entry.body = .ok entry.name

/-- The names of a parser are the members `Name`. -/
def NamesByMember {μ δ ν : Type} (parser : EntryParser Json String μ δ ν ParseEnd) : Prop :=
  ∀ value name result, parser.alone value = .ok (some (name, result)) → getString "Name" value = .ok name

/-- What a parser returns is decided by the first entries of the names, each of them by itself. -/
structure ReadsFirst {μ δ ν : Type} (files : ConfigFiles) (member : ConfigMember) (order : List String)
    (parser : EntryParser Json String μ δ ν ParseEnd) (outcome : Parsing (UnorderedMap String ν)) :
    Prop where
  accepted : (∃ parsed, outcome = .ok parsed) ↔
    ∀ name entry, firstEntry files member order name = some entry →
      ∃ result, parser.alone entry.body = .ok result
  lookup : ∀ parsed, outcome = .ok parsed → ∀ name value, parsed.lookup name = some value ↔
    ∃ entry, firstEntry files member order name = some entry ∧
      parser.alone entry.body = .ok (some (name, value))

section Merged

variable {μ δ ν : Type} {parser : EntryParser Json String μ δ ν ParseEnd} {files : ConfigFiles}
  {member : ConfigMember} {order : List String} {entries : List ConfigEntry} {key : String} {config : Json}

theorem firstEntry_eq_some
    (hunion : IsLeftUnion ConfigEntry.name (order.map (fileEntries files member)) entries)
    {name : String} {entry : ConfigEntry} :
    firstEntry files member order name = some entry ↔ entry ∈ entries ∧ entry.name = name := by
  have hfirst : firstEntry files member order name = findKey ConfigEntry.name name entries := by
    rw [hunion.find, List.findSome?_map]
    rfl
  rw [hfirst]
  constructor
  · intro hfind
    exact ⟨List.mem_of_find?_eq_some hfind, by simpa using List.find?_some hfind⟩
  · intro hentry
    have hsome : (findKey ConfigEntry.name name entries).isSome :=
      findKey_isSome_iff.mpr (List.mem_map.mpr ⟨entry, hentry⟩)
    obtain ⟨found, hfound⟩ := Option.isSome_iff_exists.mp hsome
    have hname : found.name = name := by simpa using List.find?_some hfound
    rw [hfound, List.inj_on_of_nodup_map hunion.nodup (List.mem_of_find?_eq_some hfound) hentry.1
      (hname.trans hentry.2.symm)]

/-- The entries that are parsed are the first ones of their names. -/
theorem forall_bodies_iff {P : Json → Prop}
    (hunion : IsLeftUnion ConfigEntry.name (order.map (fileEntries files member)) entries) :
    (∀ value ∈ entries.map ConfigEntry.body, P value) ↔
      ∀ name entry, firstEntry files member order name = some entry → P entry.body := by
  simp only [firstEntry_eq_some hunion, List.forall_mem_map]
  constructor
  · exact fun hall name entry hentry ↦ hall entry hentry.1
  · exact fun hall entry hentry ↦ hall entry.name entry ⟨hentry, rfl⟩

/-- The names of the entries are what a parser sees. -/
theorem names_sublist (hnamed : NamesByMember parser) (hholds : HoldsEntries key config entries) :
    ((parser.kept (entries.map ConfigEntry.body)).map Prod.fst).Sublist
      (entries.map ConfigEntry.name) := by
  have hnames := hholds.names
  clear hholds
  induction entries with
  | nil => exact List.Sublist.refl _
  | cons entry rest ih =>
    have hrest := ih fun entry hentry ↦ hnames entry (List.mem_cons_of_mem _ hentry)
    unfold EntryParser.kept at hrest ⊢
    rw [List.map_cons, List.map_cons, List.filterMap_cons]
    cases halone : parser.alone entry.body with
    | error halt => exact hrest.cons _
    | ok result =>
      cases result with
      | none => exact hrest.cons _
      | some pair =>
        have hsame := (hnames entry List.mem_cons_self).symm.trans (hnamed _ _ _ halone)
        change (pair.1 :: _).Sublist _
        rw [← Except.ok.inj hsame]
        exact hrest.cons_cons _

/-- A parser of entries whose marks differ reads the first ones. -/
theorem readsFirst_parse [DecidableEq μ]
    (hunion : IsLeftUnion ConfigEntry.name (order.map (fileEntries files member)) entries)
    (hnamed : NamesByMember parser) (hholds : HoldsEntries key config entries)
    (hmark : ∀ entry ∈ entries, ∀ entry' ∈ entries,
      parser.mark entry.name = parser.mark entry'.name → entry.name = entry'.name) :
    ReadsFirst files member order parser (parser.parse (entries.map ConfigEntry.body)) := by
  constructor
  · have hsublist := names_sublist hnamed hholds
    have hmarks : (parser.marks (entries.map ConfigEntry.body)).Nodup := by
      unfold EntryParser.marks
      rw [← Function.comp_def, ← List.map_map]
      apply List.Nodup.map_on _ (hunion.nodup.sublist hsublist)
      intro name hname name' hname' hsame
      obtain ⟨entry, hentry, rfl⟩ := List.mem_map.mp (hsublist.subset hname)
      obtain ⟨entry', hentry', rfl⟩ := List.mem_map.mp (hsublist.subset hname')
      exact hmark entry hentry entry' hentry' hsame
    simp only [EntryParser.parse_eq_ok, hmarks, true_and, exists_and_left, exists_eq, and_true]
    exact forall_bodies_iff hunion
  · intro parsed hparse name value
    simp only [EntryParser.parse_lookup hparse, List.mem_map, exists_exists_and_eq_and,
      firstEntry_eq_some hunion]
    apply exists_congr
    intro entry
    constructor
    · intro hentry
      have hname := (hholds.names entry hentry.1).symm.trans (hnamed _ _ _ hentry.2)
      exact ⟨⟨hentry.1, Except.ok.inj hname⟩, hentry.2⟩
    · exact fun hentry ↦ ⟨hentry.1.1, hentry.2⟩

end Merged

section Files

variable {context : ParseContext} {scalingFrequencyMap : ScalingFrequencyMap}
  {coolingDeviceInfoMap : CdevInfoMap} {files : ConfigFiles} {fuel : ℕ} {root : String}
  {merged : ThermalConfig} {loaded : Finset String} {config : Json}

theorem parseEnabledName_some {value : Json} {name : String}
    (hparse : parseEnabledName value = .ok (some name)) : getString "Name" value = .ok name := by
  obtain ⟨text, htext, hparse⟩ := bind_eq_ok.mp hparse
  obtain ⟨_, -, hparse⟩ := bind_eq_ok.mp hparse
  obtain ⟨disabled, -, hparse⟩ := bind_eq_ok.mp hparse
  have hsame := Except.ok.inj hparse
  split_ifs at hsame
  rw [← Option.some.inj hsame, htext]

theorem sensorParser_names :
    NamesByMember (sensorParser context scalingFrequencyMap coolingDeviceInfoMap) :=
  fun _ _ _ halone ↦ parseEnabledName_some (sensorParser_alone.mp halone).1

theorem cdevParser_names (types : List String) : NamesByMember (cdevParser types) := by
  intro value name result halone
  obtain ⟨header, hheader, -⟩ := EntryParser.alone_eq_some.mp halone
  exact parseEnabledName_some (parseCdevHeader_some hheader).1

theorem parseSensorInfo_eq_parse {items : List Json} (hsensors : config.get "Sensors" = some (.arr items))
    {cdevs : Json} (hcdevs : config.get "CoolingDevices" = some cdevs)
    (hfrequencies : parseScalingFrequencies context.readFile cdevs = .ok scalingFrequencyMap) :
    parseSensorInfo context coolingDeviceInfoMap config =
      (sensorParser context scalingFrequencyMap coolingDeviceInfoMap).parse items := by
  unfold parseSensorInfo
  rw [hsensors, hcdevs]
  simp only [read, Json.items, bind, Except.bind, hfrequencies]

theorem parseCoolingDevice_eq_parse {items : List Json}
    (hcdevs : config.get "CoolingDevices" = some (.arr items)) :
    parseCoolingDevice context config = (cdevParser context.coolingTypes).parse items := by
  unfold parseCoolingDevice
  rw [hcdevs]
  rfl

/-- A name without a zero is its own C string. -/
theorem cdevMark_injective (types : List String) {name name' : String} (hname : '\x00' ∉ name.toList)
    (hname' : '\x00' ∉ name'.toList) (hsame : (cdevParser types).mark name = (cdevParser types).mark name') :
    name = name' := by
  have hwhole : ∀ name : String, '\x00' ∉ name.toList → (cdevParser types).mark name = name.toList := by
    intro name hname
    apply List.takeWhile_eq_self_iff.mpr
    intro c hc
    exact decide_eq_true fun hzero ↦ hname (hzero ▸ hc)
  rw [hwhole name hname, hwhole name' hname'] at hsame
  exact String.toList_inj.mp hsame

/-- What the parsers make of the sensors and cooling devices of all files. An entry that is listed later
is not even looked at, and a sensor that the first file disables does not exist. -/
theorem parsers_readFirst
    (hload : parseThermalConfig files fuel root ∅ = some (.ok (merged, loaded)))
    (hunique : ∀ path ∈ loaded, ∀ member, ((fileEntries files member path).map ConfigEntry.name).Nodup)
    (hsensors : HoldsEntries "Sensors" config (merged.entries .sensors))
    (hcdevs : HoldsEntries "CoolingDevices" config (merged.entries .coolingDevices))
    (hnames : ∀ entry ∈ merged.entries .coolingDevices, '\x00' ∉ entry.name.toList)
    (hfrequencies : parseScalingFrequencies context.readFile
      (.arr ((merged.entries .coolingDevices).map ConfigEntry.body)) = .ok scalingFrequencyMap) :
    ∃ order, Preorder (includeGraph files) [root] order ∧
      ReadsFirst files .sensors order (sensorParser context scalingFrequencyMap coolingDeviceInfoMap)
        (parseSensorInfo context coolingDeviceInfoMap config) ∧
      ReadsFirst files .coolingDevices order (cdevParser context.coolingTypes)
        (parseCoolingDevice context config) := by
  obtain ⟨order, horder⟩ := parseThermalConfig_ok hload
  have hunion : ∀ member, IsLeftUnion ConfigEntry.name (order.map (fileEntries files member))
      (merged.entries member) := by
    intro member
    apply horder.merged member
    intro path hpath
    apply hunique path _ member
    rw [horder.loaded]
    exact Finset.mem_union_right _ (List.mem_toFinset.mpr hpath)
  refine ⟨order, horder.preorder, ?_, ?_⟩
  · rw [parseSensorInfo_eq_parse hsensors.list hcdevs.list hfrequencies]
    exact readsFirst_parse (hunion .sensors) sensorParser_names hsensors fun _ _ _ _ hsame ↦ hsame
  · rw [parseCoolingDevice_eq_parse hcdevs.list]
    apply readsFirst_parse (hunion .coolingDevices) (cdevParser_names _) hcdevs
    exact fun entry hentry entry' hentry' ↦
      cdevMark_injective _ (hnames entry hentry) (hnames entry' hentry')

/-- A root that disables a sensor of the file it includes. -/
def disablingRoot : ConfigFiles :=
  let soc : ConfigEntry := ⟨"soc", .obj [("Name", .str "soc"), ("isDisabled", .bool true)]⟩
  let skin : ConfigEntry := ⟨"skin", .obj [("Name", .str "skin"), ("Type", .str "SKIN")]⟩
  let fan : ConfigEntry := ⟨"fan", .obj [("Name", .str "fan"), ("Type", .str "FAN")]⟩
  ((∅ : ConfigFiles).insert "/vendor/etc/base.json"
      ⟨[], fun | .sensors => [⟨"soc", .obj [("Name", .str "soc")]⟩, skin] | _ => [], none⟩).insert
    "/vendor/etc/thermal_info_config.json"
    ⟨["base.json"], fun | .sensors => [soc] | .coolingDevices => [fan] | .powerRails => [], none⟩

/-- The merged configuration as a JSON value. -/
def disablingConfig : Json :=
  .obj [("Sensors", .arr [.obj [("Name", .str "soc"), ("isDisabled", .bool true)],
      .obj [("Name", .str "skin"), ("Type", .str "SKIN")]]),
    ("CoolingDevices", .arr [.obj [("Name", .str "fan"), ("Type", .str "FAN")]])]

theorem parsers_readFirst_disablingRoot :
    ∃ order, Preorder (includeGraph disablingRoot) ["/vendor/etc/thermal_info_config.json"] order ∧
      ReadsFirst disablingRoot .sensors order (sensorParser smallContext ∅ ∅)
        (parseSensorInfo smallContext ∅ disablingConfig) ∧
      ReadsFirst disablingRoot .coolingDevices order (cdevParser smallContext.coolingTypes)
        (parseCoolingDevice smallContext disablingConfig) := by
  have hload : ∃ merged loaded,
      parseThermalConfig disablingRoot 3 "/vendor/etc/thermal_info_config.json" ∅ =
          some (.ok (merged, loaded)) ∧
        loaded = {"/vendor/etc/base.json", "/vendor/etc/thermal_info_config.json"} ∧
        HoldsEntries "Sensors" disablingConfig (merged.entries .sensors) ∧
        HoldsEntries "CoolingDevices" disablingConfig (merged.entries .coolingDevices) ∧
        (∀ entry ∈ merged.entries .coolingDevices, '\x00' ∉ entry.name.toList) ∧
        parseScalingFrequencies smallContext.readFile
          (.arr ((merged.entries .coolingDevices).map ConfigEntry.body)) = .ok ∅ := by
    refine ⟨_, _, rfl, rfl, ⟨rfl, ?_⟩, ⟨rfl, ?_⟩, ?_, rfl⟩
    · intro entry hentry
      have hcases : entry = ⟨"soc", .obj [("Name", .str "soc"), ("isDisabled", .bool true)]⟩ ∨
          entry = ⟨"skin", .obj [("Name", .str "skin"), ("Type", .str "SKIN")]⟩ := by
        simpa using List.mem_cons.mp hentry
      cases hcases with
      | inl hsoc =>
        rw [hsoc]
        rfl
      | inr hskin =>
        rw [hskin]
        rfl
    · intro entry hentry
      rw [List.mem_singleton.mp hentry]
      rfl
    · intro entry hentry
      rw [List.mem_singleton.mp hentry]
      decide
  obtain ⟨merged, loaded, hload, hloaded, hsensors, hcdevs, hnames, hfrequencies⟩ := hload
  refine parsers_readFirst hload ?_ hsensors hcdevs hnames hfrequencies
  intro path hpath member
  rw [hloaded] at hpath
  fin_cases hpath <;> cases member <;> decide

end Files

end HardwareMediatek.Thermal
