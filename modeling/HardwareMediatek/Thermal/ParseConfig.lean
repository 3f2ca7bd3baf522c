import HardwareMediatek.Foundation.Json
import HardwareMediatek.Foundation.KeyedMerge
import HardwareMediatek.Foundation.UnorderedMap
import HardwareMediatek.Foundation.Unfolding

/-!
# Configuration files and their includes

A configuration file lists sensors, cooling devices and power rails, and may
include further files. `parseThermalConfig` loads a file, then the files it
includes from left to right, and merges what they define into the lists of
the including file.

One set of loaded paths grows over the whole recursion and nothing is ever
taken out of it. A path that is met again is therefore refused, whether it
closes a cycle or is only shared: the recursion succeeds exactly when the
files unfold to a tree that lists no file twice. On such a tree the merged
lists are the left-biased union of the files in pre-order.
-/

namespace HardwareMediatek.Thermal

open Relation

/-- An element of one of the lists, with the text of its member `Name`. -/
structure ConfigEntry where
  name : String
  body : Json

/-- The members of a configuration file that are lists of named entries. -/
inductive ConfigMember where
  | sensors
  | coolingDevices
  | powerRails
deriving DecidableEq

/-- The member `Stats`: its list `Sensors.RecordWithThreshold`, and everything else. -/
structure StatsConfig where
  recordWithThreshold : List ConfigEntry
  others : Json

/-- A configuration file, or the result of merging several. -/
structure ThermalConfig where
  includes : List String
  entries : ConfigMember → List ConfigEntry
  stats : Option StatsConfig

/-- The configuration files that load, by path. -/
abbrev ConfigFiles := UnorderedMap String ThermalConfig

inductive ConfigError where
  | circularDependency (configPath : String)
  | failedToRead (configPath : String)
deriving DecidableEq

/-- Append the entries of the included list whose names do not occur in the list itself. The names
are collected once, before anything is appended. -/
def mergeConfigEntries (configEntries subConfigEntries : List ConfigEntry) : List ConfigEntry :=
  if subConfigEntries.length = 0 then configEntries
  else
    let configEntriesSet := configEntries.map ConfigEntry.name
    subConfigEntries.foldl
      (fun merged entry ↦ if entry.name ∈ configEntriesSet then merged else merged ++ [entry])
      configEntries

/-- The three merges after an included file was parsed, and the one of the statistics. -/
def mergeConfig (config subConfig : ThermalConfig) : ThermalConfig where
  includes := config.includes
  entries member := mergeConfigEntries (config.entries member) (subConfig.entries member)
  stats :=
    match subConfig.stats, config.stats with
    | none, stats => stats
    | some subStats, none => some subStats
    | some subStats, some stats =>
      some { stats with
        recordWithThreshold :=
          mergeConfigEntries stats.recordWithThreshold subStats.recordWithThreshold }

/-- The path of an included file. -/
def subConfigsPath (name : String) : String := "/vendor/etc/" ++ name

/-- What a call returns: the merged configuration and the grown set of loaded paths. -/
abbrev ParseOutcome := Except ConfigError (ThermalConfig × Finset String)

/-- The loop over the included files. -/
def parseIncludes (parse : String → Finset String → Option ParseOutcome) :
    List String → ThermalConfig → Finset String → Option ParseOutcome
  | [], config, loadedConfigPaths => some (.ok (config, loadedConfigPaths))
  | name :: rest, config, loadedConfigPaths =>
    match parse (subConfigsPath name) loadedConfigPaths with
    | none => none
    | some (.error error) => some (.error error)
    | some (.ok (subConfig, loadedConfigPaths)) =>
      parseIncludes parse rest (mergeConfig config subConfig) loadedConfigPaths

/-- The recursion, to a depth of `fuel` nested files; no result when the fuel runs out. -/
def parseThermalConfig (files : ConfigFiles) :
    ℕ → String → Finset String → Option ParseOutcome
  | 0, _, _ => none
  | fuel + 1, configPath, loadedConfigPaths =>
    if configPath ∈ loadedConfigPaths then
      some (.error (.circularDependency configPath))
    else
      match files.lookup configPath with
      | none => some (.error (.failedToRead configPath))
      | some config =>
        parseIncludes (parseThermalConfig files fuel) config.includes config
          (insert configPath loadedConfigPaths)

/-- The paths a file includes, in order; none when it does not load. -/
def includeGraph (files : ConfigFiles) (path : String) : Option (List String) :=
  (files.lookup path).map fun config ↦ config.includes.map subConfigsPath

theorem mergeConfigEntries_eq (xs ys : List ConfigEntry) :
    mergeConfigEntries xs ys = mergeByKey ConfigEntry.name xs ys := by
  have hfold : ∀ (ys merged : List ConfigEntry),
      ys.foldl (fun merged entry ↦
          if entry.name ∈ xs.map ConfigEntry.name then merged else merged ++ [entry]) merged =
        merged ++ ys.filter fun y ↦ y.name ∉ xs.map ConfigEntry.name := by
    intro ys
    induction ys with
    | nil => simp
    | cons y rest ih =>
      intro merged
      by_cases hy : y.name ∈ xs.map ConfigEntry.name
      · rw [List.foldl_cons, if_pos hy, ih, List.filter_cons_of_neg (by simpa using hy)]
      · rw [List.foldl_cons, if_neg hy, ih, List.filter_cons_of_pos (by simpa using hy),
          List.append_assoc, List.singleton_append]
  unfold mergeConfigEntries mergeByKey
  split
  · rename_i hempty
    simp [List.length_eq_zero_iff.mp hempty]
  · exact hfold ys xs

/-! ## The files that were parsed -/

/-- The entries of one file. -/
def fileEntries (files : ConfigFiles) (member : ConfigMember) (path : String) : List ConfigEntry :=
  ((files.lookup path).map fun config ↦ config.entries member).getD []

/-- What a successful call has done: it parsed the files of `order`, all of them new, and the
result starts with the entries of the first one. -/
structure ParsedTo (files : ConfigFiles) (configPath : String) (loaded : Finset String)
    (config : ThermalConfig) (loaded' : Finset String) (order : List String) : Prop where
  preorder : Preorder (includeGraph files) [configPath] order
  nodup : order.Nodup
  fresh : ∀ path ∈ order, path ∉ loaded
  loaded : loaded' = loaded ∪ order.toFinset
  rootFirst : ∀ member, fileEntries files member configPath <+: config.entries member
  merged : ∀ member, (∀ path ∈ order, ((fileEntries files member path).map ConfigEntry.name).Nodup) →
    IsLeftUnion ConfigEntry.name (order.map (fileEntries files member)) (config.entries member)

/-- The same for the loop: `done` lists the files merged so far. -/
theorem parseIncludes_ok {files : ConfigFiles}
    {parse : String → Finset String → Option ParseOutcome}
    (hparse : ∀ path loaded config loaded', parse path loaded = some (.ok (config, loaded')) →
      ∃ order, ParsedTo files path loaded config loaded' order)
    {names : List String} {config config' : ThermalConfig} {loaded loaded' : Finset String}
    (h : parseIncludes parse names config loaded = some (.ok (config', loaded'))) :
    ∃ order, Preorder (includeGraph files) (names.map subConfigsPath) order ∧ order.Nodup ∧
      (∀ path ∈ order, path ∉ loaded) ∧ loaded' = loaded ∪ order.toFinset ∧
      ∀ member, config.entries member <+: config'.entries member ∧
        ∀ done : List String,
          (∀ path ∈ order, ((fileEntries files member path).map ConfigEntry.name).Nodup) →
          IsLeftUnion ConfigEntry.name (done.map (fileEntries files member))
            (config.entries member) →
          IsLeftUnion ConfigEntry.name ((done ++ order).map (fileEntries files member))
            (config'.entries member) := by
  induction names generalizing config loaded with
  | nil =>
    simp only [parseIncludes, Option.some.injEq, Except.ok.injEq, Prod.mk.injEq] at h
    obtain ⟨rfl, rfl⟩ := h
    refine ⟨[], Preorder.nil, List.nodup_nil, by simp, by simp, fun member ↦ ⟨by simp, ?_⟩⟩
    intro done _ hdone
    simpa using hdone
  | cons name rest ih =>
    simp only [parseIncludes] at h
    split at h
    · cases h
    · cases h
    · rename_i subConfig loaded₁ hsub
      obtain ⟨inside, hinside⟩ := hparse _ _ _ _ hsub
      obtain ⟨outside, hpre, hnodup, hfresh, rfl, hentries⟩ := ih h
      have hdisjoint : inside.Disjoint outside := by
        intro path hin hout
        refine hfresh path hout ?_
        rw [hinside.loaded]
        exact Finset.mem_union_right _ (List.mem_toFinset.mpr hin)
      have hcons : Preorder (includeGraph files) ((name :: rest).map subConfigsPath)
          (inside ++ outside) := by
        have hpreorder := hinside.preorder
        cases hpreorder with
        | cons load below beside =>
          cases beside
          rw [List.append_nil, List.cons_append, List.map_cons]
          exact Preorder.cons load below hpre
      refine ⟨inside ++ outside, hcons, hinside.nodup.append hnodup hdisjoint, ?_, ?_, ?_⟩
      · intro path hpath
        rcases List.mem_append.mp hpath with hin | hout
        · exact hinside.fresh path hin
        · intro hloaded
          refine hfresh path hout ?_
          rw [hinside.loaded]
          exact Finset.mem_union_left _ hloaded
      · rw [hinside.loaded, List.toFinset_append, Finset.union_assoc]
      · intro member
        have hmerge : (mergeConfig config subConfig).entries member =
            mergeByKey ConfigEntry.name (config.entries member) (subConfig.entries member) :=
          mergeConfigEntries_eq _ _
        constructor
        · refine List.IsPrefix.trans ?_ (hentries member).1
          rw [hmerge]
          exact prefix_mergeByKey
        · intro done hunique hdone
          have hsubUnion := hinside.merged member fun path hpath ↦
            hunique path (List.mem_append_left _ hpath)
          have hnext := (hentries member).2 (done ++ inside)
            (fun path hpath ↦ hunique path (List.mem_append_right _ hpath))
          rw [hmerge, List.map_append] at hnext
          rw [← List.append_assoc]
          exact hnext (hdone.merge hsubUnion)

theorem parseThermalConfig_ok {files : ConfigFiles} {fuel : ℕ} {path : String}
    {loaded loaded' : Finset String} {config : ThermalConfig}
    (h : parseThermalConfig files fuel path loaded = some (.ok (config, loaded'))) :
    ∃ order, ParsedTo files path loaded config loaded' order := by
  induction fuel generalizing path loaded loaded' config with
  | zero => cases h
  | succ fuel ih =>
    simp only [parseThermalConfig] at h
    split at h
    · cases h
    · rename_i hpath
      split at h
      · cases h
      · rename_i file hfile
        obtain ⟨below, hpre, hnodup, hfresh, rfl, hentries⟩ :=
          parseIncludes_ok (fun _ _ _ _ hcall ↦ ih hcall) h
        have hgraph : includeGraph files path = some (file.includes.map subConfigsPath) := by
          simp [includeGraph, hfile]
        have hfileEntries : ∀ member, fileEntries files member path = file.entries member := by
          intro member
          simp [fileEntries, hfile]
        have hnew : path ∉ below := fun hmem ↦ hfresh path hmem (Finset.mem_insert_self _ _)
        refine ⟨path :: below, ?_, List.nodup_cons.mpr ⟨hnew, hnodup⟩, ?_, ?_, ?_, ?_⟩
        · have hcons := Preorder.cons hgraph hpre Preorder.nil
          rwa [List.append_nil] at hcons
        · intro path' hmem
          rcases List.mem_cons.mp hmem with rfl | hbelow
          · exact hpath
          · exact fun hloaded ↦ hfresh path' hbelow (Finset.mem_insert_of_mem hloaded)
        · rw [List.toFinset_cons, Finset.union_insert, Finset.insert_union]
        · intro member
          rw [hfileEntries]
          exact (hentries member).1
        · intro member hunique
          have hroot : IsLeftUnion ConfigEntry.name ([path].map (fileEntries files member))
              (file.entries member) := by
            rw [List.map_singleton, hfileEntries]
            refine IsLeftUnion.singleton ?_
            rw [← hfileEntries]
            exact hunique path List.mem_cons_self
          exact (hentries member).2 [path]
            (fun p hp ↦ hunique p (List.mem_cons_of_mem _ hp)) hroot

/-! ## Termination -/

/-- The files that can still be loaded. -/
def unloaded (files : ConfigFiles) (loaded : Finset String) : Finset String :=
  files.keys.toFinset \ loaded

theorem unloaded_insert_lt {files : ConfigFiles} {loaded : Finset String} {path : String}
    (hfile : path ∈ files) (hpath : path ∉ loaded) :
    (unloaded files (insert path loaded)).card < (unloaded files loaded).card := by
  apply Finset.card_lt_card
  refine ⟨Finset.sdiff_subset_sdiff Finset.Subset.rfl (Finset.subset_insert _ _), fun hsub ↦ ?_⟩
  have hmem : path ∈ unloaded files loaded :=
    Finset.mem_sdiff.mpr ⟨List.mem_toFinset.mpr (AList.mem_keys.mp hfile), hpath⟩
  exact (Finset.mem_sdiff.mp (hsub hmem)).2 (Finset.mem_insert_self _ _)

theorem unloaded_mono {files : ConfigFiles} {loaded loaded' : Finset String}
    (h : loaded ⊆ loaded') :
    (unloaded files loaded').card ≤ (unloaded files loaded).card :=
  Finset.card_le_card (Finset.sdiff_subset_sdiff Finset.Subset.rfl h)

/-- One unit of fuel for every file that is not loaded yet, and one more, is enough. -/
theorem parseThermalConfig_isSome {files : ConfigFiles} {fuel : ℕ} {path : String}
    {loaded : Finset String} (h : (unloaded files loaded).card < fuel) :
    (parseThermalConfig files fuel path loaded).isSome := by
  induction fuel generalizing path loaded with
  | zero => exact absurd h (Nat.not_lt_zero _)
  | succ fuel ih =>
    have hincludes : ∀ (names : List String) (config : ThermalConfig) (loaded : Finset String),
        (unloaded files loaded).card < fuel →
        (parseIncludes (parseThermalConfig files fuel) names config loaded).isSome := by
      intro names
      induction names with
      | nil => exact fun _ _ _ ↦ rfl
      | cons name rest ihRest =>
        intro config loaded hfuel
        have hcall : (parseThermalConfig files fuel (subConfigsPath name) loaded).isSome := ih hfuel
        obtain ⟨outcome, houtcome⟩ := Option.isSome_iff_exists.mp hcall
        simp only [parseIncludes, houtcome]
        match outcome, houtcome with
        | .error _, _ => rfl
        | .ok (subConfig, loaded'), hcall =>
          obtain ⟨order, horder⟩ := parseThermalConfig_ok hcall
          refine ihRest _ _ (lt_of_le_of_lt (unloaded_mono ?_) hfuel)
          rw [horder.loaded]
          exact Finset.subset_union_left
    simp only [parseThermalConfig]
    split
    · rfl
    · rename_i hpath
      split
      · rfl
      · rename_i config hfile
        refine hincludes _ _ _ ?_
        have hlt := unloaded_insert_lt (UnorderedMap.mem_of_lookup hfile) hpath
        omega

end HardwareMediatek.Thermal
