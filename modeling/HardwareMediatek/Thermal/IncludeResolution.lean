import HardwareMediatek.Thermal.ParseConfig

/-!
# When the includes of a configuration resolve, and to what

Parsing ends for every set of files. It succeeds exactly when the files
reachable from the root unfold to a tree without repetition. Files that all
load and include each other without a cycle are therefore still refused when
one of them is reached along two ways. Where parsing succeeds, every name is
bound to the entry of the first file in pre-order.
-/

namespace HardwareMediatek.Thermal

open Relation

variable {files : ConfigFiles} {root : String}

/-- The call the HAL makes: no path is loaded yet. -/
def ParsesFrom (files : ConfigFiles) (root : String) : Prop :=
  ∃ fuel config loaded, parseThermalConfig files fuel root ∅ = some (.ok (config, loaded))

/-- Some recursion depth is enough for the call, whatever it returns. -/
def ParsingEnds (files : ConfigFiles) (root : String) : Prop :=
  ∀ fuel, files.entries.length < fuel → (parseThermalConfig files fuel root ∅).isSome

theorem card_unloaded_le (files : ConfigFiles) (loaded : Finset String) :
    (unloaded files loaded).card ≤ files.entries.length := by
  calc (unloaded files loaded).card
      ≤ files.keys.toFinset.card := Finset.card_le_card Finset.sdiff_subset
    _ ≤ files.keys.length := List.toFinset_card_le _
    _ = files.entries.length := by simp [AList.keys, List.keys]

theorem parsingEnds (files : ConfigFiles) (root : String) : ParsingEnds files root :=
  fun _ hfuel ↦ parseThermalConfig_isSome ((card_unloaded_le files ∅).trans_lt hfuel)

/-- The loop succeeds on a forest of new files. -/
theorem parseIncludes_of_preorder {fuel : ℕ}
    (hparse : ∀ {path : String} {loaded : Finset String} {order : List String},
      (unloaded files loaded).card < fuel → Preorder (includeGraph files) [path] order →
      order.Nodup → (∀ p ∈ order, p ∉ loaded) →
      ∃ config loaded', parseThermalConfig files fuel path loaded = some (.ok (config, loaded')))
    {names order : List String} {config : ThermalConfig} {loaded : Finset String}
    (hfuel : (unloaded files loaded).card < fuel)
    (hpre : Preorder (includeGraph files) (names.map subConfigsPath) order)
    (hnodup : order.Nodup) (hfresh : ∀ p ∈ order, p ∉ loaded) :
    ∃ config' loaded', parseIncludes (parseThermalConfig files fuel) names config loaded =
      some (.ok (config', loaded')) := by
  induction names generalizing order config loaded with
  | nil => exact ⟨config, loaded, rfl⟩
  | cons name rest ih =>
    rw [List.map_cons] at hpre
    cases hpre with
    | @cons _ named inside _ outside load below beside =>
      have htree : Preorder (includeGraph files) [subConfigsPath name]
          (subConfigsPath name :: inside) := by
        have hcons := Preorder.cons load below Preorder.nil
        rwa [List.append_nil] at hcons
      rw [← List.cons_append] at hnodup hfresh
      obtain ⟨hinside, houtside, hdisjoint⟩ := List.nodup_append'.mp hnodup
      obtain ⟨subConfig, loaded₁, hcall⟩ := hparse hfuel htree hinside fun p hp ↦
        hfresh p (List.mem_append_left _ hp)
      obtain ⟨order', hparsed⟩ := parseThermalConfig_ok hcall
      obtain rfl := htree.unique hparsed.preorder
      have hgrown : (unloaded files loaded₁).card < fuel := by
        refine lt_of_le_of_lt (unloaded_mono ?_) hfuel
        rw [hparsed.loaded]
        exact Finset.subset_union_left
      have hnew : ∀ p ∈ outside, p ∉ loaded₁ := by
        intro p hp hloaded
        rw [hparsed.loaded, Finset.mem_union, List.mem_toFinset] at hloaded
        exact hloaded.elim (hfresh p (List.mem_append_right _ hp)) fun hin ↦ hdisjoint hin hp
      simp only [parseIncludes, hcall]
      exact ih hgrown beside houtside hnew

theorem parseThermalConfig_of_preorder {fuel : ℕ} {path : String} {loaded : Finset String}
    {order : List String} (hfuel : (unloaded files loaded).card < fuel)
    (hpre : Preorder (includeGraph files) [path] order) (hnodup : order.Nodup)
    (hfresh : ∀ p ∈ order, p ∉ loaded) :
    ∃ config loaded', parseThermalConfig files fuel path loaded = some (.ok (config, loaded')) := by
  induction fuel generalizing path loaded order with
  | zero => exact absurd hfuel (Nat.not_lt_zero _)
  | succ fuel ih =>
    cases hpre with
    | @cons _ named inside _ outside load below beside =>
      cases beside
      rw [List.append_nil] at hnodup hfresh
      obtain ⟨file, hfile, rfl⟩ := Option.map_eq_some_iff.mp load
      have hpath : path ∉ loaded := hfresh path List.mem_cons_self
      have hlt : (unloaded files (insert path loaded)).card < fuel := by
        have := unloaded_insert_lt (UnorderedMap.mem_of_lookup hfile) hpath
        omega
      have hinside : ∀ p ∈ inside, p ∉ insert path loaded := by
        intro p hp hmem
        rcases Finset.mem_insert.mp hmem with rfl | hloaded
        · exact (List.nodup_cons.mp hnodup).1 hp
        · exact hfresh p (List.mem_cons_of_mem _ hp) hloaded
      simp only [parseThermalConfig, if_neg hpath, hfile]
      exact parseIncludes_of_preorder (fun hf hp hn hd ↦ ih hf hp hn hd) hlt below
        (List.nodup_cons.mp hnodup).2 hinside

/-- Parsing succeeds exactly on trees of files that list no file twice. -/
theorem parsesFrom_iff :
    ParsesFrom files root ↔
      ∃ order, Preorder (includeGraph files) [root] order ∧ order.Nodup := by
  constructor
  · rintro ⟨fuel, config, loaded, hcall⟩
    obtain ⟨order, hparsed⟩ := parseThermalConfig_ok hcall
    exact ⟨order, hparsed.preorder, hparsed.nodup⟩
  · rintro ⟨order, hpre, hnodup⟩
    have hfuel : (unloaded files ∅).card < files.entries.length + 1 :=
      Nat.lt_succ_of_le (card_unloaded_le files ∅)
    exact ⟨_, parseThermalConfig_of_preorder hfuel hpre hnodup (by simp)⟩

theorem finitelyReaching_includeGraph (h : AllLoad (includeGraph files) root) :
    FinitelyReaching (Names (includeGraph files)) root := by
  refine (List.finite_toSet files.keys).subset fun path hpath ↦ ?_
  obtain ⟨named, hnamed⟩ := Option.isSome_iff_exists.mp (h path hpath)
  obtain ⟨config, hconfig, -⟩ := Option.map_eq_some_iff.mp hnamed
  exact AList.mem_keys.mp (UnorderedMap.mem_of_lookup hconfig)

theorem parsesFrom_iff_namedOnce :
    ParsesFrom files root ↔
      AllLoad (includeGraph files) root ∧ AcyclicFrom (Names (includeGraph files)) root ∧
        NamedOnce (includeGraph files) root := by
  rw [parsesFrom_iff]
  constructor
  · rintro ⟨order, hpre, hnodup⟩
    exact ⟨hpre.allLoad, hpre.acyclicFrom, hpre.nodup_iff.mp hnodup⟩
  · rintro ⟨hload, hacyclic, honce⟩
    obtain ⟨order, hpre⟩ := exists_preorder hload hacyclic (finitelyReaching_includeGraph hload)
    exact ⟨order, hpre, hpre.nodup_iff.mpr honce⟩

/-- What include resolution is for: parsing ends, and refuses files that do not load and cycles,
and nothing else. -/
def ResolvesIncludes (files : ConfigFiles) (root : String) : Prop :=
  ParsingEnds files root ∧
    (ParsesFrom files root ↔
      AllLoad (includeGraph files) root ∧ AcyclicFrom (Names (includeGraph files)) root)

/-- Includes resolve as intended exactly when a root that loads without cycles names every file
once. -/
theorem resolvesIncludes_iff (files : ConfigFiles) (root : String) :
    ResolvesIncludes files root ↔
      (AllLoad (includeGraph files) root → AcyclicFrom (Names (includeGraph files)) root →
        NamedOnce (includeGraph files) root) := by
  have hends := parsingEnds files root
  unfold ResolvesIncludes
  rw [parsesFrom_iff_namedOnce]
  tauto

/-- Two included files with a common third one. -/
def sharedInclude : ConfigFiles :=
  let file (includes : List String) : ThermalConfig := ⟨includes, fun _ ↦ [], none⟩
  (((((∅ : ConfigFiles).insert "/vendor/etc/common.json" (file [])).insert
    "/vendor/etc/soc.json" (file ["common.json"])).insert
    "/vendor/etc/board.json" (file ["common.json"])).insert
    "/vendor/etc/thermal_info_config.json" (file ["soc.json", "board.json"]))

theorem sharedInclude_preorder :
    Preorder (includeGraph sharedInclude) ["/vendor/etc/thermal_info_config.json"]
      ["/vendor/etc/thermal_info_config.json", "/vendor/etc/soc.json", "/vendor/etc/common.json",
        "/vendor/etc/board.json", "/vendor/etc/common.json"] := by
  have hcommon : Preorder (includeGraph sharedInclude) ["/vendor/etc/common.json"]
      ["/vendor/etc/common.json"] :=
    Preorder.cons (show includeGraph sharedInclude _ = some [] by decide) Preorder.nil Preorder.nil
  have hboard : Preorder (includeGraph sharedInclude) ["/vendor/etc/board.json"]
      ["/vendor/etc/board.json", "/vendor/etc/common.json"] :=
    Preorder.cons (by decide) hcommon Preorder.nil
  have hsoc : Preorder (includeGraph sharedInclude) ["/vendor/etc/soc.json", "/vendor/etc/board.json"]
      ["/vendor/etc/soc.json", "/vendor/etc/common.json", "/vendor/etc/board.json",
        "/vendor/etc/common.json"] :=
    Preorder.cons (by decide) hcommon hboard
  exact Preorder.cons (by decide) hsoc Preorder.nil

/-- The shared file is reported as a circular dependency. -/
theorem not_resolvesIncludes_sharedInclude :
    ¬ ResolvesIncludes sharedInclude "/vendor/etc/thermal_info_config.json" ∧
      parseThermalConfig sharedInclude 5 "/vendor/etc/thermal_info_config.json" ∅ =
        some (.error (.circularDependency "/vendor/etc/common.json")) := by
  constructor
  · intro h
    have hpre := sharedInclude_preorder
    obtain ⟨order, hpre', hnodup⟩ :=
      parsesFrom_iff.mp (h.2.mpr ⟨hpre.allLoad, hpre.acyclicFrom⟩)
    obtain rfl := hpre.unique hpre'
    exact absurd hnodup (by decide)
  · rfl

/-! ## Precedence -/

/-- Files that unfold to a tree without repetition, each with unique names, are merged so that
every name is bound to its first entry in pre-order, behind the entries of the root. -/
theorem parseThermalConfig_precedence {order : List String}
    (hpre : Preorder (includeGraph files) [root] order) (hnodup : order.Nodup)
    (hunique : ∀ path ∈ order, ∀ member,
      ((fileEntries files member path).map ConfigEntry.name).Nodup)
    {fuel : ℕ} (hfuel : files.entries.length < fuel) :
    ∃ config loaded, parseThermalConfig files fuel root ∅ = some (.ok (config, loaded)) ∧
      ∀ member,
        ((config.entries member).map ConfigEntry.name).Nodup ∧
        (∀ name, name ∈ (config.entries member).map ConfigEntry.name ↔
          ∃ path ∈ order, name ∈ (fileEntries files member path).map ConfigEntry.name) ∧
        (∀ name, findKey ConfigEntry.name name (config.entries member) =
          order.findSome? fun path ↦
            findKey ConfigEntry.name name (fileEntries files member path)) ∧
        fileEntries files member root <+: config.entries member := by
  obtain ⟨config, loaded, hcall⟩ := parseThermalConfig_of_preorder
    ((card_unloaded_le files ∅).trans_lt hfuel) hpre hnodup (by simp)
  obtain ⟨order', hparsed⟩ := parseThermalConfig_ok hcall
  obtain rfl := hpre.unique hparsed.preorder
  refine ⟨config, loaded, hcall, fun member ↦ ?_⟩
  have hunion := hparsed.merged member fun path hpath ↦ hunique path hpath member
  refine ⟨hunion.nodup, fun name ↦ ?_, fun name ↦ ?_, hparsed.rootFirst member⟩
  · rw [hunion.mem_iff]
    simp
  · rw [hunion.find, List.findSome?_map]
    rfl

/-- A root that overrides one sensor of the file it includes. -/
def overridingRoot : ConfigFiles :=
  let file (includes names : List String) : ThermalConfig :=
    ⟨includes, fun _ ↦ names.map fun name ↦ ⟨name, Json.null⟩, none⟩
  ((∅ : ConfigFiles).insert "/vendor/etc/base.json" (file [] ["soc", "skin"])).insert
    "/vendor/etc/thermal_info_config.json" (file ["base.json"] ["battery", "soc"])

theorem overridingRoot_preorder :
    Preorder (includeGraph overridingRoot) ["/vendor/etc/thermal_info_config.json"]
      ["/vendor/etc/thermal_info_config.json", "/vendor/etc/base.json"] :=
  Preorder.cons (show includeGraph overridingRoot _ = some ["/vendor/etc/base.json"] by decide)
    (Preorder.cons (show includeGraph overridingRoot _ = some [] by decide)
      Preorder.nil Preorder.nil) Preorder.nil

theorem overridingRoot_precedence :
    ∃ config loaded,
      parseThermalConfig overridingRoot 3 "/vendor/etc/thermal_info_config.json" ∅ =
        some (.ok (config, loaded)) ∧
      ∀ member,
        ((config.entries member).map ConfigEntry.name).Nodup ∧
        (∀ name, name ∈ (config.entries member).map ConfigEntry.name ↔
          ∃ path ∈ ["/vendor/etc/thermal_info_config.json", "/vendor/etc/base.json"],
            name ∈ (fileEntries overridingRoot member path).map ConfigEntry.name) ∧
        (∀ name, findKey ConfigEntry.name name (config.entries member) =
          ["/vendor/etc/thermal_info_config.json", "/vendor/etc/base.json"].findSome? fun path ↦
            findKey ConfigEntry.name name (fileEntries overridingRoot member path)) ∧
        fileEntries overridingRoot member "/vendor/etc/thermal_info_config.json" <+:
          config.entries member :=
  parseThermalConfig_precedence overridingRoot_preorder (by decide)
    (fun path hpath member ↦ by
      fin_cases hpath <;> cases member <;> decide) (by decide)

end HardwareMediatek.Thermal
