import HardwareMediatek.Thermal.Acceptance

/-!
# The watched sensors

Trigger sensors and severity references of a watched virtual sensor should be watched, too. The
constructor marks them in the pass that asks which sensors are watched, so the trigger sensors of a
virtual sensor that is marked after its visit are left out, and the marks depend on the order of the
map. The marks are right exactly when those sensors that are watched in every order are closed under
trigger sensors; then they are the only ones.
-/

namespace HardwareMediatek.Thermal

open UnorderedMap Foundation

/-- The trigger sensors and severity references of watched virtual sensors are watched. -/
def WatchClosed (infoOf : String → Option SensorInfo) : Prop :=
  ∀ name ∈ watchedBy infoOf,
    triggersOf infoOf name ⊆ watchedBy infoOf ∧ referencesOf infoOf name ⊆ watchedBy infoOf

/-- In every order that is accepted the watched sensors are closed, and they are the same. -/
def WatchedSetSettled (input : ConstructorInput) : Prop :=
  ∀ sensorInfoMap : SensorInfoMap, sensorInfoMap.entries.Perm input.sensorInfoMap.entries →
    ∀ helper, Constructs (input.reordered sensorInfoMap) helper →
      WatchClosed helper.sensorInfoMap.lookup ∧
      ∀ sensorInfoMap' : SensorInfoMap, sensorInfoMap'.entries.Perm input.sensorInfoMap.entries →
        ∀ helper', Constructs (input.reordered sensorInfoMap') helper' →
          watchedBy helper.sensorInfoMap.lookup = watchedBy helper'.sensorInfoMap.lookup

/-- The sensors that are watched in every order: those that are watched anyway, the severity references
of virtual sensors, and the trigger sensors of virtual sensors that cannot all be visited, together
with those that lack a trigger sensor, before they are watched. -/
def certainlyWatched (sensorInfoMap : SensorInfoMap) : Set String :=
  certainMarks (watchedBy sensorInfoMap.lookup) (triggersOf sensorInfoMap.lookup)
    (referencesOf sensorInfoMap.lookup) sensorInfoMap.keys (lackingTrigger sensorInfoMap.lookup)

open Classical in
theorem exists_perm_of_perm_map {α β : Type} (f : α → β) {images : List β} {list : List α}
    (hperm : images.Perm (list.map f)) : ∃ other : List α, other.Perm list ∧ other.map f = images := by
  induction images generalizing list with
  | nil =>
    have hempty : list.map f = [] := hperm.symm.eq_nil
    exact ⟨[], List.map_eq_nil_iff.mp hempty ▸ List.Perm.refl _, rfl⟩
  | cons image images ih =>
    have himage : image ∈ list.map f := hperm.mem_iff.mp List.mem_cons_self
    rcases List.mem_map.mp himage with ⟨x, hx, hfx⟩
    have hsplit := List.perm_cons_erase hx
    have hrest : images.Perm ((list.erase x).map f) := by
      have hboth := hperm.trans (hsplit.map f)
      rw [List.map_cons, hfx] at hboth
      exact (List.perm_cons image).mp hboth
    rcases ih hrest with ⟨other, hother, hmap⟩
    exact ⟨x :: other, (hother.cons x).trans hsplit.symm, by rw [List.map_cons, hfx, hmap]⟩

/-- The map has its entries in any order of its keys. -/
theorem exists_reordered (sensorInfoMap : SensorInfoMap) {order : List String}
    (hperm : order.Perm sensorInfoMap.keys) :
    ∃ other : SensorInfoMap, other.keys = order ∧
      other.entries.Perm sensorInfoMap.entries := by
  rcases exists_perm_of_perm_map Sigma.fst hperm with ⟨entries, hentries, hkeys⟩
  have hnodup : entries.NodupKeys := by
    unfold List.NodupKeys List.keys
    rw [hkeys]
    exact hperm.nodup_iff.mpr sensorInfoMap.keys_nodup
  exact ⟨⟨entries, hnodup⟩, hkeys, hentries⟩

section Orders

variable {input : ConstructorInput} {sensorInfoMap : SensorInfoMap}

theorem lookup_of_perm (hperm : sensorInfoMap.entries.Perm input.sensorInfoMap.entries)
    (name : String) : sensorInfoMap.lookup name = input.sensorInfoMap.lookup name :=
  AList.perm_lookup hperm

theorem mem_keys_of_triggers {name sensor : String}
    (hsensor : sensor ∈ triggersOf input.sensorInfoMap.lookup name) :
    name ∈ input.sensorInfoMap.keys := by
  rcases hsensor with ⟨info, _, hinfo, -, -⟩
  exact AList.mem_keys.mpr (mem_of_lookup hinfo)

/-- Which orders are accepted. -/
theorem constructs_reordered_iff (hdisabled : input.thermalThrottlingDisabled = false)
    (hsound : SoundInput input) (hperm : sensorInfoMap.entries.Perm input.sensorInfoMap.entries) :
    (∃ helper, Constructs (input.reordered sensorInfoMap) helper) ↔
      Accepts (watchedBy input.sensorInfoMap.lookup) (triggersOf input.sensorInfoMap.lookup)
        (referencesOf input.sensorInfoMap.lookup) input.sensorInfoMap.keys
        (lackingTrigger input.sensorInfoMap.lookup) sensorInfoMap.keys := by
  have hlookup : (fun name ↦ sensorInfoMap.lookup name) = fun name ↦ input.sensorInfoMap.lookup name :=
    funext (lookup_of_perm hperm)
  have hinput := constructs_iff (input.reordered sensorInfoMap) hdisabled
  rw [soundInput_reordered (lookup_of_perm hperm), and_iff_right hsound] at hinput
  rw [hinput]
  dsimp only [ConstructorInput.reordered]
  rw [hlookup]
  apply Iff.intro
  · exact fun hquiet ↦ ⟨keys_perm hperm, fun name _ ↦ hquiet name⟩
  · rintro ⟨-, hquiet⟩ name hlacks
    rcases hlacks with ⟨sensor, hsensor, hmissing⟩
    exact hquiet name (mem_keys_of_triggers hsensor) ⟨sensor, hsensor, hmissing⟩

/-- What is watched after the construction. -/
theorem Constructs.watched_eq {helper : Construction}
    (hdisabled : input.thermalThrottlingDisabled = false)
    (hperm : sensorInfoMap.entries.Perm input.sensorInfoMap.entries)
    (h : Constructs (input.reordered sensorInfoMap) helper) :
    SameSettings input.sensorInfoMap.lookup helper.sensorInfoMap.lookup ∧
    watchedBy helper.sensorInfoMap.lookup =
      markPass (watchedBy input.sensorInfoMap.lookup) (triggersOf input.sensorInfoMap.lookup)
        (referencesOf input.sensorInfoMap.lookup) sensorInfoMap.keys := by
  have hlookup : (fun name ↦ sensorInfoMap.lookup name) = fun name ↦ input.sensorInfoMap.lookup name :=
    funext (lookup_of_perm hperm)
  rcases h.visited hdisabled with ⟨devices, files, -, -, hvisited⟩
  have hsettings := hvisited.settings
  have hwatched := hvisited.watched
  dsimp only [ConstructorInput.reordered] at hsettings hwatched
  rw [hlookup] at hsettings hwatched
  exact ⟨hsettings, hwatched⟩

theorem Constructs.sound {helper : Construction}
    (hdisabled : input.thermalThrottlingDisabled = false)
    (hperm : sensorInfoMap.entries.Perm input.sensorInfoMap.entries)
    (h : Constructs (input.reordered sensorInfoMap) helper) : SoundInput input := by
  have hsound := ((constructs_iff (input.reordered sensorInfoMap) hdisabled).mp ⟨helper, h⟩).1
  rwa [soundInput_reordered (lookup_of_perm hperm)] at hsound

end Orders

/-- Without a check that fails in every order, the watched sensors are settled if and only if throttling
is disabled or those that are watched in every order are closed under trigger sensors. -/
theorem watchedSetSettled_iff (input : ConstructorInput) :
    WatchedSetSettled input ↔ input.thermalThrottlingDisabled = true ∨ ¬ SoundInput input ∨
      ∀ name ∈ input.sensorInfoMap.keys, name ∈ certainlyWatched input.sensorInfoMap →
        triggersOf input.sensorInfoMap.lookup name ⊆ certainlyWatched input.sensorInfoMap := by
  cases hdisabled : input.thermalThrottlingDisabled with
  | true =>
    apply iff_of_true _ (Or.inl rfl)
    intro sensorInfoMap _ helper h
    have hnone := h.unwatched hdisabled
    apply And.intro
    · intro name hname
      rw [hnone] at hname
      exact absurd hname (Set.notMem_empty name)
    · intro sensorInfoMap' _ helper' h'
      rw [hnone, h'.unwatched hdisabled]
  | false =>
    by_cases hsound : SoundInput input
    · rw [or_iff_right Bool.false_ne_true, or_iff_right (not_not.mpr hsound)]
      unfold certainlyWatched
      rw [← markPass_closed_iff input.sensorInfoMap.keys_nodup]
      apply Iff.intro
      · intro hsettled order haccepts
        rcases exists_reordered input.sensorInfoMap haccepts.1 with ⟨sensorInfoMap, rfl, hperm⟩
        rcases (constructs_reordered_iff hdisabled hsound hperm).mpr haccepts with ⟨helper, h⟩
        have hmarks := h.watched_eq hdisabled hperm
        have hwatched := hsettled sensorInfoMap hperm helper h
        apply And.intro
        · intro name _ hname
          have hclosed := (hwatched.1 name (hmarks.2 ▸ hname)).1
          rwa [hmarks.1.triggersOf_eq, hmarks.2] at hclosed
        · intro other hother
          rcases exists_reordered input.sensorInfoMap hother.1 with ⟨sensorInfoMap', rfl, hperm'⟩
          rcases (constructs_reordered_iff hdisabled hsound hperm').mpr hother with ⟨helper', h'⟩
          have hsame := hwatched.2 sensorInfoMap' hperm' helper' h'
          rwa [hmarks.2, (h'.watched_eq hdisabled hperm').2] at hsame
      · intro hclosed sensorInfoMap hperm helper h
        have haccepts := (constructs_reordered_iff hdisabled hsound hperm).mp ⟨helper, h⟩
        have hmarks := h.watched_eq hdisabled hperm
        have hwatched := hclosed sensorInfoMap.keys haccepts
        apply And.intro
        · intro name hname
          rw [hmarks.1.triggersOf_eq, hmarks.1.referencesOf_eq, hmarks.2] at *
          apply And.intro
          · exact fun sensor hsensor ↦ hwatched.1 name (mem_keys_of_triggers hsensor) hname hsensor
          · intro sensor hsensor
            apply mem_markPass_of_base
            rcases hsensor with ⟨info, virtualInfo, hinfo, hvirtual, hsensor⟩
            exact Or.inr ⟨name, haccepts.1.mem_iff.mpr (AList.mem_keys.mpr (mem_of_lookup hinfo)),
              info, virtualInfo, hinfo, hvirtual, hsensor⟩
        · intro sensorInfoMap' hperm' helper' h'
          have haccepts' := (constructs_reordered_iff hdisabled hsound hperm').mp ⟨helper', h'⟩
          rw [hmarks.2, (h'.watched_eq hdisabled hperm').2]
          exact hwatched.2 sensorInfoMap'.keys haccepts'
    · apply iff_of_true _ (Or.inr (Or.inl hsound))
      intro sensorInfoMap hperm helper h
      exact absurd (h.sound hdisabled hperm) hsound

/-! ## A sensor that is marked after its visit -/

/-- The temperature of `battery` under another name. -/
def batterySensor (triggerSensors severityReference : List String) (sendCb : Bool) : SensorInfo :=
  { (default : SensorInfo) with
    severityReference := severityReference
    sendCb := sendCb
    isWatch := sendCb
    virtualSensorInfo := some
      ⟨["battery"], [.sensor], ["1"], [.constant], 0, triggerSensors, .weightedAvg, "", ""⟩ }

/-- The severity of `shell`, which is reported, refers to `skin`, which is visited first and has the
trigger sensor `battery`. -/
def skinAndShell : ConstructorInput where
  sensorInfoMap := (((∅ : SensorInfoMap).insert "battery" default).insert "shell"
    (batterySensor [] ["skin"] true)).insert "skin" (batterySensor ["battery"] [] false)
  coolingDeviceInfoMap := ∅
  sysfs := ⟨fun _ ↦ none, ∅, ∅⟩
  powerRailInfoMap := ∅
  energyInfoMap := ∅
  powerRailSwitchMap := ∅
  predictionCounts := fun _ ↦ none
  thermalThrottlingDisabled := false
  prepared := true

/-- Then `skin` is watched, and its trigger sensor is not. -/
theorem skinAndShell_not_settled : ¬ WatchedSetSettled skinAndShell := by
  intro hsettled
  have hconstructs : ∃ helper, Constructs skinAndShell helper ∧
      (helper.sensorInfoMap.lookup "skin").map SensorInfo.isWatch = some true ∧
      (helper.sensorInfoMap.lookup "battery").map SensorInfo.isWatch = some false ∧
      ((helper.sensorInfoMap.lookup "skin").bind SensorInfo.virtualSensorInfo).map
        VirtualSensorInfo.triggerSensors = some ["battery"] :=
    ⟨_, rfl, rfl, rfl, rfl⟩
  rcases hconstructs with ⟨helper, h, hskin, hbattery, htriggers⟩
  have hclosed := (hsettled skinAndShell.sensorInfoMap (List.Perm.refl _) helper h).1
  rcases Option.map_eq_some_iff.mp hskin with ⟨skin, hlookup, hwatch⟩
  rw [hlookup] at htriggers
  rcases Option.map_eq_some_iff.mp htriggers with ⟨virtualInfo, hvirtual, hsensors⟩
  have htrigger : "battery" ∈ triggersOf helper.sensorInfoMap.lookup "skin" :=
    ⟨skin, virtualInfo, hlookup, hvirtual, hsensors ▸ List.mem_singleton_self _⟩
  rcases (hclosed "skin" ⟨skin, hlookup, hwatch⟩).1 htrigger with ⟨battery, hbattery', hwatched⟩
  dsimp only at hbattery'
  rw [hbattery', Option.map_some, hwatched] at hbattery
  exact absurd hbattery (by simp)

end HardwareMediatek.Thermal
