import HardwareMediatek.Foundation.EffectRuns
import HardwareMediatek.Thermal.Info

/-!
# Callbacks for changes of a temperature

A registration queues its initial notification, with the filter it was made with, and the looper
delivers it later. By then the callback may have been unregistered and registered again with another
filter; it is recognized by its interface only.
-/

namespace HardwareMediatek.Thermal

open Foundation

/-- A callback, by the interface it is compared with, and its filter. -/
structure CallbackSetting (κ : Type) where
  callback : κ
  isFilterType : Bool
  type : String

def CallbackSetting.accepts {κ : Type} (setting : CallbackSetting κ) (temperature : Temperature) : Bool :=
  !setting.isFilterType || temperature.type = setting.type

/-- A queued handler with what it has captured. The registrations are numbered. -/
structure LooperEvent (κ : Type) where
  setting : CallbackSetting κ
  registration : ℕ

/-- The registered callbacks, the queue of the looper, and the handler it has taken. -/
structure CallbackState (κ : Type) where
  callbacks : List (CallbackSetting κ)
  events : List (LooperEvent κ)
  running : Option (LooperEvent κ)
  registrations : ℕ

def noCallbacks (κ : Type) : CallbackState κ := ⟨[], [], none, 0⟩

/-- A call of an interface, or a part of a turn of the looper. -/
inductive CallbackStep (κ : Type) where
  | register (callback : Option κ) (filterType : Bool) (type : String) (isInitializedOk : Bool)
  | unregister (callback : Option κ)
  | send (temperature : Temperature) (isOk : κ → Bool)
  | loop
  | handle (temperatures : Option (List Temperature)) (isAlive : Bool)

/-- A temperature that a callback is notified of, or that the handler of a registration has run. -/
inductive CallbackEffect (κ : Type) where
  | delivered (callback : κ) (temperature : Temperature)
  | initial (registration : ℕ)

section Steps

variable {κ : Type} [DecidableEq κ]

def registerThermalChangedCallback (state : CallbackState κ) (callback : Option κ) (filterType : Bool)
    (type : String) (isInitializedOk : Bool) : CallbackState κ :=
  match callback with
  | none => state
  | some callback =>
    if !isInitializedOk || state.callbacks.any (fun c ↦ c.callback = callback) then state
    else
      let setting : CallbackSetting κ := ⟨callback, filterType, type⟩
      { state with
        callbacks := state.callbacks ++ [setting]
        events := state.events ++ [⟨setting, state.registrations⟩]
        registrations := state.registrations + 1 }

def unregisterThermalChangedCallback (state : CallbackState κ) (callback : Option κ) :
    CallbackState κ :=
  match callback with
  | none => state
  | some callback =>
    { state with callbacks := state.callbacks.filter fun c ↦ c.callback ≠ callback }

/-- A callback that does not answer is removed. -/
def sendThermalChangedCallback (state : CallbackState κ) (temperature : Temperature)
    (isOk : κ → Bool) : CallbackState κ × List (CallbackEffect κ) :=
  ({ state with
      callbacks := state.callbacks.filter fun c ↦ !c.accepts temperature || isOk c.callback },
    (state.callbacks.filter fun c ↦ c.accepts temperature).map fun c ↦
      .delivered c.callback temperature)

/-- The part of the handler under the lock, with the temperatures read before if there were any. -/
def runHandler (state : CallbackState κ) (event : LooperEvent κ)
    (temperatures : Option (List Temperature)) (isAlive : Bool) :
    CallbackState κ × List (CallbackEffect κ) :=
  match temperatures with
  | none => (state, [])
  | some temperatures =>
    if state.callbacks.any (fun c ↦ c.callback = event.setting.callback) then
      if isAlive then
        (state, (temperatures.filter fun t ↦ event.setting.accepts t).map fun t ↦
          .delivered event.setting.callback t)
      else
        ({ state with
            callbacks := state.callbacks.eraseP fun c ↦ c.callback = event.setting.callback }, [])
    else (state, [])

def callbackStep (state : CallbackState κ) :
    CallbackStep κ → Option (CallbackState κ × List (CallbackEffect κ))
  | .register callback filterType type isInitializedOk =>
      some (registerThermalChangedCallback state callback filterType type isInitializedOk, [])
  | .unregister callback => some (unregisterThermalChangedCallback state callback, [])
  | .send temperature isOk => some (sendThermalChangedCallback state temperature isOk)
  | .loop =>
      match state.running, state.events with
      | none, event :: events => some ({ state with running := some event, events := events }, [])
      | _, _ => none
  | .handle temperatures isAlive =>
      match state.running with
      | none => none
      | some event =>
          let handled := runHandler { state with running := none } event temperatures isAlive
          some (handled.1, .initial event.registration :: handled.2)

end Steps

/-! ## Registrations and their handlers -/

section Once

variable {κ : Type}

/-- The registrations whose handler has run. -/
def triggered (effects : List (CallbackEffect κ)) : List ℕ :=
  effects.filterMap fun effect ↦
    match effect with
    | .delivered _ _ => none
    | .initial registration => some registration

/-- The registrations whose handler is still to run. -/
def CallbackState.pending (state : CallbackState κ) : List ℕ :=
  (state.running.toList ++ state.events).map LooperEvent.registration

theorem triggered_append (left right : List (CallbackEffect κ)) :
    triggered (left ++ right) = triggered left ++ triggered right :=
  List.filterMap_append

theorem triggered_delivered {α : Type} (items : List α) (callback : α → κ)
    (temperature : α → Temperature) :
    triggered (items.map fun item ↦ .delivered (callback item) (temperature item)) = [] := by
  unfold triggered
  rw [List.filterMap_map, List.filterMap_eq_nil_iff]
  intro item _
  rfl

/-- An interface is registered once, and a handler runs once. -/
structure RegisteredOnce (state : CallbackState κ) (effects : List (CallbackEffect κ)) : Prop where
  callbacks : (state.callbacks.map CallbackSetting.callback).Nodup
  handlers : (triggered effects ++ state.pending).Nodup
  numbered : ∀ registration ∈ triggered effects ++ state.pending, registration < state.registrations

variable {state final : CallbackState κ} {effects new : List (CallbackEffect κ)}
  {next : CallbackStep κ}

/-- Callbacks may go, and a handler may run. -/
theorem RegisteredOnce.restrict (h : RegisteredOnce state effects)
    (hsublist : final.callbacks.Sublist state.callbacks)
    (hpending : triggered new ++ final.pending = state.pending)
    (hnumber : final.registrations = state.registrations) :
    RegisteredOnce final (effects ++ new) := by
  have hsame : triggered (effects ++ new) ++ final.pending = triggered effects ++ state.pending := by
    rw [triggered_append, List.append_assoc, hpending]
  apply RegisteredOnce.mk
  · exact h.callbacks.sublist (hsublist.map CallbackSetting.callback)
  · rw [hsame]
    exact h.handlers
  · rw [hsame, hnumber]
    exact h.numbered

variable [DecidableEq κ]

theorem RegisteredOnce.register (h : RegisteredOnce state effects) (callback : Option κ)
    (filterType : Bool) (type : String) (isInitializedOk : Bool) :
    RegisteredOnce
      (registerThermalChangedCallback state callback filterType type isInitializedOk) effects := by
  cases callback with
  | none => exact h
  | some callback =>
    unfold registerThermalChangedCallback
    dsimp only
    by_cases hrefused : (!isInitializedOk ||
        state.callbacks.any fun c ↦ c.callback = callback) = true
    · rw [if_pos hrefused]
      exact h
    · rw [if_neg hrefused]
      have hpending : ∀ (callbacks : List (CallbackSetting κ)) (setting : CallbackSetting κ),
          CallbackState.pending ⟨callbacks, state.events ++ [⟨setting, state.registrations⟩],
            state.running, state.registrations + 1⟩ = state.pending ++ [state.registrations] := by
        intro callbacks setting
        unfold CallbackState.pending
        rw [← List.append_assoc, List.map_append]
        rfl
      have hnew : state.registrations ∉ triggered effects ++ state.pending := by
        intro hin
        exact absurd (h.numbered _ hin) (lt_irrefl _)
      apply RegisteredOnce.mk
      · rw [List.map_append, List.map_singleton]
        apply List.Nodup.append h.callbacks (List.nodup_singleton _)
        intro interface hin hlast
        rw [List.mem_singleton.mp hlast] at hin
        obtain ⟨c, hc⟩ := List.mem_map.mp hin
        rw [Bool.or_eq_true, not_or] at hrefused
        apply hrefused.2
        rw [List.any_eq_true]
        exact ⟨c, hc.1, decide_eq_true hc.2⟩
      · rw [hpending, ← List.append_assoc]
        apply List.Nodup.append h.handlers (List.nodup_singleton _)
        intro registration hin hlast
        rw [List.mem_singleton.mp hlast] at hin
        exact hnew hin
      · intro registration hin
        rw [hpending, ← List.append_assoc] at hin
        rcases List.mem_append.mp hin with hearlier | hlast
        · exact (h.numbered registration hearlier).trans (Nat.lt_succ_self _)
        · rw [List.mem_singleton.mp hlast]
          exact Nat.lt_succ_self _

theorem runHandler_restricts (state : CallbackState κ) (event : LooperEvent κ)
    (temperatures : Option (List Temperature)) (isAlive : Bool) :
    (runHandler state event temperatures isAlive).1.callbacks.Sublist state.callbacks ∧
      triggered (runHandler state event temperatures isAlive).2 = [] ∧
      (runHandler state event temperatures isAlive).1.pending = state.pending ∧
      (runHandler state event temperatures isAlive).1.registrations = state.registrations := by
  unfold runHandler
  cases temperatures with
  | none => exact ⟨List.Sublist.refl _, rfl, rfl, rfl⟩
  | some temperatures =>
    dsimp only
    by_cases hregistered : (state.callbacks.any fun c ↦
        c.callback = event.setting.callback) = true
    · rw [if_pos hregistered]
      cases isAlive with
      | true =>
        exact ⟨List.Sublist.refl _,
          triggered_delivered _ (fun _ ↦ event.setting.callback) id, rfl, rfl⟩
      | false => exact ⟨List.eraseP_sublist, rfl, rfl, rfl⟩
    · rw [if_neg hregistered]
      exact ⟨List.Sublist.refl _, rfl, rfl, rfl⟩

/-- The looper takes the first event. -/
theorem callbackStep_loop (hstep : callbackStep state .loop = some (final, new)) :
    ∃ event events, state.running = none ∧ state.events = event :: events ∧
      final = { state with running := some event, events := events } ∧ new = [] := by
  unfold callbackStep at hstep
  cases hrunning : state.running with
  | some event =>
    rw [hrunning] at hstep
    cases hstep
  | none =>
    cases hevents : state.events with
    | nil =>
      rw [hrunning, hevents] at hstep
      cases hstep
    | cons event events =>
      rw [hrunning, hevents] at hstep
      have hresult := Prod.mk.inj (Option.some.inj hstep)
      exact ⟨event, events, rfl, rfl, hresult.1.symm, hresult.2.symm⟩

theorem RegisteredOnce.step (h : RegisteredOnce state effects)
    (hstep : callbackStep state next = some (final, new)) : RegisteredOnce final (effects ++ new) := by
  cases next with
  | register callback filterType type isInitializedOk =>
    have hresult := Prod.mk.inj (Option.some.inj hstep)
    rw [← hresult.1, ← hresult.2, List.append_nil]
    exact h.register callback filterType type isInitializedOk
  | unregister callback =>
    have hresult := Prod.mk.inj (Option.some.inj hstep)
    rw [← hresult.1, ← hresult.2]
    cases callback with
    | none => exact h.restrict (List.Sublist.refl _) rfl rfl
    | some callback => exact h.restrict List.filter_sublist rfl rfl
  | send temperature isOk =>
    have hresult := Prod.mk.inj (Option.some.inj hstep)
    rw [← hresult.1, ← hresult.2]
    apply h.restrict List.filter_sublist
    · rw [triggered_delivered _ _ fun _ ↦ temperature]
      rfl
    · rfl
  | loop =>
    obtain ⟨event, events, hevents⟩ := callbackStep_loop hstep
    rw [hevents.2.2.1, hevents.2.2.2]
    apply h.restrict
    · exact List.Sublist.refl _
    · unfold CallbackState.pending
      rw [hevents.1, hevents.2.1]
      rfl
    · rfl
  | handle temperatures isAlive =>
    unfold callbackStep at hstep
    cases hrunning : state.running with
    | none =>
      rw [hrunning] at hstep
      cases hstep
    | some event =>
      rw [hrunning] at hstep
      have hresult := Prod.mk.inj (Option.some.inj hstep)
      have hhandled := runHandler_restricts { state with running := none } event temperatures isAlive
      rw [← hresult.1, ← hresult.2]
      apply h.restrict hhandled.1
      · rw [hhandled.2.2.1]
        unfold CallbackState.pending
        rw [hrunning]
        exact congrArg (fun ids ↦ event.registration :: ids ++ _) hhandled.2.1
      · exact hhandled.2.2.2

end Once

/-! ## Deliveries -/

section Deliveries

variable {κ : Type} [DecidableEq κ] {state final : CallbackState κ}

/-- The step delivers only to registered callbacks, and what their filters accept. -/
def DeliversAccepted (state : CallbackState κ) (next : CallbackStep κ) : Prop :=
  ∀ final new, callbackStep state next = some (final, new) →
    ∀ callback temperature, .delivered callback temperature ∈ new →
      ∃ setting ∈ state.callbacks, setting.callback = callback ∧ setting.accepts temperature = true

/-- What passes the filter that a running handler has captured passes the filter with which its
callback is registered now. -/
def CapturedFits (state : CallbackState κ) (next : CallbackStep κ) : Prop :=
  match next with
  | .handle (some temperatures) true =>
      ∀ event, state.running = some event → ∀ setting ∈ state.callbacks,
        setting.callback = event.setting.callback →
          ∀ temperature ∈ temperatures, event.setting.accepts temperature = true →
            setting.accepts temperature = true
  | _ => True

theorem deliversAccepted_send (state : CallbackState κ) (temperature : Temperature) (isOk : κ → Bool) :
    DeliversAccepted state (.send temperature isOk) := by
  intro final new hstep callback temperature' hin
  rw [← (Prod.mk.inj (Option.some.inj hstep)).2] at hin
  obtain ⟨setting, hsetting⟩ := List.mem_map.mp hin
  have hsame := CallbackEffect.delivered.inj hsetting.2
  have hmem := List.mem_filter.mp hsetting.1
  rw [← hsame.2]
  exact ⟨setting, hmem.1, hsame.1, hmem.2⟩

theorem not_mem_runHandler {event : LooperEvent κ} {temperatures : Option (List Temperature)}
    {isAlive : Bool} (hnone : temperatures = none ∨ isAlive = false) :
    (runHandler state event temperatures isAlive).2 = [] := by
  unfold runHandler
  cases temperatures with
  | none => rfl
  | some temperatures =>
    rw [hnone.resolve_left nofun]
    dsimp only
    split <;> rfl

theorem deliversAccepted_handle_iff {event : LooperEvent κ} (hrunning : state.running = some event)
    {temperatures : Option (List Temperature)} {isAlive : Bool} :
    DeliversAccepted state (.handle temperatures isAlive) ↔
      ∀ callback temperature, .delivered callback temperature ∈
        (runHandler { state with running := none } event temperatures isAlive).2 →
          ∃ setting ∈ state.callbacks, setting.callback = callback ∧
            setting.accepts temperature = true := by
  unfold DeliversAccepted callbackStep
  rw [hrunning]
  apply Iff.intro
  · intro hall callback temperature hin
    exact hall _ _ rfl callback temperature (List.mem_cons_of_mem _ hin)
  · intro hall final new hstep callback temperature hin
    rw [← (Prod.mk.inj (Option.some.inj hstep)).2] at hin
    apply Or.elim (List.mem_cons.mp hin)
    · intro hsame
      cases hsame
    · exact hall callback temperature

/-- Only a handler can deliver what is not accepted. -/
theorem deliversAccepted_iff (hnodup : (state.callbacks.map CallbackSetting.callback).Nodup)
    (next : CallbackStep κ) : DeliversAccepted state next ↔ CapturedFits state next := by
  have hnothing : (∀ final new, callbackStep state next = some (final, new) →
      ∀ callback temperature, .delivered callback temperature ∉ new) → DeliversAccepted state next :=
    fun hnone final new hstep callback temperature hin ↦
      absurd hin (hnone final new hstep callback temperature)
  cases next with
  | register callback filterType type isInitializedOk =>
    apply iff_of_true _ trivial
    apply hnothing
    intro final new hstep callback temperature
    rw [← (Prod.mk.inj (Option.some.inj hstep)).2]
    exact List.not_mem_nil
  | unregister callback =>
    apply iff_of_true _ trivial
    apply hnothing
    intro final new hstep callback temperature
    rw [← (Prod.mk.inj (Option.some.inj hstep)).2]
    exact List.not_mem_nil
  | send temperature isOk => exact iff_of_true (deliversAccepted_send state temperature isOk) trivial
  | loop =>
    apply iff_of_true _ trivial
    apply hnothing
    intro final new hstep callback temperature
    obtain ⟨event, hevent⟩ := callbackStep_loop hstep
    obtain ⟨events, hevents⟩ := hevent
    rw [hevents.2.2.2]
    exact List.not_mem_nil
  | handle temperatures isAlive =>
    cases hrunning : state.running with
    | none =>
      apply iff_of_true
      · intro final new hstep
        unfold callbackStep at hstep
        rw [hrunning] at hstep
        cases hstep
      · unfold CapturedFits
        split
        · intro event hevent
          rw [hrunning] at hevent
          cases hevent
        · trivial
    | some event =>
      rw [deliversAccepted_handle_iff hrunning]
      cases temperatures with
      | none =>
        apply iff_of_true _ trivial
        intro callback temperature hin
        exact absurd hin List.not_mem_nil
      | some temperatures =>
        cases isAlive with
        | false =>
          apply iff_of_true _ trivial
          intro callback temperature hin
          rw [not_mem_runHandler (Or.inr rfl)] at hin
          exact absurd hin List.not_mem_nil
        | true =>
          unfold CapturedFits runHandler
          dsimp only
          by_cases hregistered : (state.callbacks.any fun c ↦
              c.callback = event.setting.callback) = true
          · rw [if_pos hregistered, if_pos rfl]
            apply Iff.intro
            · intro hall event' hevent setting hsetting hsame temperature hin haccepted
              rw [hrunning] at hevent
              rw [← Option.some.inj hevent] at hsame haccepted
              have hdelivered : CallbackEffect.delivered event.setting.callback temperature ∈
                  (temperatures.filter fun t ↦ event.setting.accepts t).map fun t ↦
                    CallbackEffect.delivered event.setting.callback t :=
                List.mem_map_of_mem (List.mem_filter.mpr ⟨hin, haccepted⟩)
              obtain ⟨setting', hsetting'⟩ := hall event.setting.callback temperature hdelivered
              have hone : setting' = setting := List.inj_on_of_nodup_map hnodup hsetting'.1 hsetting
                (hsetting'.2.1.trans hsame.symm)
              rw [← hone]
              exact hsetting'.2.2
            · intro hfits callback temperature hin
              obtain ⟨temperature', hdelivered⟩ := List.mem_map.mp hin
              have hsame := CallbackEffect.delivered.inj hdelivered.2
              have haccepted := List.mem_filter.mp hdelivered.1
              obtain ⟨setting, hsetting⟩ := List.any_eq_true.mp hregistered
              have hcallback := of_decide_eq_true hsetting.2
              rw [← hsame.1, ← hsame.2]
              exact ⟨setting, hsetting.1, hcallback, hfits event hrunning setting hsetting.1 hcallback
                temperature' haccepted.1 haccepted.2⟩
          · rw [if_neg hregistered]
            apply iff_of_true
            · intro callback temperature hin
              exact absurd hin List.not_mem_nil
            · intro event' hevent setting hsetting hsame
              rw [hrunning] at hevent
              rw [← Option.some.inj hevent] at hsame
              apply absurd _ hregistered
              rw [List.any_eq_true]
              exact ⟨setting, hsetting, decide_eq_true hsame⟩

/-- In every run each registration has its handler run at most once, and only registered callbacks are
notified of what their filters accept, if and only if every running handler fits the registration it
finds. -/
theorem callbacks_filtered_iff {steps : List (CallbackStep κ)} {effects : List (CallbackEffect κ)}
    (hrun : runSteps callbackStep (noCallbacks κ) steps = some (final, effects)) :
    (EachStep callbackStep DeliversAccepted (noCallbacks κ) steps ∧ (triggered effects).Nodup) ↔
      EachStep callbackStep CapturedFits (noCallbacks κ) steps := by
  have hinit : RegisteredOnce (noCallbacks κ) [] :=
    ⟨List.nodup_nil, List.nodup_nil, fun _ hin ↦ absurd hin List.not_mem_nil⟩
  have honce : RegisteredOnce final effects :=
    runSteps_keeps callbackStep (fun _ state effects ↦ RegisteredOnce state effects) hinit
      (fun _ _ _ _ _ _ h hstep ↦ h.step hstep) hrun
  have hiff : EachStep callbackStep DeliversAccepted (noCallbacks κ) steps ↔
      EachStep callbackStep CapturedFits (noCallbacks κ) steps :=
    eachStep_congr callbackStep (fun _ state effects ↦ RegisteredOnce state effects) hinit
      (fun _ _ _ _ _ _ h hstep ↦ h.step hstep)
      (fun _ _ _ next h ↦ deliversAccepted_iff h.callbacks next) steps
  rw [hiff]
  exact and_iff_left (List.Nodup.of_append_left honce.handlers)

end Deliveries

def skinTemperature : Temperature := ⟨"SKIN", "skin", .fin 30, .none⟩

/-- A callback is registered for one type, and again for another type before the first handler has
the lock. -/
def reregistered (type : String) : List (CallbackStep ℕ) :=
  [.register (some 1) true "SKIN" true, .loop, .unregister (some 1), .register (some 1) true type true]

/-- The handler of the first registration is running. -/
def reregisteredState (type : String) : CallbackState ℕ where
  callbacks := [⟨1, true, type⟩]
  events := [⟨⟨1, true, type⟩, 1⟩]
  running := some ⟨⟨1, true, "SKIN"⟩, 0⟩
  registrations := 2

theorem runSteps_reregistered (type : String) :
    runSteps callbackStep (noCallbacks ℕ) (reregistered type) = some (reregisteredState type, []) :=
  rfl

theorem capturedFits_reregistered :
    EachStep callbackStep CapturedFits (noCallbacks ℕ)
      (reregistered "SKIN" ++ [.handle (some [skinTemperature]) true]) := by
  rw [eachStep_concat]
  apply And.intro
  · intro before next after hlist state effects _
    have hin : next ∈ reregistered "SKIN" := by
      rw [hlist]
      exact List.mem_append_cons_self
    unfold reregistered at hin
    simp only [List.mem_cons, List.not_mem_nil, or_false] at hin
    rcases hin with rfl | rfl | rfl | rfl <;> trivial
  · intro state effects hrun event hevent setting hsetting _ temperature hin _
    have hstate := Option.some.inj (hrun.symm.trans (runSteps_reregistered "SKIN"))
    rw [(Prod.mk.inj hstate).1] at hsetting
    rw [List.mem_singleton.mp hsetting, List.mem_singleton.mp hin]
    decide

/-- Registered again for the same type, the callback is notified of what it asked for. -/
theorem callbacks_sameType :
    EachStep callbackStep DeliversAccepted (noCallbacks ℕ)
      (reregistered "SKIN" ++ [.handle (some [skinTemperature]) true]) := by
  have hrun : runSteps callbackStep (noCallbacks ℕ)
      (reregistered "SKIN" ++ [.handle (some [skinTemperature]) true]) =
        some ({ reregisteredState "SKIN" with running := none },
          [.initial 0, .delivered 1 skinTemperature]) := rfl
  exact ((callbacks_filtered_iff hrun).mpr capturedFits_reregistered).1

/-- Registered again for another type, it is notified of the first one. -/
theorem callbacks_otherType :
    ¬ ∀ (steps : List (CallbackStep ℕ)) (final : CallbackState ℕ) (effects : List (CallbackEffect ℕ)),
      runSteps callbackStep (noCallbacks ℕ) steps = some (final, effects) →
        EachStep callbackStep DeliversAccepted (noCallbacks ℕ) steps ∧ (triggered effects).Nodup := by
  intro hall
  have hrun : runSteps callbackStep (noCallbacks ℕ)
      (reregistered "CPU" ++ [.handle (some [skinTemperature]) true]) =
        some ({ reregisteredState "CPU" with running := none },
          [.initial 0, .delivered 1 skinTemperature]) := rfl
  have hdelivers := (hall _ _ _ hrun).1 (reregistered "CPU") _ [] rfl _ _
    (runSteps_reregistered "CPU") _ [.initial 0, .delivered 1 skinTemperature] rfl 1 skinTemperature
  obtain ⟨setting, hsetting⟩ := hdelivers (List.mem_cons_of_mem _ List.mem_cons_self)
  have haccepts := hsetting.2.2
  rw [List.mem_singleton.mp hsetting.1] at haccepts
  exact absurd haccepts (by decide)

end HardwareMediatek.Thermal
