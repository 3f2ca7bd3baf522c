import HardwareMediatek.Wifi.CommandLifetimes

/-!
# Cancelling what is left

`wifi_cleanup` cancels every command of the table. A command may take an entry out of the table while it is
cancelled, the first one with its id; where it takes none, the loop leaves its entry behind and goes on with
the next.
-/

namespace HardwareMediatek.Wifi

open Foundation

/-- A call of `wifi_cleanup` on a command. -/
inductive CommandCall where
  | cancel (p : ℕ)
  | releaseRef (p : ℕ)
  deriving DecidableEq, Repr

/-- The state of the loop, and the calls it has made. Commands in the table are not `NULL`. -/
structure Cleanup where
  info : HalInfo
  bad_commands : ℕ
  calls : List CommandCall

section Loop

variable (cancel : ℕ → HalInfo → HalInfo)

/-- One round of the loop. -/
def Cleanup.round (state : Cleanup) : Cleanup :=
  let p := (state.info.cmd.slots state.bad_commands).cmd
  let cancelled := cancel p state.info
  { info := cancelled.releaseRef p
    bad_commands :=
      if cancelled.cmd.count = state.info.cmd.count then state.bad_commands + 1 else state.bad_commands
    calls := state.calls ++ [.cancel p, .releaseRef p] }

/-- The loop, in at most `fuel` tests of its condition. -/
def cancelLoop : ℕ → Cleanup → Option Cleanup
  | 0, _ => none
  | fuel + 1, state =>
    if state.bad_commands < state.info.cmd.count then cancelLoop fuel (state.round cancel) else some state

/-- Cancelling a command takes the first entry with its id out of the table, or none. -/
structure CancelsOwn : Prop where
  cmd : ∀ p info, (cancel p info).cmd = info.cmd ∨
    (cancel p info).cmd = (info.wifiUnregisterCmd (info.command p).mId).2.cmd
  command : ∀ p info, (cancel p info).command = info.command

end Loop

/-- The calls on one command. -/
def cleanupCalls (p : ℕ) : List CommandCall := [.cancel p, .releaseRef p]

/-- The entries left behind are in front, and the others still in their order. -/
structure Cleanup.Progress (commands : List ℕ) (state : Cleanup) (kept rest : List CmdInfo) : Prop where
  items : state.info.cmd.items = kept ++ rest
  bad_commands : state.bad_commands = kept.length
  calls : ∃ processed, commands = processed ++ rest.map CmdInfo.cmd ∧
    state.calls = processed.flatMap cleanupCalls
  ids : ∀ entry ∈ state.info.cmd.items, (state.info.command entry.cmd).mId = entry.id

section Rounds

variable {cancel : ℕ → HalInfo → HalInfo} {commands : List ℕ} {state : Cleanup}
  {kept rest : List CmdInfo} {entry : CmdInfo}

theorem slots_of_items {β : Type} {array : SlotArray β} {before after : List β} {x : β}
    (hitems : array.items = before ++ x :: after) : array.slots before.length = x := by
  have hlt : before.length < array.items.length := by
    rw [hitems, List.length_append, List.length_cons]
    omega
  have hget : array.items[before.length] = x := by
    rw [List.getElem_of_eq hitems hlt, List.getElem_append_right (Nat.le_refl _)]
    simp
  simp only [SlotArray.items, List.getElem_map, List.getElem_range] at hget
  exact hget

/-- The entry that is taken out is that of the command itself or one that was left behind. -/
theorem unregister_progress {info : HalInfo} (hitems : info.cmd.items = kept ++ entry :: rest) :
    (info.wifiUnregisterCmd entry.id).2.cmd.count < info.cmd.count ∧
      ∃ kept', (info.wifiUnregisterCmd entry.id).2.cmd.items = kept' ++ rest ∧ kept'.length = kept.length := by
  have hcount : info.cmd.count = kept.length + (rest.length + 1) := by
    rw [← SlotArray.length_items, hitems, List.length_append, List.length_cons]
  unfold HalInfo.wifiUnregisterCmd
  cases hfind : info.cmd.find fun found ↦ found.id = entry.id with
  | none =>
    have hnone := (SlotArray.find_eq_none_iff _ _).mp hfind entry (by rw [hitems]; simp)
    exact absurd rfl (of_decide_eq_false hnone)
  | some i =>
    obtain ⟨before, after, hfound⟩ := SlotArray.foundAt_of_find _ hfind
    have hsplit := hfound.items.symm.trans hitems
    have hremoved : (info.cmd.removeAt i).items = before ++ after := hfound.removed
    apply And.intro
    · exact Nat.sub_one_lt (by omega)
    · rcases List.append_eq_append_iff.mp hsplit with ⟨behind, hkept, hafter⟩ | ⟨behind, hbefore, hrest⟩
      · cases behind with
        | nil =>
          rw [List.append_nil] at hkept
          rw [hremoved, (List.cons.inj hafter).2, hkept]
          exact ⟨before, rfl, rfl⟩
        | cons first behind =>
          rw [hremoved, (List.cons.inj hafter).2, hkept]
          exact ⟨before ++ behind ++ [entry], by simp, by simp⟩
      · cases behind with
        | nil =>
          rw [hremoved, (List.cons.inj hrest).2, hbefore]
          exact ⟨kept ++ [], rfl, by simp⟩
        | cons first behind =>
          have hnot := hfound.notBefore entry (by rw [hbefore, (List.cons.inj hrest).1]; simp)
          exact absurd rfl (of_decide_eq_false hnot)

theorem mem_of_mem_unregister {info : HalInfo} {id : ℤ} {found : CmdInfo}
    (hfound : found ∈ (info.wifiUnregisterCmd id).2.cmd.items) : found ∈ info.cmd.items := by
  unfold HalInfo.wifiUnregisterCmd at hfound
  split at hfound
  · rename_i i hfind
    obtain ⟨before, after, hat⟩ := SlotArray.foundAt_of_find _ hfind
    have hremoved : found ∈ before ++ after := by
      rw [← hat.removed]
      exact hfound
    rw [hat.items]
    rw [List.mem_append] at hremoved ⊢
    exact hremoved.imp_right (List.mem_cons_of_mem _)
  · exact hfound

/-- A round cancels and releases the first command that it has not yet come to. -/
theorem Cleanup.Progress.round (hcancel : CancelsOwn cancel)
    (hprogress : state.Progress commands kept (entry :: rest)) :
    ∃ kept', (state.round cancel).Progress commands kept' rest := by
  obtain ⟨processed, hcommands, hcalls⟩ := hprogress.calls
  have hitems := hprogress.items
  have hslot : state.info.cmd.slots state.bad_commands = entry := by
    rw [hprogress.bad_commands]
    exact slots_of_items hitems
  have hid : (state.info.command entry.cmd).mId = entry.id :=
    hprogress.ids entry (by rw [hitems]; simp)
  have hcommand : (state.round cancel).info.command = state.info.command := hcancel.command _ state.info
  have hcmd : (state.round cancel).info.cmd = (cancel entry.cmd state.info).cmd := by
    rw [← hslot]
    rfl
  have hmade : (state.round cancel).calls = (processed ++ [entry.cmd]).flatMap cleanupCalls := by
    rw [List.flatMap_append, ← hcalls, ← hslot]
    rfl
  have hsplit : commands = processed ++ [entry.cmd] ++ rest.map CmdInfo.cmd := by
    rw [hcommands, List.map_cons]
    simp
  have hbad : (state.round cancel).bad_commands =
      if (cancel entry.cmd state.info).cmd.count = state.info.cmd.count then state.bad_commands + 1
      else state.bad_commands := by
    rw [← hslot]
    rfl
  -- An entry afterwards is one of those before.
  have hids : ∀ {items : List CmdInfo}, (state.round cancel).info.cmd.items = items →
      (∀ found ∈ items, found ∈ state.info.cmd.items) → ∀ found ∈ (state.round cancel).info.cmd.items,
        ((state.round cancel).info.command found.cmd).mId = found.id := by
    intro items hafter hsub found hfound
    rw [hcommand]
    exact hprogress.ids found (hsub found (hafter ▸ hfound))
  rcases hcancel.cmd entry.cmd state.info with hkept | hremoved
  · have hafter : (state.round cancel).info.cmd.items = kept ++ [entry] ++ rest := by
      rw [hcmd, hkept, hitems]
      simp
    refine ⟨kept ++ [entry], hafter, ?_, ⟨_, hsplit, hmade⟩, hids hafter ?_⟩
    · rw [hbad, hkept, if_pos rfl, hprogress.bad_commands]
      simp
    · rw [hitems]
      simp
  · rw [hid] at hremoved
    obtain ⟨hfewer, kept', hitems', hlength⟩ := unregister_progress hitems
    have hafter : (state.round cancel).info.cmd.items = kept' ++ rest := by rw [hcmd, hremoved, hitems']
    refine ⟨kept', hafter, ?_, ⟨_, hsplit, hmade⟩, hids hafter ?_⟩
    · rw [hbad, hremoved, if_neg (Nat.ne_of_lt hfewer), hprogress.bad_commands, hlength]
    · intro found hfound
      rw [← hitems'] at hfound
      exact mem_of_mem_unregister hfound

/-- Enough tests of the condition get through the table. -/
theorem Cleanup.Progress.cancelLoop (hcancel : CancelsOwn cancel) (rest : List CmdInfo) {fuel : ℕ}
    (hfuel : rest.length < fuel) {state : Cleanup} {kept : List CmdInfo}
    (hprogress : state.Progress commands kept rest) :
    ∃ final, cancelLoop cancel fuel state = some final ∧ final.calls = commands.flatMap cleanupCalls := by
  have hcount : state.info.cmd.count = kept.length + rest.length := by
    rw [← SlotArray.length_items, hprogress.items, List.length_append]
  induction rest generalizing fuel state kept with
  | nil =>
    obtain ⟨processed, hcommands, hcalls⟩ := hprogress.calls
    obtain ⟨fuel, rfl⟩ := Nat.exists_eq_add_one_of_ne_zero (Nat.ne_of_gt hfuel)
    rw [List.map_nil, List.append_nil] at hcommands
    refine ⟨state, ?_, by rw [hcalls, hcommands]⟩
    unfold Wifi.cancelLoop
    rw [if_neg]
    rw [hprogress.bad_commands, hcount]
    exact Nat.lt_irrefl _
  | cons entry rest ih =>
    obtain ⟨kept', hround⟩ := hprogress.round hcancel
    obtain ⟨fuel, rfl⟩ := Nat.exists_eq_add_one_of_ne_zero (Nat.ne_of_gt (Nat.zero_lt_of_lt hfuel))
    have hmore : state.bad_commands < state.info.cmd.count := by
      rw [hprogress.bad_commands, hcount, List.length_cons]
      omega
    unfold Wifi.cancelLoop
    rw [if_pos hmore]
    apply ih (Nat.lt_of_succ_lt_succ hfuel) hround
    rw [← SlotArray.length_items, hround.items, List.length_append]

end Rounds

section Calls

/-- The calls on commands that differ: each is cancelled once and released once, in this order. -/
structure CancelledOnce (commands : List ℕ) (calls : List CommandCall) : Prop where
  cancel : ∀ p ∈ commands, calls.count (.cancel p) = 1
  releaseRef : ∀ p ∈ commands, calls.count (.releaseRef p) = 1
  only : ∀ p, .cancel p ∈ calls ∨ .releaseRef p ∈ calls → p ∈ commands
  ordered : ∀ p before after, calls = before ++ .releaseRef p :: after → .cancel p ∉ after

/-- A call that each command gets once is made as often as the command is there. -/
theorem count_flatMap_cleanupCalls {callOf : ℕ → CommandCall}
    (hcallOf : ∀ q p, (cleanupCalls q).count (callOf p) = if q = p then 1 else 0) (commands : List ℕ)
    (p : ℕ) : (commands.flatMap cleanupCalls).count (callOf p) = commands.count p := by
  induction commands with
  | nil => rfl
  | cons q commands ih =>
    rw [List.flatMap_cons, List.count_append, ih, List.count_cons, Nat.add_comm, hcallOf]
    simp only [beq_iff_eq]

theorem count_cancel_flatMap (commands : List ℕ) (p : ℕ) :
    (commands.flatMap cleanupCalls).count (.cancel p) = commands.count p := by
  apply count_flatMap_cleanupCalls
  intro q p
  simp [cleanupCalls, List.count_cons]

theorem count_releaseRef_flatMap (commands : List ℕ) (p : ℕ) :
    (commands.flatMap cleanupCalls).count (.releaseRef p) = commands.count p := by
  apply count_flatMap_cleanupCalls
  intro q p
  simp [cleanupCalls, List.count_cons]

theorem mem_of_mem_flatMap {commands : List ℕ} {p : ℕ}
    (hcall : .cancel p ∈ commands.flatMap cleanupCalls ∨ .releaseRef p ∈ commands.flatMap cleanupCalls) :
    p ∈ commands := by
  rw [← List.count_pos_iff, ← List.count_pos_iff, count_cancel_flatMap, count_releaseRef_flatMap,
    or_self, List.count_pos_iff] at hcall
  exact hcall

/-- What is called behind a release is about the commands behind. -/
theorem not_mem_of_releaseRef {commands : List ℕ} (hnodup : commands.Nodup) {p : ℕ}
    {before after : List CommandCall}
    (hcalls : commands.flatMap cleanupCalls = before ++ .releaseRef p :: after) : .cancel p ∉ after := by
  induction commands generalizing before with
  | nil => simp at hcalls
  | cons q commands ih =>
    rw [List.nodup_cons] at hnodup
    change .cancel q :: .releaseRef q :: commands.flatMap cleanupCalls = _ at hcalls
    cases before with
    | nil => cases hcalls
    | cons first before =>
      have htail := (List.cons.inj hcalls).2
      cases before with
      | nil =>
        have hsame := CommandCall.releaseRef.inj (List.cons.inj htail).1
        rw [← (List.cons.inj htail).2, ← hsame]
        exact fun hmem ↦ hnodup.1 (mem_of_mem_flatMap (Or.inl hmem))
      | cons second before => exact ih hnodup.2 (List.cons.inj htail).2

theorem cancelledOnce_flatMap {commands : List ℕ} (hnodup : commands.Nodup) :
    CancelledOnce commands (commands.flatMap cleanupCalls) where
  cancel p hp := by rw [count_cancel_flatMap, List.count_eq_one_of_mem hnodup hp]
  releaseRef p hp := by rw [count_releaseRef_flatMap, List.count_eq_one_of_mem hnodup hp]
  only p hcall := mem_of_mem_flatMap hcall
  ordered p before after hcalls := not_mem_of_releaseRef hnodup hcalls

theorem unregisterCmd_cmd_congr {info other : HalInfo} {id : ℤ} (hcmd : info.cmd = other.cmd) :
    (info.wifiUnregisterCmd id).2.cmd = (other.wifiUnregisterCmd id).2.cmd := by
  unfold HalInfo.wifiUnregisterCmd
  rw [hcmd]
  cases other.cmd.find fun entry ↦ entry.id = id with
  | none => exact hcmd
  | some i => rfl

/-- Commands of the HAL cancel in one of the two ways. -/
theorem cancelsOwn_cancel (built : ℕ → Bool) : CancelsOwn fun p info ↦ cancel info p (built p) where
  cmd p info := by
    unfold Wifi.cancel
    cases (info.command p).kind with
    | setRSSIMonitor iface handler => exact Or.inl rfl
    | rttRequest handler =>
      dsimp only
      split
      · exact Or.inl rfl
      · exact Or.inl rfl
    | setSubsystemRestartHandler handler =>
      apply Or.inr
      dsimp only
      exact unregisterCmd_cmd_congr rfl
  command p info := by
    unfold Wifi.cancel
    cases (info.command p).kind with
    | setRSSIMonitor iface handler => rfl
    | rttRequest handler =>
      dsimp only
      split
      · rfl
      · rfl
    | setSubsystemRestartHandler handler =>
      dsimp only
      unfold HalInfo.wifiUnregisterCmd
      split
      · rfl
      · rfl

theorem exists_cancelLoop {cancel : ℕ → HalInfo → HalInfo} (hcancel : CancelsOwn cancel) {info : HalInfo}
    (hids : ∀ entry ∈ info.cmd.items, (info.command entry.cmd).mId = entry.id) {fuel : ℕ}
    (hfuel : info.cmd.count < fuel) :
    ∃ final, cancelLoop cancel fuel ⟨info, 0, []⟩ = some final ∧
      final.calls = info.commands.flatMap cleanupCalls := by
  have hprogress : Cleanup.Progress info.commands ⟨info, 0, []⟩ [] info.cmd.items :=
    ⟨rfl, rfl, ⟨[], rfl, rfl⟩, hids⟩
  rw [← SlotArray.length_items] at hfuel
  exact hprogress.cancelLoop hcancel info.cmd.items hfuel

/-- With commands in the table under their own ids, the loop ends, and has cancelled and released the command
of each entry in the order of the table. -/
theorem cancelLoop_calls (cancel : ℕ → HalInfo → HalInfo) (hcancel : CancelsOwn cancel) (info : HalInfo)
    (hids : ∀ entry ∈ info.cmd.items, (info.command entry.cmd).mId = entry.id) (fuel : ℕ)
    (hfuel : info.cmd.count < fuel) :
    ∃ final, cancelLoop cancel fuel ⟨info, 0, []⟩ = some final ∧
      final.calls = info.commands.flatMap cleanupCalls ∧
      (info.commands.Nodup → CancelledOnce info.commands final.calls) := by
  obtain ⟨final, hfinal, hcalls⟩ := exists_cancelLoop hcancel hids hfuel
  refine ⟨final, hfinal, hcalls, fun hnodup ↦ ?_⟩
  rw [hcalls]
  exact cancelledOnce_flatMap hnodup

/-- A table with two commands under one id, the second of which takes an entry out of the table. -/
def twoCommands : HalInfo where
  event_cb := SlotArray.empty (fun _ ↦ ⟨0, 0, 0, 0, []⟩) defaultEventCbSize
  cmd := ((SlotArray.empty (fun _ ↦ ⟨0, 0⟩) defaultCmdSize).push ⟨0, 0⟩ (by decide)).push ⟨0, 1⟩ (by decide)
  command p := ⟨0, if p = 0 then .rttRequest 0 else .setSubsystemRestartHandler 0⟩
  mRefs _ := 1
  next := 2

theorem cancelLoop_twoCommands :
    ∃ final, cancelLoop (fun p info ↦ cancel info p true) 3 ⟨twoCommands, 0, []⟩ = some final ∧
      final.calls = [.cancel 0, .releaseRef 0, .cancel 1, .releaseRef 1] ∧
      CancelledOnce [0, 1] final.calls := by
  have hids : ∀ entry ∈ twoCommands.cmd.items, (twoCommands.command entry.cmd).mId = entry.id := by
    unfold twoCommands
    rw [SlotArray.items_push, SlotArray.items_push, SlotArray.items_empty]
    simp
  obtain ⟨final, hfinal, hcalls, honce⟩ :=
    cancelLoop_calls _ (cancelsOwn_cancel fun _ ↦ true) twoCommands hids 3 (by decide)
  exact ⟨final, hfinal, hcalls, honce (by decide)⟩

end Calls

end HardwareMediatek.Wifi
