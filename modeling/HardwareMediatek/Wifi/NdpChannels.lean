import HardwareMediatek.Wifi.NdpIndications

/-!
# Channels of data paths

A confirmation and a schedule update announce a number of channels beside the channels themselves, and the
array for them has a capacity. Nothing compares the number with the channels that are decoded, and channels
are looked for even where there are none.
-/

namespace HardwareMediatek.Wifi

open Foundation

section Properties

variable (sizes : NdpSizes) (tb_vendor : AttrTable)

/-- The number of channels is that of the entries decoded, and within the capacity. -/
def ChannelCount (num_channels : UInt32) (channel_info : List NanChannelInfo) : Prop :=
  num_channels.toNat = channel_info.length ∧ num_channels.toNat ≤ sizes.nanMaxChannelInfoSupported

/-- The other events have no channels. -/
def NdpCallback.ChannelsCounted : NdpCallback → Prop
  | .dataConfirm event => ChannelCount sizes event.num_channels event.channel_info
  | .scheduleUpdate event => ChannelCount sizes event.num_channels event.channel_info
  | _ => True

/-- An error without a callback, or a callback with as many channels as announced; and no null pointer. -/
def HandledConsistently (outcome : Except Fault (NdpHandled NdpCallback)) : Prop :=
  ∃ handled, outcome = .ok handled ∧
    (handled.res ≠ .success ∧ handled.callback = none ∨
      handled.res = .success ∧ ∃ callback, handled.callback = some callback ∧ callback.ChannelsCounted sizes)

/-- So is a confirmation handled, and a schedule update, with callbacks registered for them. -/
def ChannelsConsistent : Prop :=
  ∀ env : NdpEnv, env.eventDataConfirm = true → env.eventScheduleUpdate = true →
    HandledConsistently sizes (handleNdpIndication sizes env tb_vendor ndpConfirmInd) ∧
      HandledConsistently sizes (handleNdpIndication sizes env tb_vendor ndpScheduleUpdateInd)

/-- The number of channels that is announced. -/
def claimedNdpChannels : UInt32 :=
  match tb_vendor ndpAttrNumChannels with
  | some attr => nlaGetU32 attr
  | none => 0

/-- An entry with the three attributes of a channel. -/
def HasChannel (chInfo : Payload) : Prop :=
  (nlaParse ndpAttrParamsMax chInfo).Has [ndpAttrChannel, ndpAttrChannelWidth, ndpAttrNss]

/-- Channels that are announced are there, all of them, unless an entry is rejected; or they are too many and
there are none. -/
def ChannelsMatch : Prop :=
  claimedNdpChannels tb_vendor ≠ 0 →
    match tb_vendor ndpAttrChannelInfo with
    | none => sizes.nanMaxChannelInfoSupported < (claimedNdpChannels tb_vendor).toNat
    | some info =>
      (∀ chInfo ∈ channelEntries sizes info, HasChannel chInfo) →
        (claimedNdpChannels tb_vendor).toNat = (channelEntries sizes info).length

end Properties

section Settling

variable {sizes : NdpSizes} {env : NdpEnv} {tb_vendor : AttrTable}

/-- An entry is decoded if it has all its attributes, and rejected otherwise. -/
theorem ndpChannel_ok_or_error (chInfo : Payload) :
    (∃ channel, ndpChannel chInfo = .ok channel) ∨ ndpChannel chInfo = .error (.error .invalidArgs) := by
  unfold ndpChannel AttrTable.demand
  dsimp only
  cases nlaParse ndpAttrParamsMax chInfo ndpAttrChannel with
  | none => exact Or.inr rfl
  | some channel =>
    cases nlaParse ndpAttrParamsMax chInfo ndpAttrChannelWidth with
    | none => exact Or.inr rfl
    | some bandwidth =>
      cases nlaParse ndpAttrParamsMax chInfo ndpAttrNss with
      | none => exact Or.inr rfl
      | some nss => exact Or.inl ⟨_, rfl⟩

theorem exists_ndpChannel_iff (chInfo : Payload) :
    (∃ channel, ndpChannel chInfo = .ok channel) ↔ HasChannel chInfo := by
  unfold HasChannel
  simp only [AttrTable.has_cons]
  apply Iff.intro
  · rintro ⟨channel, hchannel⟩
    unfold ndpChannel at hchannel
    simp only [bind_eq_ok, AttrTable.demand_eq_ok_iff] at hchannel
    obtain ⟨first, hfirst, second, hsecond, third, hthird, _⟩ := hchannel
    exact ⟨⟨first, hfirst⟩, ⟨second, hsecond⟩, ⟨third, hthird⟩, fun _ hnil ↦ absurd hnil List.not_mem_nil⟩
  · rintro ⟨⟨first, hfirst⟩, ⟨second, hsecond⟩, ⟨third, hthird⟩, _⟩
    unfold ndpChannel
    dsimp only
    rw [AttrTable.demand_of_eq_some hfirst, AttrTable.demand_of_eq_some hsecond,
      AttrTable.demand_of_eq_some hthird]
    exact ⟨_, rfl⟩

theorem ndpNumChannels_eq : ndpNumChannels sizes tb_vendor =
    if sizes.nanMaxChannelInfoSupported < (claimedNdpChannels tb_vendor).toNat ∧
        tb_vendor ndpAttrChannelInfo = none then
      .error (.error .invalidArgs)
    else .ok (claimedNdpChannels tb_vendor) := by
  unfold ndpNumChannels claimedNdpChannels
  cases tb_vendor ndpAttrNumChannels with
  | none => exact (if_neg fun h ↦ absurd h.1 (Nat.not_lt_zero _)).symm
  | some attr => rfl

theorem length_channelEntries_le (info : Payload) :
    (channelEntries sizes info).length ≤ sizes.nanMaxChannelInfoSupported := by
  unfold channelEntries
  rw [List.length_map]
  exact List.length_take_le _ _

/-- Where an array of channels is there, its entries are counted. -/
theorem settles_ndpChannels_iff {num_channels : UInt32} (hsome : num_channels ≠ 0) :
    Settles (ndpChannels sizes tb_vendor num_channels) (ChannelCount sizes num_channels) (· ≠ .success) ↔
      ∃ info, tb_vendor ndpAttrChannelInfo = some info ∧
        ((∀ chInfo ∈ channelEntries sizes info, HasChannel chInfo) →
          num_channels.toNat = (channelEntries sizes info).length) := by
  unfold ndpChannels
  rw [if_pos hsome, settles_bind, settles_deref]
  apply exists_congr
  intro info
  apply and_congr_right
  intro _
  have hinvalid : WifiError.invalidArgs ≠ .success := by decide
  have hmapM := settles_mapM (· ≠ .success) ndpChannel_ok_or_error hinvalid (channelEntries sizes info)
    fun count ↦ num_channels.toNat = count ∧ num_channels.toNat ≤ sizes.nanMaxChannelInfoSupported
  apply hmapM.trans
  simp only [exists_ndpChannel_iff]
  apply imp_congr_right
  intro _
  rw [and_iff_left_iff_imp]
  intro heq
  rw [heq]
  exact length_channelEntries_le info

/-- The two steps for the channels. -/
theorem settles_channels_iff :
    Settles (ndpNumChannels sizes tb_vendor) (fun num_channels ↦
        Settles (ndpChannels sizes tb_vendor num_channels) (ChannelCount sizes num_channels) (· ≠ .success))
      (· ≠ .success) ↔ ChannelsMatch sizes tb_vendor := by
  unfold ChannelsMatch
  rw [ndpNumChannels_eq]
  by_cases hmissing : sizes.nanMaxChannelInfoSupported < (claimedNdpChannels tb_vendor).toNat ∧
      tb_vendor ndpAttrChannelInfo = none
  · rw [if_pos hmissing, hmissing.2]
    exact iff_of_true (show WifiError.invalidArgs ≠ .success by decide) fun _ ↦ hmissing.1
  · rw [if_neg hmissing, settles_ok]
    by_cases hzero : claimedNdpChannels tb_vendor = 0
    · rw [hzero]
      exact iff_of_true ⟨rfl, Nat.zero_le _⟩ fun hne ↦ absurd rfl hne
    · rw [settles_ndpChannels_iff hzero, forall_prop_of_true hzero]
      cases hinfo : tb_vendor ndpAttrChannelInfo with
      | none =>
        apply iff_of_false
        · rintro ⟨info, hsome, _⟩
          cases hsome
        · exact fun hmany ↦ hmissing ⟨hmany, hinfo⟩
      | some info => simp only [Option.some.injEq, exists_eq_left']

theorem settles_getNdpConfirm_iff :
    Settles (getNdpConfirm sizes tb_vendor)
        (fun event ↦ ChannelCount sizes event.num_channels event.channel_info) (· ≠ .success) ↔
      (tb_vendor.Has [ndpAttrInstanceId, ndpAttrNdiMacAddr, ndpAttrResponseCode] →
        tb_vendor.Has [ndpAttrDrvReturnValue] ∧ ChannelsMatch sizes tb_vendor) := by
  unfold getNdpConfirm
  rw [settles_require_bind (by decide)]
  apply imp_congr_right
  intro hhas
  obtain ⟨instanceId, hinstance⟩ := hhas.exists_eq_some ndpAttrInstanceId (by decide)
  obtain ⟨ndi, hndi⟩ := hhas.exists_eq_some ndpAttrNdiMacAddr (by decide)
  obtain ⟨rsp_code, hrsp⟩ := hhas.exists_eq_some ndpAttrResponseCode (by decide)
  simp only [AttrTable.deref_of_eq_some hinstance, AttrTable.deref_of_eq_some hndi,
    AttrTable.deref_of_eq_some hrsp, settles_bind, settles_ok, settles_pure]
  rw [← settles_channels_iff, settles_deref, AttrTable.has_singleton, exists_and_right]

theorem settles_scheduleUpdateInd_iff (hmalloc : env.malloc = true) :
    Settles (scheduleUpdateInd sizes env tb_vendor)
        (fun event ↦ ChannelCount sizes event.num_channels event.channel_info) (· ≠ .success) ↔
      (tb_vendor.Has [ndpAttrPeerDiscoveryMacAddr, ndpAttrScheduleUpdateReason, ndpAttrInstanceIdArray] →
        ChannelsMatch sizes tb_vendor) := by
  unfold scheduleUpdateInd getNdpScheduleUpdate
  rw [settles_require_bind (by decide)]
  apply imp_congr_right
  intro hhas
  obtain ⟨peer, hpeer⟩ := hhas.exists_eq_some ndpAttrPeerDiscoveryMacAddr (by decide)
  obtain ⟨reason, hreason⟩ := hhas.exists_eq_some ndpAttrScheduleUpdateReason (by decide)
  obtain ⟨ids, hids⟩ := hhas.exists_eq_some ndpAttrInstanceIdArray (by decide)
  simp only [AttrTable.deref_of_eq_some hpeer, AttrTable.deref_of_eq_some hreason,
    AttrTable.deref_of_eq_some hids, settles_bind, settles_ok, settles_pure, hmalloc, Bool.true_eq_false,
    if_false]
  rw [← settles_channels_iff]

/-- Without memory a schedule update is an error. -/
theorem settles_scheduleUpdateInd_of_malloc (hmalloc : env.malloc = false) :
    Settles (scheduleUpdateInd sizes env tb_vendor)
      (fun event ↦ ChannelCount sizes event.num_channels event.channel_info) (· ≠ .success) := by
  unfold scheduleUpdateInd
  rw [settles_require_bind (by decide)]
  intro hhas
  obtain ⟨ids, hids⟩ := hhas.exists_eq_some ndpAttrInstanceIdArray (by decide)
  simp only [AttrTable.deref_of_eq_some hids, settles_bind, settles_ok, hmalloc, if_true, settles_error]
  rw [ndpNumChannels_eq]
  split
  · exact show WifiError.invalidArgs ≠ .success by decide
  · exact show WifiError.outOfMemory ≠ .success by decide

theorem handledConsistently_deliver_iff {α : Type} {registered : Bool} (hregistered : registered = true)
    (callback : α → NdpCallback) (decoded : Decoder WifiError α) :
    HandledConsistently sizes (deliver registered callback decoded) ↔
      Settles decoded (fun event ↦ (callback event).ChannelsCounted sizes) (· ≠ .success) := by
  unfold HandledConsistently deliver
  rw [hregistered]
  cases decoded with
  | ok event => simp
  | error stop =>
    cases stop with
    | fault fault => simp [Settles]
    | error error => simp [Settles]

/-- Channels are consistent if and only if the return value comes with a confirmation, and each event with
what it requires has as many channels as it announces. -/
theorem channelsConsistent_iff (sizes : NdpSizes) (tb_vendor : AttrTable) :
    ChannelsConsistent sizes tb_vendor ↔
      (tb_vendor.Has [ndpAttrInstanceId, ndpAttrNdiMacAddr, ndpAttrResponseCode] →
        tb_vendor.Has [ndpAttrDrvReturnValue] ∧ ChannelsMatch sizes tb_vendor) ∧
      (tb_vendor.Has [ndpAttrPeerDiscoveryMacAddr, ndpAttrScheduleUpdateReason, ndpAttrInstanceIdArray] →
        ChannelsMatch sizes tb_vendor) := by
  have hconfirm : ∀ env : NdpEnv, env.eventDataConfirm = true →
      (HandledConsistently sizes (handleNdpIndication sizes env tb_vendor ndpConfirmInd) ↔ _) :=
    fun env hregistered ↦ (handledConsistently_deliver_iff hregistered NdpCallback.dataConfirm
      (getNdpConfirm sizes tb_vendor)).trans settles_getNdpConfirm_iff
  have hschedule : ∀ env : NdpEnv, env.eventScheduleUpdate = true →
      (HandledConsistently sizes (handleNdpIndication sizes env tb_vendor ndpScheduleUpdateInd) ↔
        Settles (scheduleUpdateInd sizes env tb_vendor)
          (fun event ↦ ChannelCount sizes event.num_channels event.channel_info) (· ≠ .success)) :=
    fun env hregistered ↦ handledConsistently_deliver_iff hregistered NdpCallback.scheduleUpdate
      (scheduleUpdateInd sizes env tb_vendor)
  apply Iff.intro
  · intro hconsistent
    have hready := hconsistent readyEnv rfl rfl
    exact ⟨(hconfirm readyEnv rfl).mp hready.1,
      (settles_scheduleUpdateInd_iff rfl).mp ((hschedule readyEnv rfl).mp hready.2)⟩
  · rintro ⟨hconfirmed, hscheduled⟩ env hdataConfirm hscheduleUpdate
    apply And.intro ((hconfirm env hdataConfirm).mpr hconfirmed)
    apply (hschedule env hscheduleUpdate).mpr
    cases hmalloc : env.malloc with
    | true => exact (settles_scheduleUpdateInd_iff hmalloc).mpr hscheduled
    | false => exact settles_scheduleUpdateInd_of_malloc hmalloc

/-- A schedule update that announces one channel and has none. -/
def oneChannelTable : AttrTable := fun type ↦
  if type = ndpAttrChannelInfo then none else some (payloadOf (le32 1))

theorem handle_oneChannelTable :
    handleNdpIndication ⟨4, 512⟩ readyEnv oneChannelTable ndpScheduleUpdateInd = .error .nullPointer := rfl

/-- The array that is not there is read. -/
theorem not_channelsConsistent : ¬ ChannelsConsistent ⟨4, 512⟩ oneChannelTable := by
  intro hconsistent
  obtain ⟨handled, hhandled, _⟩ := (hconsistent readyEnv rfl rfl).2
  rw [handle_oneChannelTable] at hhandled
  cases hhandled

end Settling

end HardwareMediatek.Wifi
