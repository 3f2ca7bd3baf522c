import HardwareMediatek.Foundation.AttrTable
import HardwareMediatek.Wifi.NanErrors
import HardwareMediatek.Wifi.NdpRequests
import Mathlib.Data.List.TakeDrop

/-!
# Indications of data paths

`handleNdpIndication` decodes the attributes of a vendor event for one of four callbacks, and
`handleNdpResponse` for that of a response. The instance of a data path is read in each of them, in a
confirmation with half of its bits, and the number of instances of an array is cut to eight bits.
-/

namespace HardwareMediatek.Wifi

open Foundation

section Attributes

def ndpAttrTransactionId : ℕ := 2
def ndpAttrServiceInstanceId : ℕ := 3
def ndpAttrChannel : ℕ := 4
def ndpAttrPeerDiscoveryMacAddr : ℕ := 5
def ndpAttrAppInfo : ℕ := 9
def ndpAttrInstanceId : ℕ := 10
def ndpAttrInstanceIdArray : ℕ := 11
def ndpAttrResponseCode : ℕ := 12
def ndpAttrNdiMacAddr : ℕ := 13
def ndpAttrDrvResponseStatusType : ℕ := 14
def ndpAttrDrvReturnValue : ℕ := 15
def ndpAttrScheduleUpdateReason : ℕ := 22
def ndpAttrNss : ℕ := 23
def ndpAttrNumChannels : ℕ := 24
def ndpAttrChannelWidth : ℕ := 25
def ndpAttrChannelInfo : ℕ := 26
def ndpAttrParamsMax : ℕ := 29

def ndpRequestInd : UInt32 := 9
def ndpConfirmInd : UInt32 := 10
def ndpEndInd : UInt32 := 11
def ndpScheduleUpdateInd : UInt32 := 12

end Attributes

section Events

/-- Sizes of arrays that the framework headers give. -/
structure NdpSizes where
  nanMaxChannelInfoSupported : ℕ
  ndp_app_info : ℕ

/-- The callbacks that are registered, and what `malloc` gives. -/
structure NdpEnv where
  notifyResponse : Bool
  eventDataRequest : Bool
  eventDataConfirm : Bool
  eventDataEnd : Bool
  eventScheduleUpdate : Bool
  malloc : Bool
  /-- what memory holds that was allocated and not yet written -/
  heap : Bytes

structure NanChannelInfo where
  channel : UInt32
  bandwidth : UInt32
  nss : UInt32
  deriving DecidableEq, Repr

structure NanDataPathRequestInd where
  service_instance_id : UInt16
  peer_disc_mac_addr : Bytes
  ndp_instance_id : UInt32
  app_info : NanDataPathAppInfo

/-- Of the channels those that were decoded. -/
structure NanDataPathConfirmInd where
  ndp_instance_id : UInt32
  peer_ndi_mac_addr : Bytes
  app_info : NanDataPathAppInfo
  rsp_code : UInt32
  reason_code : UInt32
  num_channels : UInt32
  channel_info : List NanChannelInfo

structure NanDataPathEndInd where
  num_ndp_instances : UInt8
  ndp_instance_id : Bytes

structure NanDataPathScheduleUpdateInd where
  peer_mac_addr : Bytes
  schedule_update_reason_code : UInt32
  num_channels : UInt32
  channel_info : List NanChannelInfo
  num_ndp_instances : UInt8
  ndp_instance_id : Bytes

inductive NdpResponseType where
  | interfaceCreate
  | interfaceDelete
  | initiatorResponse
  | responderResponse
  | dpEnd
  deriving DecidableEq, Repr

/-- The response message of a data path, and the transaction it answers. -/
structure NdpResponseMsg where
  id : UInt16
  response_type : NdpResponseType
  report : ErrorReport
  ndp_instance_id : UInt32

/-- The callback that is invoked, with the event that its argument points to. -/
inductive NdpCallback where
  | dataRequest (event : NanDataPathRequestInd)
  | dataConfirm (event : NanDataPathConfirmInd)
  | dataEnd (event : Option NanDataPathEndInd)
  | scheduleUpdate (event : NanDataPathScheduleUpdateInd)

/-- What a handler returns, and the callback it has invoked. -/
structure NdpHandled (κ : Type) where
  res : WifiError
  callback : Option κ

end Events

section Decoders

variable (sizes : NdpSizes) (env : NdpEnv) (tb_vendor : AttrTable)

/-- Events on the stack start out as zeros. -/
def zeroBytes : Bytes := fun _ ↦ 0

def ndpAppInfo : NanDataPathAppInfo :=
  match tb_vendor ndpAttrAppInfo with
  | some attr =>
    { ndp_app_info_len := UInt16.ofNat (min sizes.ndp_app_info attr.len)
      ndp_app_info := nlaMemcpy zeroBytes attr sizes.ndp_app_info }
  | none => ⟨0, zeroBytes⟩

def getNdpRequest : Decoder WifiError NanDataPathRequestInd := do
  tb_vendor.require [ndpAttrServiceInstanceId, ndpAttrPeerDiscoveryMacAddr, ndpAttrInstanceId]
    WifiError.invalidArgs
  let service ← tb_vendor.deref ndpAttrServiceInstanceId
  let peer ← tb_vendor.deref ndpAttrPeerDiscoveryMacAddr
  let instanceId ← tb_vendor.deref ndpAttrInstanceId
  return {
    service_instance_id := nlaGetU16 service
    peer_disc_mac_addr := nlaMemcpy zeroBytes peer nanMacAddrLen
    ndp_instance_id := nlaGetU32 instanceId
    app_info := ndpAppInfo sizes tb_vendor }

/-- The number of channels, which only a number above the capacity has to come with channels. -/
def ndpNumChannels : Decoder WifiError UInt32 :=
  match tb_vendor ndpAttrNumChannels with
  | some attr =>
    if sizes.nanMaxChannelInfoSupported < (nlaGetU32 attr).toNat ∧ tb_vendor ndpAttrChannelInfo = none then
      .error (.error .invalidArgs)
    else .ok (nlaGetU32 attr)
  | none => .ok 0

/-- One round of the loop over the channels. -/
def ndpChannel (chInfo : Payload) : Decoder WifiError NanChannelInfo := do
  let tb2 := nlaParse ndpAttrParamsMax chInfo
  let channel ← tb2.demand ndpAttrChannel WifiError.invalidArgs
  let bandwidth ← tb2.demand ndpAttrChannelWidth WifiError.invalidArgs
  let nss ← tb2.demand ndpAttrNss WifiError.invalidArgs
  return { channel := nlaGetU32 channel, bandwidth := nlaGetU32 bandwidth, nss := nlaGetU32 nss }

/-- The entries that the loop reaches: it goes on as long as there is room for one. -/
def channelEntries (info : Payload) : List Payload :=
  (info.attrs.take sizes.nanMaxChannelInfoSupported).map info.nested

def ndpChannels (num_channels : UInt32) : Decoder WifiError (List NanChannelInfo) :=
  if num_channels ≠ 0 then do
    let info ← tb_vendor.deref ndpAttrChannelInfo
    (channelEntries sizes info).mapM ndpChannel
  else .ok []

def getNdpConfirm : Decoder WifiError NanDataPathConfirmInd := do
  tb_vendor.require [ndpAttrInstanceId, ndpAttrNdiMacAddr, ndpAttrResponseCode] WifiError.invalidArgs
  let instanceId ← tb_vendor.deref ndpAttrInstanceId
  let ndi ← tb_vendor.deref ndpAttrNdiMacAddr
  let rsp_code ← tb_vendor.deref ndpAttrResponseCode
  let drv_reason_code ← tb_vendor.deref ndpAttrDrvReturnValue
  let num_channels ← ndpNumChannels sizes tb_vendor
  let channel_info ← ndpChannels sizes tb_vendor num_channels
  return {
    ndp_instance_id := (nlaGetU16 instanceId).toUInt32
    peer_ndi_mac_addr := nlaMemcpy zeroBytes ndi nanMacAddrLen
    app_info := ndpAppInfo sizes tb_vendor
    rsp_code := nlaGetU32 rsp_code
    reason_code := ndpConfirmReason (nlaGetU32 drv_reason_code)
    num_channels := num_channels
    channel_info := channel_info }

/-- The number of instances in an array, as an unsigned 8-bit number. -/
def numNdpIds (attr : Payload) : UInt8 := UInt8.ofNat (attr.len / 4)

/-- The event of an end is `NULL` where it has no instance. -/
def getNdpEnd : Decoder WifiError (Option NanDataPathEndInd) := do
  tb_vendor.require [ndpAttrInstanceIdArray] WifiError.invalidArgs
  let ids ← tb_vendor.deref ndpAttrInstanceIdArray
  if numNdpIds ids = 0 then return none
  else if env.malloc = false then .error (.error .outOfMemory)
  else
    return some {
      num_ndp_instances := numNdpIds ids
      ndp_instance_id := nlaMemcpy env.heap ids (4 * (numNdpIds ids).toNat) }

def getNdpScheduleUpdate (num_channels : UInt32) (num_ndp_instances : UInt8) :
    Decoder WifiError NanDataPathScheduleUpdateInd := do
  let peer ← tb_vendor.deref ndpAttrPeerDiscoveryMacAddr
  let reason ← tb_vendor.deref ndpAttrScheduleUpdateReason
  let channel_info ← ndpChannels sizes tb_vendor num_channels
  let ids ← tb_vendor.deref ndpAttrInstanceIdArray
  return {
    peer_mac_addr := nlaMemcpy env.heap peer nanMacAddrLen
    schedule_update_reason_code := nlaGetU32 reason
    num_channels := num_channels
    channel_info := channel_info
    num_ndp_instances := num_ndp_instances
    ndp_instance_id :=
      if num_ndp_instances = 0 then env.heap else nlaMemcpy env.heap ids (4 * num_ndp_instances.toNat) }

/-- The case of a schedule update. -/
def scheduleUpdateInd : Decoder WifiError NanDataPathScheduleUpdateInd := do
  tb_vendor.require [ndpAttrPeerDiscoveryMacAddr, ndpAttrScheduleUpdateReason, ndpAttrInstanceIdArray]
    WifiError.invalidArgs
  let num_channels ← ndpNumChannels sizes tb_vendor
  let ids ← tb_vendor.deref ndpAttrInstanceIdArray
  if env.malloc = false then .error (.error .outOfMemory)
  else getNdpScheduleUpdate sizes env tb_vendor num_channels (numNdpIds ids)

/-- An event goes to its callback, where one is registered. -/
def deliver {α κ : Type} (registered : Bool) (callback : α → κ) (decoded : Decoder WifiError α) :
    Except Fault (NdpHandled κ) :=
  match decoded with
  | .ok event => .ok ⟨.success, if registered then some (callback event) else none⟩
  | .error (.error error) => .ok ⟨error, none⟩
  | .error (.fault fault) => .error fault

def handleNdpIndication (ndpCmdType : UInt32) : Except Fault (NdpHandled NdpCallback) :=
  if ndpCmdType = ndpRequestInd then
    deliver env.eventDataRequest .dataRequest (getNdpRequest sizes tb_vendor)
  else if ndpCmdType = ndpConfirmInd then
    deliver env.eventDataConfirm .dataConfirm (getNdpConfirm sizes tb_vendor)
  else if ndpCmdType = ndpEndInd then
    deliver env.eventDataEnd .dataEnd (getNdpEnd env tb_vendor)
  else if ndpCmdType = ndpScheduleUpdateInd then
    deliver env.eventScheduleUpdate .scheduleUpdate (scheduleUpdateInd sizes env tb_vendor)
  else .ok ⟨.invalidRequestId, none⟩

/-- The instance is reported to an initiator only. -/
def responseInstanceId (ndpCmdType : NdpResponseType) : Decoder WifiError UInt32 :=
  if ndpCmdType = .initiatorResponse then do
    let instanceId ← tb_vendor.demand ndpAttrInstanceId WifiError.invalidArgs
    return nlaGetU32 instanceId
  else .ok 0

def getNdpResponse (ndpCmdType : NdpResponseType) : Decoder WifiError NdpResponseMsg := do
  tb_vendor.require [ndpAttrTransactionId, ndpAttrDrvResponseStatusType, ndpAttrDrvReturnValue]
    WifiError.invalidArgs
  let id ← tb_vendor.deref ndpAttrTransactionId
  let status ← tb_vendor.deref ndpAttrDrvResponseStatusType
  let value ← tb_vendor.deref ndpAttrDrvReturnValue
  let ndp_instance_id ← responseInstanceId tb_vendor ndpCmdType
  return {
    id := nlaGetU16 id
    response_type := ndpCmdType
    report := translateResponse (nlaGetU32 status) (nlaGetU32 value) ⟨0, ⟨zeroBytes, []⟩⟩
    ndp_instance_id := ndp_instance_id }

def handleNdpResponse (ndpCmdType : NdpResponseType) : Except Fault (NdpHandled NdpResponseMsg) :=
  deliver env.notifyResponse id (getNdpResponse tb_vendor ndpCmdType)

end Decoders

/-! ## Instances -/

section Instances

/-- The instances of an array, as many as there are said to be. -/
def reportedIds (num_ndp_instances : UInt8) (ndp_instance_id : Bytes) : List UInt32 :=
  (List.range num_ndp_instances.toNat).map fun i ↦ UInt32.ofNat (u32At ndp_instance_id (4 * i))

/-- The attributes of an instance and of an array of instances. -/
structure CarriesIds (tb_vendor : AttrTable) (id : UInt32) (ids : List UInt32) : Prop where
  instanceId : ∀ attr, tb_vendor ndpAttrInstanceId = some attr → Holds attr.bytes 0 (le32 id.toNat)
  length : ∀ attr, tb_vendor ndpAttrInstanceIdArray = some attr → attr.len = 4 * ids.length
  array : ∀ attr, tb_vendor ndpAttrInstanceIdArray = some attr →
    Holds attr.bytes 0 (ids.flatMap fun id ↦ le32 id.toNat)

/-- The event has the instance or the instances of the attributes. -/
def NdpCallback.Reports (id : UInt32) (ids : List UInt32) : NdpCallback → Prop
  | .dataRequest event => event.ndp_instance_id = id
  | .dataConfirm event => event.ndp_instance_id = id
  | .dataEnd none => ids = []
  | .dataEnd (some event) => reportedIds event.num_ndp_instances event.ndp_instance_id = ids
  | .scheduleUpdate event => reportedIds event.num_ndp_instances event.ndp_instance_id = ids

/-- Everything that the four indications need, and no channels. -/
def CompleteNdp (tb_vendor : AttrTable) : Prop :=
  tb_vendor.Has
    [ndpAttrServiceInstanceId, ndpAttrPeerDiscoveryMacAddr, ndpAttrInstanceId, ndpAttrInstanceIdArray,
      ndpAttrResponseCode, ndpAttrNdiMacAddr, ndpAttrDrvReturnValue, ndpAttrScheduleUpdateReason] ∧
  tb_vendor ndpAttrNumChannels = none

/-- What the response to an initiator needs. -/
def expectedResponseAttrs : List ℕ :=
  [ndpAttrTransactionId, ndpAttrDrvResponseStatusType, ndpAttrDrvReturnValue, ndpAttrInstanceId]

/-- Every callback is registered, and there is memory. -/
structure NdpEnv.Ready (env : NdpEnv) : Prop where
  notifyResponse : env.notifyResponse = true
  eventDataRequest : env.eventDataRequest = true
  eventDataConfirm : env.eventDataConfirm = true
  eventDataEnd : env.eventDataEnd = true
  eventScheduleUpdate : env.eventScheduleUpdate = true
  malloc : env.malloc = true

/-- The instances of a list, and an instance, are reported wherever attributes carry them. -/
structure ReportsIds (sizes : NdpSizes) (id : UInt32) (ids : List UInt32) : Prop where
  response : ∀ env tb_vendor handled rsp, CarriesIds tb_vendor id ids →
    handleNdpResponse env tb_vendor .initiatorResponse = .ok handled → handled.callback = some rsp →
      rsp.ndp_instance_id = id
  indication : ∀ env tb_vendor ndpCmdType handled callback, CarriesIds tb_vendor id ids →
    handleNdpIndication sizes env tb_vendor ndpCmdType = .ok handled → handled.callback = some callback →
      callback.Reports id ids
  delivered : ∀ env tb_vendor, env.Ready → CompleteNdp tb_vendor →
    ∀ ndpCmdType ∈ [ndpRequestInd, ndpConfirmInd, ndpEndInd, ndpScheduleUpdateInd],
      ∃ callback, handleNdpIndication sizes env tb_vendor ndpCmdType = .ok ⟨.success, some callback⟩
  answered : ∀ env tb_vendor, env.Ready → tb_vendor.Has expectedResponseAttrs →
    ∃ rsp, handleNdpResponse env tb_vendor .initiatorResponse = .ok ⟨.success, some rsp⟩

variable {sizes : NdpSizes} {env : NdpEnv} {tb_vendor : AttrTable} {id : UInt32} {ids : List UInt32}

theorem nlaGetU32_of_holds {attr : Payload} (hholds : Holds attr.bytes 0 (le32 id.toNat)) :
    nlaGetU32 attr = id := by
  unfold nlaGetU32
  rw [u32At_of_holds id.toNat_lt hholds, UInt32.ofNat_toNat]

/-- Half of the bits are read. -/
theorem nlaGetU16_of_holds {attr : Payload} (hholds : Holds attr.bytes 0 (le32 id.toNat)) :
    (nlaGetU16 attr).toUInt32 = id ↔ id.toNat < 65536 := by
  have hall := u32At_of_holds id.toNat_lt hholds
  have hlow := u16At_lt attr.bytes 0
  have hvalue : (nlaGetU16 attr).toUInt32.toNat = u16At attr.bytes 0 := by
    unfold nlaGetU16
    rw [UInt16.toNat_toUInt32, UInt16.toNat_ofNat', Nat.mod_eq_of_lt hlow]
  unfold u32At at hall
  rw [← UInt32.toNat_inj, hvalue]
  omega

/-- The array is read back, one number after the other. -/
theorem map_u32At_of_holds {bytes : Bytes} {pos : ℕ}
    (hholds : Holds bytes pos (ids.flatMap fun id ↦ le32 id.toNat)) :
    (List.range ids.length).map (fun i ↦ UInt32.ofNat (u32At bytes (pos + 4 * i))) = ids := by
  have hread : ∀ id ∈ ids, ∀ pos, Holds bytes pos (le32 id.toNat) → UInt32.ofNat (u32At bytes pos) = id := by
    intro id _ pos hid
    rw [u32At_of_holds id.toNat_lt hid, UInt32.ofNat_toNat]
  calc
    _ = ids.map fun id ↦ id := map_read_of_holds (fun _ _ ↦ length_le32 _) hread hholds
    _ = ids := List.map_id' ids

theorem u32At_congr {bytes bytes' : Bytes} {pos : ℕ} (hsame : ∀ i < 4, bytes (pos + i) = bytes' (pos + i)) :
    u32At bytes pos = u32At bytes' pos := by
  unfold u32At u16At
  rw [show bytes pos = bytes' pos from hsame 0 (by decide), hsame 1 (by decide), hsame 2 (by decide),
    show bytes (pos + 2 + 1) = bytes' (pos + 2 + 1) from hsame 3 (by decide)]

/-- As many instances are reported as the count says after it was cut. -/
theorem reportedIds_array {attr : Payload} (heap : Bytes) (hlength : attr.len = 4 * ids.length)
    (hholds : Holds attr.bytes 0 (ids.flatMap fun id ↦ le32 id.toNat)) :
    reportedIds (numNdpIds attr) (nlaMemcpy heap attr (4 * (numNdpIds attr).toNat)) =
      ids.take (ids.length % 256) := by
  have hcount : (numNdpIds attr).toNat = ids.length % 256 := by
    unfold numNdpIds
    rw [hlength, Nat.mul_div_cancel_left _ (by decide), UInt8.toNat_ofNat']
  unfold reportedIds
  rw [hcount]
  calc
    _ = (List.range (ids.length % 256)).map fun i ↦ UInt32.ofNat (u32At attr.bytes (0 + 4 * i)) := ?_
    _ = ((List.range ids.length).map fun i ↦ UInt32.ofNat (u32At attr.bytes (0 + 4 * i))).take
        (ids.length % 256) := by
      rw [← List.map_take, List.take_range, Nat.min_eq_left (Nat.mod_le _ _)]
    _ = ids.take (ids.length % 256) := by rw [map_u32At_of_holds hholds]
  apply List.map_congr_left
  intro i hi
  rw [List.mem_range] at hi
  rw [Nat.zero_add]
  congr 1
  apply u32At_congr
  intro k hk
  have hle := Nat.mod_le ids.length 256
  exact if_pos (by rw [hlength]; omega)

theorem take_mod_eq_self_iff : ids.take (ids.length % 256) = ids ↔ ids.length < 256 := by
  rw [List.take_eq_self_iff]
  omega

/-! ## The decoders -/

theorem getNdpRequest_reports {event : NanDataPathRequestInd} (hcarries : CarriesIds tb_vendor id ids)
    (hevent : getNdpRequest sizes tb_vendor = .ok event) : event.ndp_instance_id = id := by
  unfold getNdpRequest at hevent
  simp only [bind_eq_ok, AttrTable.deref_eq_ok_iff] at hevent
  obtain ⟨_, _, service, _, peer, _, instanceId, hinstance, heq⟩ := hevent
  rw [← Except.ok.inj heq]
  exact nlaGetU32_of_holds (hcarries.instanceId instanceId hinstance)

theorem getNdpConfirm_reports_iff {event : NanDataPathConfirmInd} (hcarries : CarriesIds tb_vendor id ids)
    (hevent : getNdpConfirm sizes tb_vendor = .ok event) :
    event.ndp_instance_id = id ↔ id.toNat < 65536 := by
  unfold getNdpConfirm at hevent
  simp only [bind_eq_ok, AttrTable.deref_eq_ok_iff] at hevent
  obtain ⟨_, _, instanceId, hinstance, _, _, _, _, _, _, _, _, _, _, heq⟩ := hevent
  rw [← Except.ok.inj heq]
  exact nlaGetU16_of_holds (hcarries.instanceId instanceId hinstance)

theorem getNdpEnd_reports_iff {event : Option NanDataPathEndInd} (hcarries : CarriesIds tb_vendor id ids)
    (hevent : getNdpEnd env tb_vendor = .ok event) :
    (NdpCallback.dataEnd event).Reports id ids ↔ ids.length < 256 := by
  unfold getNdpEnd at hevent
  simp only [bind_eq_ok, AttrTable.deref_eq_ok_iff] at hevent
  obtain ⟨_, _, attr, hattr, hevent⟩ := hevent
  have hreported := reportedIds_array env.heap (hcarries.length attr hattr) (hcarries.array attr hattr)
  by_cases hzero : numNdpIds attr = 0
  · rw [if_pos hzero] at hevent
    rw [hzero] at hreported
    rw [← Except.ok.inj hevent, ← take_mod_eq_self_iff, ← hreported]
    exact eq_comm
  · rw [if_neg hzero] at hevent
    split at hevent
    · cases hevent
    · rw [← Except.ok.inj hevent, ← take_mod_eq_self_iff, ← hreported]
      rfl

theorem scheduleUpdateInd_reports_iff {event : NanDataPathScheduleUpdateInd}
    (hcarries : CarriesIds tb_vendor id ids) (hevent : scheduleUpdateInd sizes env tb_vendor = .ok event) :
    (NdpCallback.scheduleUpdate event).Reports id ids ↔ ids.length < 256 := by
  unfold scheduleUpdateInd at hevent
  simp only [bind_eq_ok, AttrTable.deref_eq_ok_iff] at hevent
  obtain ⟨_, _, num_channels, _, attr, hattr, hevent⟩ := hevent
  have hreported := reportedIds_array env.heap (hcarries.length attr hattr) (hcarries.array attr hattr)
  split at hevent
  · cases hevent
  · unfold getNdpScheduleUpdate at hevent
    simp only [bind_eq_ok, AttrTable.deref_eq_ok_iff] at hevent
    obtain ⟨_, _, _, _, _, _, found, hfound, heq⟩ := hevent
    rw [← Except.ok.inj heq, ← take_mod_eq_self_iff, ← hreported]
    rw [Option.some.inj (hfound.symm.trans hattr)]
    unfold NdpCallback.Reports
    dsimp only
    by_cases hzero : numNdpIds attr = 0
    · rw [if_pos hzero, hzero]
      rfl
    · rw [if_neg hzero]

theorem getNdpResponse_reports {rsp : NdpResponseMsg} (hcarries : CarriesIds tb_vendor id ids)
    (hrsp : getNdpResponse tb_vendor .initiatorResponse = .ok rsp) : rsp.ndp_instance_id = id := by
  unfold getNdpResponse at hrsp
  simp only [bind_eq_ok] at hrsp
  obtain ⟨_, _, _, _, _, _, _, _, reported, hreported, heq⟩ := hrsp
  unfold responseInstanceId at hreported
  rw [if_pos rfl, bind_eq_ok] at hreported
  obtain ⟨attr, hattr, hsame⟩ := hreported
  rw [AttrTable.demand_eq_ok_iff] at hattr
  rw [← Except.ok.inj heq, ← Except.ok.inj hsame]
  exact nlaGetU32_of_holds (hcarries.instanceId attr hattr)

theorem deliver_eq_ok {α κ : Type} {registered : Bool} {callback : α → κ} {decoded : Decoder WifiError α}
    {handled : NdpHandled κ} {invoked : κ} (hhandled : deliver registered callback decoded = .ok handled)
    (hinvoked : handled.callback = some invoked) : ∃ event, decoded = .ok event ∧ invoked = callback event := by
  unfold deliver at hhandled
  split at hhandled
  · rename_i event
    rw [← Except.ok.inj hhandled] at hinvoked
    cases registered with
    | true => exact ⟨event, rfl, (Option.some.inj hinvoked).symm⟩
    | false => cases hinvoked
  · rw [← Except.ok.inj hhandled] at hinvoked
    cases hinvoked
  · cases hhandled

theorem deliver_of_eq_ok {α κ : Type} {registered : Bool} (callback : α → κ) {decoded : Decoder WifiError α}
    (hregistered : registered = true) (hdecoded : ∃ event, decoded = .ok event) :
    ∃ invoked, deliver registered callback decoded = .ok ⟨.success, some invoked⟩ := by
  obtain ⟨event, rfl⟩ := hdecoded
  rw [hregistered]
  exact ⟨callback event, rfl⟩

/-- What decides whether a callback reports the right instances. -/
theorem handleNdpIndication_reports_iff {ndpCmdType : UInt32} {handled : NdpHandled NdpCallback}
    {callback : NdpCallback} (hcarries : CarriesIds tb_vendor id ids)
    (hhandled : handleNdpIndication sizes env tb_vendor ndpCmdType = .ok handled)
    (hcallback : handled.callback = some callback) :
    callback.Reports id ids ↔
      (ndpCmdType = ndpConfirmInd → id.toNat < 65536) ∧
        (ndpCmdType = ndpEndInd ∨ ndpCmdType = ndpScheduleUpdateInd → ids.length < 256) := by
  unfold handleNdpIndication at hhandled
  split_ifs at hhandled with hrequest hconfirm hend hschedule
  · obtain ⟨event, hevent, rfl⟩ := deliver_eq_ok hhandled hcallback
    rw [hrequest]
    apply iff_of_true (getNdpRequest_reports hcarries hevent)
    exact ⟨fun h ↦ absurd h (by decide), fun h ↦ absurd h (by decide)⟩
  · obtain ⟨event, hevent, rfl⟩ := deliver_eq_ok hhandled hcallback
    rw [hconfirm]
    apply (getNdpConfirm_reports_iff hcarries hevent).trans
    simp [ndpConfirmInd, ndpEndInd, ndpScheduleUpdateInd]
  · obtain ⟨event, hevent, rfl⟩ := deliver_eq_ok hhandled hcallback
    rw [hend]
    apply (getNdpEnd_reports_iff hcarries hevent).trans
    simp [ndpConfirmInd, ndpEndInd]
  · obtain ⟨event, hevent, rfl⟩ := deliver_eq_ok hhandled hcallback
    rw [hschedule]
    apply (scheduleUpdateInd_reports_iff hcarries hevent).trans
    simp [ndpConfirmInd, ndpScheduleUpdateInd]
  · rw [← Except.ok.inj hhandled] at hcallback
    cases hcallback

/-! ## Complete events are delivered -/

theorem ndpNumChannels_of_eq_none (hnone : tb_vendor ndpAttrNumChannels = none) :
    ndpNumChannels sizes tb_vendor = .ok 0 := by
  unfold ndpNumChannels
  rw [hnone]

theorem exists_getNdpRequest (hcomplete : CompleteNdp tb_vendor) :
    ∃ event, getNdpRequest sizes tb_vendor = .ok event := by
  obtain ⟨service, hservice⟩ := hcomplete.1.exists_eq_some ndpAttrServiceInstanceId (by decide)
  obtain ⟨peer, hpeer⟩ := hcomplete.1.exists_eq_some ndpAttrPeerDiscoveryMacAddr (by decide)
  obtain ⟨instanceId, hinstance⟩ := hcomplete.1.exists_eq_some ndpAttrInstanceId (by decide)
  unfold getNdpRequest
  rw [AttrTable.require_of_has (hcomplete.1.mono (by decide)), AttrTable.deref_of_eq_some hservice,
    AttrTable.deref_of_eq_some hpeer, AttrTable.deref_of_eq_some hinstance]
  exact ⟨_, rfl⟩

theorem exists_getNdpConfirm (hcomplete : CompleteNdp tb_vendor) :
    ∃ event, getNdpConfirm sizes tb_vendor = .ok event := by
  obtain ⟨instanceId, hinstance⟩ := hcomplete.1.exists_eq_some ndpAttrInstanceId (by decide)
  obtain ⟨ndi, hndi⟩ := hcomplete.1.exists_eq_some ndpAttrNdiMacAddr (by decide)
  obtain ⟨rsp_code, hrsp⟩ := hcomplete.1.exists_eq_some ndpAttrResponseCode (by decide)
  obtain ⟨value, hvalue⟩ := hcomplete.1.exists_eq_some ndpAttrDrvReturnValue (by decide)
  unfold getNdpConfirm
  rw [AttrTable.require_of_has (hcomplete.1.mono (by decide)), AttrTable.deref_of_eq_some hinstance,
    AttrTable.deref_of_eq_some hndi, AttrTable.deref_of_eq_some hrsp, AttrTable.deref_of_eq_some hvalue,
    ndpNumChannels_of_eq_none hcomplete.2]
  exact ⟨_, rfl⟩

theorem exists_getNdpEnd (hcomplete : CompleteNdp tb_vendor) (hmalloc : env.malloc = true) :
    ∃ event, getNdpEnd env tb_vendor = .ok event := by
  obtain ⟨attr, hattr⟩ := hcomplete.1.exists_eq_some ndpAttrInstanceIdArray (by decide)
  unfold getNdpEnd
  rw [AttrTable.require_of_has (hcomplete.1.mono (by decide)), AttrTable.deref_of_eq_some hattr]
  by_cases hzero : numNdpIds attr = 0
  · exact ⟨_, if_pos hzero⟩
  · exact ⟨_, (if_neg hzero).trans (if_neg (by rw [hmalloc]; decide))⟩

theorem exists_scheduleUpdateInd (hcomplete : CompleteNdp tb_vendor) (hmalloc : env.malloc = true) :
    ∃ event, scheduleUpdateInd sizes env tb_vendor = .ok event := by
  obtain ⟨attr, hattr⟩ := hcomplete.1.exists_eq_some ndpAttrInstanceIdArray (by decide)
  obtain ⟨peer, hpeer⟩ := hcomplete.1.exists_eq_some ndpAttrPeerDiscoveryMacAddr (by decide)
  obtain ⟨reason, hreason⟩ := hcomplete.1.exists_eq_some ndpAttrScheduleUpdateReason (by decide)
  unfold scheduleUpdateInd getNdpScheduleUpdate
  rw [AttrTable.require_of_has (hcomplete.1.mono (by decide)), AttrTable.deref_of_eq_some hattr,
    AttrTable.deref_of_eq_some hpeer, AttrTable.deref_of_eq_some hreason,
    ndpNumChannels_of_eq_none hcomplete.2, hmalloc]
  exact ⟨_, rfl⟩

theorem handleNdpIndication_delivers (hready : env.Ready) (hcomplete : CompleteNdp tb_vendor) :
    ∀ ndpCmdType ∈ [ndpRequestInd, ndpConfirmInd, ndpEndInd, ndpScheduleUpdateInd],
      ∃ callback, handleNdpIndication sizes env tb_vendor ndpCmdType = .ok ⟨.success, some callback⟩ := by
  simp only [List.forall_mem_cons]
  refine ⟨?_, ?_, ?_, ?_, fun _ hnil ↦ absurd hnil List.not_mem_nil⟩
  · exact deliver_of_eq_ok NdpCallback.dataRequest hready.eventDataRequest (exists_getNdpRequest hcomplete)
  · exact deliver_of_eq_ok NdpCallback.dataConfirm hready.eventDataConfirm (exists_getNdpConfirm hcomplete)
  · exact deliver_of_eq_ok NdpCallback.dataEnd hready.eventDataEnd (exists_getNdpEnd hcomplete hready.malloc)
  · exact deliver_of_eq_ok NdpCallback.scheduleUpdate hready.eventScheduleUpdate
      (exists_scheduleUpdateInd hcomplete hready.malloc)

theorem handleNdpResponse_delivers (hready : env.Ready) (hattrs : tb_vendor.Has expectedResponseAttrs) :
    ∃ rsp, handleNdpResponse env tb_vendor .initiatorResponse = .ok ⟨.success, some rsp⟩ := by
  apply deliver_of_eq_ok id hready.notifyResponse
  obtain ⟨transaction, htransaction⟩ := hattrs.exists_eq_some ndpAttrTransactionId (by decide)
  obtain ⟨status, hstatus⟩ := hattrs.exists_eq_some ndpAttrDrvResponseStatusType (by decide)
  obtain ⟨value, hvalue⟩ := hattrs.exists_eq_some ndpAttrDrvReturnValue (by decide)
  obtain ⟨instanceId, hinstance⟩ := hattrs.exists_eq_some ndpAttrInstanceId (by decide)
  unfold getNdpResponse responseInstanceId AttrTable.demand
  rw [AttrTable.require_of_has (hattrs.mono (by decide)), AttrTable.deref_of_eq_some htransaction,
    AttrTable.deref_of_eq_some hstatus, AttrTable.deref_of_eq_some hvalue, hinstance]
  exact ⟨_, rfl⟩

/-- Bytes as the payload of an attribute. -/
def payloadOf (bytes : List UInt8) : Payload := ⟨fun i ↦ bytes.getD i 0, bytes.length⟩

theorem holds_payloadOf (bytes : List UInt8) : Holds (payloadOf bytes).bytes 0 bytes := by
  intro k hk
  rw [Nat.zero_add]
  exact List.getD_eq_getElem _ _ hk

/-- A complete event with an instance and an array of instances. -/
def idTable (id : UInt32) (ids : List UInt32) : AttrTable := fun type ↦
  if type = ndpAttrNumChannels then none
  else if type = ndpAttrInstanceIdArray then some (payloadOf (ids.flatMap fun id ↦ le32 id.toNat))
  else some (payloadOf (le32 id.toNat))

theorem carriesIds_idTable (id : UInt32) (ids : List UInt32) : CarriesIds (idTable id ids) id ids := by
  apply CarriesIds.mk
  · intro attr hattr
    rw [← Option.some.inj (show some (payloadOf (le32 id.toNat)) = some attr from hattr)]
    exact holds_payloadOf _
  · intro attr hattr
    rw [← Option.some.inj (show some (payloadOf _) = some attr from hattr)]
    change (ids.flatMap fun id ↦ le32 id.toNat).length = 4 * ids.length
    rw [List.length_flatMap]
    simp [Nat.mul_comm]
  · intro attr hattr
    rw [← Option.some.inj (show some (payloadOf _) = some attr from hattr)]
    exact holds_payloadOf _

theorem completeNdp_idTable (id : UInt32) (ids : List UInt32) : CompleteNdp (idTable id ids) := by
  apply And.intro _ rfl
  simp only [AttrTable.Has, List.forall_mem_cons]
  exact ⟨rfl, rfl, rfl, rfl, rfl, rfl, rfl, rfl, fun _ hnil ↦ absurd hnil List.not_mem_nil⟩

def readyEnv : NdpEnv := ⟨true, true, true, true, true, true, zeroBytes⟩

theorem ready_readyEnv : readyEnv.Ready := ⟨rfl, rfl, rfl, rfl, rfl, rfl⟩

/-- If an instance and a list are reported everywhere, then by the confirmation and by the end. -/
theorem ReportsIds.bounds (hreports : ReportsIds sizes id ids) : id.toNat < 65536 ∧ ids.length < 256 := by
  have hcarries := carriesIds_idTable id ids
  have hdelivered := hreports.delivered readyEnv (idTable id ids) ready_readyEnv (completeNdp_idTable id ids)
  obtain ⟨confirmed, hconfirmed⟩ := hdelivered ndpConfirmInd (by decide)
  obtain ⟨ended, hended⟩ := hdelivered ndpEndInd (by decide)
  have hid := hreports.indication _ _ _ _ _ hcarries hconfirmed rfl
  have hids := hreports.indication _ _ _ _ _ hcarries hended rfl
  rw [handleNdpIndication_reports_iff hcarries hconfirmed rfl] at hid
  rw [handleNdpIndication_reports_iff hcarries hended rfl] at hids
  exact ⟨hid.1 rfl, hids.2 (Or.inl rfl)⟩

/-- Instances are reported in full if and only if the instance has 16 bits and the list fewer than 256
entries. -/
theorem reportsIds_iff (sizes : NdpSizes) (id : UInt32) (ids : List UInt32) :
    ReportsIds sizes id ids ↔ id.toNat < 65536 ∧ ids.length < 256 := by
  apply Iff.intro ReportsIds.bounds
  intro hbounds
  apply ReportsIds.mk
  · intro env tb_vendor handled rsp hcarries hhandled hcallback
    obtain ⟨event, hevent, rfl⟩ := deliver_eq_ok hhandled hcallback
    exact getNdpResponse_reports hcarries hevent
  · intro env tb_vendor ndpCmdType handled callback hcarries hhandled hcallback
    rw [handleNdpIndication_reports_iff hcarries hhandled hcallback]
    exact ⟨fun _ ↦ hbounds.1, fun _ ↦ hbounds.2⟩
  · intro env tb_vendor hready hcomplete
    exact handleNdpIndication_delivers hready hcomplete
  · intro env tb_vendor hready hattrs
    exact handleNdpResponse_delivers hready hattrs

/-- An instance of 65536 is confirmed as 0. -/
theorem not_reportsIds : ¬ ReportsIds ⟨4, 512⟩ 65536 [] := by
  intro hreports
  exact absurd hreports.bounds.1 (by decide)

end Instances

end HardwareMediatek.Wifi
