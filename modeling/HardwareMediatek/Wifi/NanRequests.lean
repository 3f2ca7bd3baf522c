import HardwareMediatek.Wifi.NanTlvWrite
import HardwareMediatek.Wifi.NdpRequests

/-!
# NAN requests

`putNanEnable`, `putNanConfig`, `putNanPublish`, `putNanSubscribe` and `putNanTransmitFollowup`. Each
sums up a message length, allocates that much, fills in the fixed part and then writes its TLVs one
statement after the other. The lengths and the statements are two lists of conditions, here as there.
Enumerations of the framework are numbers, and its arrays functions from the index.
-/

namespace HardwareMediatek.Wifi

open Foundation

section FrameworkRecords

def nanMaxServiceNameLen : ℕ := 255
def nanMaxMatchFilterLen : ℕ := 255
def nanMaxServiceSpecificInfoLen : ℕ := 1024
def nanMaxSdeaServiceSpecificInfoLen : ℕ := 1024
def nanMaxSubscribeMaxAddress : ℕ := 42
def nanMaxPostdiscoveryLen : ℕ := 5
def nanMaxFamChannels : ℕ := 32
def nanMaxMeshDataLen : ℕ := 32
def nanMaxInfraSsidLen : ℕ := 32
def nanMaxSocialChannels : ℕ := 3
def nanConnWlanInfra : UInt32 := 0
def nanConnWlanMesh : UInt32 := 3
def nanTxPriorityHigh : UInt32 := 1
def nanEnableRangeReport : UInt32 := 2
def nanRangingIndicateIngressMetMask : UInt32 := 2
def nanRangingIndicateEgressMetMask : UInt32 := 4
def nanRangeRequestAccept : UInt16 := 1
def nanRangeRequestReject : UInt16 := 2
def nanRangeRequestCancel : UInt16 := 3

structure NanSocialChannelScanParams where
  dwell_time : ℕ → UInt8
  scan_period : ℕ → UInt16
  deriving Inhabited

structure NanConfigDW where
  config_2dot4g_dw_band : UInt8
  dw_2dot4g_interval_val : UInt32
  config_5g_dw_band : UInt8
  dw_5g_interval_val : UInt32
  deriving Inhabited

structure NanEnableRequest where
  master_pref : UInt8
  cluster_low : UInt16
  cluster_high : UInt16
  config_support_5g : UInt8
  support_5g_val : UInt8
  config_sid_beacon : UInt8
  sid_beacon_val : UInt8
  config_2dot4g_rssi_close : UInt8
  rssi_close_2dot4g_val : UInt8
  config_2dot4g_rssi_middle : UInt8
  rssi_middle_2dot4g_val : UInt8
  config_2dot4g_rssi_proximity : UInt8
  rssi_proximity_2dot4g_val : UInt8
  config_hop_count_limit : UInt8
  hop_count_limit_val : UInt8
  config_2dot4g_support : UInt8
  support_2dot4g_val : UInt8
  config_2dot4g_beacons : UInt8
  beacon_2dot4g_val : UInt8
  config_2dot4g_sdf : UInt8
  sdf_2dot4g_val : UInt8
  config_5g_beacons : UInt8
  beacon_5g_val : UInt8
  config_5g_sdf : UInt8
  sdf_5g_val : UInt8
  config_5g_rssi_close : UInt8
  rssi_close_5g_val : UInt8
  config_5g_rssi_middle : UInt8
  rssi_middle_5g_val : UInt8
  config_5g_rssi_close_proximity : UInt8
  rssi_close_proximity_5g_val : UInt8
  config_rssi_window_size : UInt8
  rssi_window_size_val : UInt16
  config_oui : UInt8
  oui_val : UInt32
  config_intf_addr : UInt8
  intf_addr_val : ℕ → UInt8
  config_cluster_attribute_val : UInt8
  config_scan_params : UInt8
  scan_params_val : NanSocialChannelScanParams
  config_random_factor_force : UInt8
  random_factor_force_val : UInt8
  config_hop_count_force : UInt8
  hop_count_force_val : UInt8
  config_24g_channel : UInt8
  channel_24g_val : UInt32
  config_5g_channel : UInt8
  channel_5g_val : UInt32
  config_dw : NanConfigDW
  config_disc_mac_addr_randomization : UInt8
  disc_mac_addr_rand_interval_sec : UInt32
  discovery_indication_cfg : UInt8
  config_subscribe_sid_beacon : UInt8
  subscribe_sid_beacon_val : UInt32
  config_discovery_beacon_int : UInt8
  discovery_beacon_interval : UInt32
  config_nss : UInt8
  nss : UInt32
  config_enable_ranging : UInt8
  enable_ranging : UInt32
  config_dw_early_termination : UInt8
  enable_dw_termination : UInt32
  config_ndpe_attr : UInt8
  use_ndpe_attr : UInt32

structure NanTransmitPostConnectivityCapability where
  payload_transmit_flag : UInt8
  is_wfd_supported : UInt8
  is_wfds_supported : UInt8
  is_tdls_supported : UInt8
  is_ibss_supported : UInt8
  is_mesh_supported : UInt8
  wlan_infra_field : UInt8
  deriving Inhabited

structure NanTransmitPostDiscovery where
  type : UInt32
  role : UInt32
  transmit_freq : UInt8
  duration : UInt32
  avail_interval_bitmap : UInt32
  addr : ℕ → UInt8
  mesh_id_len : UInt8
  mesh_id : ℕ → UInt8
  infrastructure_ssid_len : UInt16
  infrastructure_ssid_val : ℕ → UInt8
  deriving Inhabited

structure NanFurtherAvailabilityChannel where
  entry_control : UInt32
  class_val : UInt8
  channel : UInt8
  mapid : UInt8
  avail_interval_bitmap : UInt32
  deriving Inhabited

structure NanFurtherAvailabilityMap where
  numchans : UInt8
  famchan : ℕ → NanFurtherAvailabilityChannel
  deriving Inhabited

structure NanConfigRequest where
  config_sid_beacon : UInt8
  sid_beacon : UInt8
  config_rssi_proximity : UInt8
  rssi_proximity : UInt8
  config_master_pref : UInt8
  master_pref : UInt8
  config_5g_rssi_close_proximity : UInt8
  rssi_close_proximity_5g_val : UInt8
  config_rssi_window_size : UInt8
  rssi_window_size_val : UInt16
  config_cluster_attribute_val : UInt8
  config_scan_params : UInt8
  scan_params_val : NanSocialChannelScanParams
  config_random_factor_force : UInt8
  random_factor_force_val : UInt8
  config_hop_count_force : UInt8
  hop_count_force_val : UInt8
  config_conn_capability : UInt8
  conn_capability_val : NanTransmitPostConnectivityCapability
  num_config_discovery_attr : UInt8
  discovery_attr_val : ℕ → NanTransmitPostDiscovery
  config_fam : UInt8
  fam_val : NanFurtherAvailabilityMap
  config_dw : NanConfigDW
  config_disc_mac_addr_randomization : UInt8
  disc_mac_addr_rand_interval_sec : UInt32
  discovery_indication_cfg : UInt8
  config_subscribe_sid_beacon : UInt8
  subscribe_sid_beacon_val : UInt32
  config_discovery_beacon_int : UInt8
  discovery_beacon_interval : UInt32
  config_nss : UInt8
  nss : UInt32
  config_enable_ranging : UInt8
  enable_ranging : UInt32
  config_dw_early_termination : UInt8
  enable_dw_termination : UInt32
  config_ndpe_attr : UInt8
  use_ndpe_attr : UInt32
  deriving Inhabited

structure NanSdeaCtrlParams where
  config_nan_data_path : UInt8
  ndp_type : UInt32
  security_cfg : UInt32
  ranging_state : UInt32
  range_report : UInt32
  qos_cfg : UInt32

structure NanRangingCfg where
  ranging_interval_msec : UInt32
  config_ranging_indications : UInt32
  distance_ingress_mm : UInt32
  distance_egress_mm : UInt32

structure NanRangeResponseCfg where
  publish_id : UInt16
  requestor_instance_id : UInt32
  peer_addr : ℕ → UInt8
  ranging_response : UInt16

/-- What publish and subscribe requests have in common. -/
structure NanServiceRequest where
  ttl : UInt16
  period : UInt16
  rssi_threshold_flag : UInt8
  connmap : UInt8
  recv_indication_cfg : UInt8
  service_name_len : UInt16
  service_name : ℕ → UInt8
  service_specific_info_len : UInt16
  service_specific_info : ℕ → UInt8
  rx_match_filter_len : UInt16
  rx_match_filter : ℕ → UInt8
  tx_match_filter_len : UInt16
  tx_match_filter : ℕ → UInt8
  cipher_type : UInt32
  key_info : NanSecurityKeyInfo
  sdea_params : NanSdeaCtrlParams
  ranging_cfg : NanRangingCfg
  range_response_cfg : NanRangeResponseCfg
  sdea_service_specific_info_len : UInt16
  sdea_service_specific_info : ℕ → UInt8

structure NanPublishRequest extends NanServiceRequest where
  publish_id : UInt16
  publish_type : UInt32
  tx_type : UInt32
  publish_count : UInt8
  publish_match_indicator : UInt32
  service_responder_policy : UInt32

structure NanSubscribeRequest extends NanServiceRequest where
  subscribe_id : UInt16
  subscribe_type : UInt32
  serviceResponseFilter : UInt32
  serviceResponseInclude : UInt32
  useServiceResponseFilter : UInt32
  ssiRequiredForMatchIndication : UInt32
  subscribe_match_indicator : UInt32
  subscribe_count : UInt8
  num_intf_addr_present : UInt8
  intf_addr : ℕ → ℕ → UInt8

structure NanTransmitFollowupRequest where
  publish_subscribe_id : UInt16
  requestor_instance_id : UInt32
  addr : ℕ → UInt8
  priority : UInt32
  dw_or_faw : UInt32
  service_specific_info_len : UInt16
  service_specific_info : ℕ → UInt8
  recv_indication_cfg : UInt8
  sdea_service_specific_info_len : UInt16
  sdea_service_specific_info : ℕ → UInt8

end FrameworkRecords

section Values

/-- A byte used as a truth value. -/
def isSet (flag : UInt8) : Bool := flag ≠ 0

/-- The bytes of an object, read through a `u8` pointer. -/
def bytesOf (list : List UInt8) : Bytes := fun i ↦ list.getD i 0

def ofU8 (value : UInt8) : Bytes := bytesOf [value]
def ofU16 (value : UInt16) : Bytes := bytesOf (le16 value.toNat)
def ofU32 (value : UInt32) : Bytes := bytesOf (le32 value.toNat)

/-- Bit-fields of one unit, each with its width, from the lowest bit on. -/
def packBits : List (ℕ × ℕ) → ℕ
  | [] => 0
  | (width, value) :: rest => value % 2 ^ width + 2 ^ width * packBits rest

/-- `(x & mask) ? 1 : 0`. -/
def bitIf (x mask : ℕ) : ℕ := if x &&& mask ≠ 0 then 1 else 0

/-- The parameter words of `fillNanSocialChannelParamVal`. -/
def socialChannelParamVal (pScanParams : NanSocialChannelScanParams) (i : ℕ) : UInt32 :=
  (pScanParams.scan_period i).toUInt32 <<< 16 ||| (pScanParams.dwell_time i).toUInt32 <<< 8 |||
    (if i = 0 then 6 else if i = 1 then 44 else if i = 2 then 149 else 0)

def getNanTransmitPostConnectivityCapabilityVal
    (pCapab : NanTransmitPostConnectivityCapability) : UInt32 :=
  UInt32.ofNat (packBits
    [(1, (isSet pCapab.is_wfd_supported).toNat), (1, (isSet pCapab.is_wfds_supported).toNat),
      (1, (isSet pCapab.is_tdls_supported).toNat), (1, (isSet pCapab.wlan_infra_field).toNat),
      (1, (isSet pCapab.is_ibss_supported).toNat), (1, (isSet pCapab.is_mesh_supported).toNat),
      (10, 0), (1, (isSet pCapab.payload_transmit_flag).toNat)])

def nanDevCapAttrCap (use_ndpe_attr : UInt32) : List UInt8 :=
  le32 (packBits [(3, 0), (1, use_ndpe_attr.toNat), (28, 0)])

/-- `NanFWSdeaCtrlParams`, with the bit of the range report as the request computes it. -/
def nanFWSdeaCtrlParams (sdea_params : NanSdeaCtrlParams) (range_report : ℕ) : List UInt8 :=
  le32 (packBits
    [(2, 0), (1, (isSet sdea_params.config_nan_data_path).toNat),
      (1, if isSet sdea_params.config_nan_data_path then bitIf sdea_params.ndp_type.toNat 1 else 0),
      (1, 0), (1, sdea_params.qos_cfg.toNat), (1, sdea_params.security_cfg.toNat),
      (1, sdea_params.ranging_state.toNat), (8, 0), (1, range_report), (15, 0)])

def nanFWRangeConfigParams (ranging_cfg : NanRangingCfg) : List UInt8 :=
  le32 0 ++ le32 ranging_cfg.ranging_interval_msec.toNat ++
    le32 ranging_cfg.config_ranging_indications.toNat ++
    le32 (if ranging_cfg.config_ranging_indications &&& nanRangingIndicateIngressMetMask ≠ 0 then
      ranging_cfg.distance_ingress_mm.toNat else 0) ++
    le32 (if ranging_cfg.config_ranging_indications &&& nanRangingIndicateEgressMetMask ≠ 0 then
      ranging_cfg.distance_egress_mm.toNat else 0)

def nanFWRangeReqMsg (range_id : ℕ) (range_response_cfg : NanRangeResponseCfg) : List UInt8 :=
  bytesAt range_response_cfg.peer_addr nanMacAddrLen ++ [0, 0] ++ le32 range_id ++
    le32 (packBits
      [(1, if range_response_cfg.ranging_response = nanRangeRequestAccept then 1 else 0),
        (1, if range_response_cfg.ranging_response = nanRangeRequestReject then 1 else 0),
        (1, if range_response_cfg.ranging_response = nanRangeRequestCancel then 1 else 0), (29, 0)])

end Values

section InPlace

def calcNanTransmitPostDiscoverySize (pPostDiscovery : NanTransmitPostDiscovery) : ℕ :=
  4 + 4 + (sizeofTlvHdr + nanMacAddrLen) +
    (if pPostDiscovery.type = nanConnWlanMesh then
      sizeofTlvHdr + pPostDiscovery.mesh_id_len.toNat else 0) +
    (if pPostDiscovery.type = nanConnWlanInfra then
      sizeofTlvHdr + pPostDiscovery.infrastructure_ssid_len.toNat else 0)

/-- The byte after the duration is not written. -/
def fillNanTransmitPostDiscoveryVal (pTxDisc : NanTransmitPostDiscovery) (pOutValue : ℕ)
    (buffer : ByteWriter) : ByteWriter :=
  let buffer := buffer.store pOutValue (UInt8.ofNat pTxDisc.type.toNat)
  let buffer := buffer.store (pOutValue + 1) (UInt8.ofNat pTxDisc.role.toNat)
  let buffer := buffer.store (pOutValue + 2) (if isSet pTxDisc.transmit_freq then 1 else 0)
  let buffer := buffer.store (pOutValue + 2)
    (buffer.bytes (pOutValue + 2) ||| UInt8.ofNat ((pTxDisc.duration &&& 3) <<< 1).toNat)
  let buffer := buffer.storeAll (pOutValue + 4) (le32 pTxDisc.avail_interval_bitmap.toNat)
  let tlvs := addTlv nanTlvTypeMacAddress nanMacAddrLen (fun _ ↦ pTxDisc.addr)
    { buffer with pos := pOutValue + 8 }
  let tlvs :=
    if pTxDisc.type = nanConnWlanMesh then
      addTlv nanTlvTypeWlanMeshId pTxDisc.mesh_id_len.toNat (fun _ ↦ pTxDisc.mesh_id) tlvs
    else tlvs
  let tlvs :=
    if pTxDisc.type = nanConnWlanInfra then
      addTlv nanTlvTypeWlanInfraSsid pTxDisc.infrastructure_ssid_len.toNat
        (fun _ ↦ pTxDisc.infrastructure_ssid_val) tlvs
    else tlvs
  { tlvs with pos := buffer.pos }

def sizeofFurtherAvailabilityChan : ℕ := 7

def calcNanFurtherAvailabilityMapSize (pFam : NanFurtherAvailabilityMap) : ℕ :=
  if pFam.numchans ≠ 0 ∧ pFam.numchans.toNat ≤ nanMaxFamChannels then
    1 + pFam.numchans.toNat * sizeofFurtherAvailabilityChan
  else 0

def furtherAvailabilityChan (pFamChan : NanFurtherAvailabilityChannel) : List UInt8 :=
  [UInt8.ofNat (packBits [(2, pFamChan.entry_control.toNat), (4, pFamChan.mapid.toNat), (2, 0)]),
    pFamChan.class_val, pFamChan.channel] ++ le32 pFamChan.avail_interval_bitmap.toNat

def fillNanFurtherAvailabilityMapVal (pFam : NanFurtherAvailabilityMap) (pOutValue : ℕ)
    (buffer : ByteWriter) : ByteWriter :=
  let buffer := buffer.storeAll pOutValue
    (List.replicate (calcNanFurtherAvailabilityMapSize pFam) 0)
  let buffer := buffer.store pOutValue pFam.numchans
  (List.range pFam.numchans.toNat).foldl
    (fun buffer idx ↦
      buffer.storeAll (pOutValue + 1 + idx * sizeofFurtherAvailabilityChan)
        (furtherAvailabilityChan (pFam.famchan idx)))
    buffer

end InPlace

section Messages

/-- A statement of a put function that writes a TLV. -/
inductive TlvWrite where
  /-- `if (present) tlvs = addTlv(type, length, value, tlvs);` -/
  | add (present : Bool) (type length : ℕ) (value : Bytes)
  /-- The attribute is filled in behind the header that is still to come. -/
  | postDiscovery (pTxDisc : NanTransmitPostDiscovery)
  | furtherAvailabilityMap (present : Bool) (pFam : NanFurtherAvailabilityMap)

def TlvWrite.run : TlvWrite → ByteWriter → ByteWriter
  | .add present type length value, tlvs =>
      if present then addTlv type length (fun _ ↦ value) tlvs else tlvs
  | .postDiscovery pTxDisc, tlvs =>
      addTlv nanTlvTypePostNanDiscoveryAttributeTransmit (calcNanTransmitPostDiscoverySize pTxDisc)
        (fun bytes i ↦ bytes (tlvs.pos + sizeofTlvHdr + i))
        (fillNanTransmitPostDiscoveryVal pTxDisc (tlvs.pos + sizeofTlvHdr) tlvs)
  | .furtherAvailabilityMap present pFam, tlvs =>
      if present ∧ calcNanFurtherAvailabilityMapSize pFam ≠ 0 then
        addTlv nanTlvTypeFurtherAvailabilityMap (calcNanFurtherAvailabilityMapSize pFam)
          (fun bytes i ↦ bytes (tlvs.pos + sizeofTlvHdr + i))
          (fillNanFurtherAvailabilityMapVal pFam (tlvs.pos + sizeofTlvHdr) tlvs)
      else tlvs

/-- A term of the sum: `present ? SIZEOF_TLV_HDR + size : 0`. -/
def tlvLen (present : Bool) (size : ℕ) : ℕ := if present then sizeofTlvHdr + size else 0

/-- What the environment answers: whether there is memory and what it holds, and what `put_bytes`
returns. -/
structure PutEnv where
  malloc : Bool
  heap : Bytes
  put_bytes : WifiError

/-- The message in `mVendorData` with its `mDataLen`, which is also the size allocated. -/
structure NanMessage where
  message_len : ℕ
  buffer : ByteWriter

def nanMsgHeader (msgId message_len : ℕ) (handle transactionId : UInt16) : List UInt8 :=
  le16 (packBits [(4, 1), (12, msgId)]) ++ le16 message_len ++ le16 handle.toNat ++
    le16 transactionId.toNat

/-- Memory of `message_len` zero bytes in which the fixed part is filled in. -/
def startMessage (heap : Bytes) (message_len : ℕ) (fixed : List UInt8) : ByteWriter where
  bytes k := if k < fixed.length then fixed.getD k 0 else if k < message_len then 0 else heap k
  pos := fixed.length
  written := fixed.length

/-- What every put function does with its length, its fixed part and its statements. -/
def putMessage (env : PutEnv) (message_len : ℕ) (fixed : List UInt8) (writes : List TlvWrite) :
    Except WifiError NanMessage :=
  if env.malloc then
    let buffer := writes.foldl (fun tlvs write ↦ write.run tlvs)
      (startMessage env.heap message_len fixed)
    if env.put_bytes = .success then .ok ⟨message_len, buffer⟩ else .error env.put_bytes
  else .error .outOfMemory

end Messages

end HardwareMediatek.Wifi
