import HardwareMediatek.Wifi.NanRequests

/-!
# The put functions of NAN requests

For each request: the sum that becomes `message_len`, in the order of the source, and the TLVs that are
then written, in the order of their statements.
-/

namespace HardwareMediatek.Wifi

open Foundation

section Enable

/-- `NAN_MAX_ENABLE_REQ_SIZE`: the header and the three TLVs that every request has. -/
def nanMaxEnableReqSize : ℕ :=
  sizeofNanMsgHeader + (sizeofTlvHdr + 2) + (sizeofTlvHdr + 2) + (sizeofTlvHdr + 1)

/-- A social channel parameter for each of the social channels. -/
def socialChannelTlvs (config_scan_params : UInt8) (scan_params_val : NanSocialChannelScanParams) :
    List TlvWrite :=
  (List.range nanMaxSocialChannels).map fun i ↦
    .add (isSet config_scan_params) nanTlvTypeSocialChannelScanParams 4
      (ofU32 (socialChannelParamVal scan_params_val i))

def NanEnableRequest.messageLen (pReq : NanEnableRequest) : ℕ :=
  nanMaxEnableReqSize +
    [tlvLen (isSet pReq.config_support_5g) 1,
      tlvLen (isSet pReq.config_sid_beacon) 1,
      tlvLen (isSet pReq.config_2dot4g_rssi_close) 1,
      tlvLen (isSet pReq.config_2dot4g_rssi_middle) 1,
      tlvLen (isSet pReq.config_hop_count_limit) 1,
      tlvLen (isSet pReq.config_2dot4g_support) 1,
      tlvLen (isSet pReq.config_2dot4g_beacons) 1,
      tlvLen (isSet pReq.config_2dot4g_sdf) 1,
      tlvLen (isSet pReq.config_5g_beacons) 1,
      tlvLen (isSet pReq.config_5g_sdf) 1,
      tlvLen (isSet pReq.config_5g_rssi_close) 1,
      tlvLen (isSet pReq.config_5g_rssi_middle) 1,
      tlvLen (isSet pReq.config_2dot4g_rssi_proximity) 1,
      tlvLen (isSet pReq.config_5g_rssi_close_proximity) 1,
      tlvLen (isSet pReq.config_rssi_window_size) 2,
      tlvLen (isSet pReq.config_oui) 4,
      tlvLen (isSet pReq.config_intf_addr) nanMacAddrLen,
      tlvLen (isSet pReq.config_cluster_attribute_val) 1,
      (if isSet pReq.config_scan_params then nanMaxSocialChannels * (sizeofTlvHdr + 4) else 0),
      tlvLen (isSet pReq.config_random_factor_force) 1,
      tlvLen (isSet pReq.config_hop_count_force) 1,
      tlvLen (isSet pReq.config_24g_channel) 4,
      tlvLen (isSet pReq.config_5g_channel) 4,
      tlvLen (isSet pReq.config_dw.config_2dot4g_dw_band) 4,
      tlvLen (isSet pReq.config_dw.config_5g_dw_band) 4,
      tlvLen (isSet pReq.config_disc_mac_addr_randomization) 4,
      (sizeofTlvHdr + 4),
      tlvLen (isSet pReq.config_subscribe_sid_beacon) 4,
      tlvLen (isSet pReq.config_discovery_beacon_int) 4,
      tlvLen (isSet pReq.config_nss) 4,
      tlvLen (isSet pReq.config_enable_ranging) 4,
      tlvLen (isSet pReq.config_dw_early_termination) 4,
      tlvLen (isSet pReq.config_ndpe_attr) 4].sum

/-- The statements before the loop over the social channels. -/
def NanEnableRequest.firstTlvs (pReq : NanEnableRequest) : List TlvWrite :=
  [.add true nanTlvTypeClusterIdLow 2 (ofU16 pReq.cluster_low),
    .add true nanTlvTypeClusterIdHigh 2 (ofU16 pReq.cluster_high),
    .add true nanTlvTypeMasterPreference 1 (ofU8 pReq.master_pref),
    .add (isSet pReq.config_support_5g) nanTlvType5gSupport 1 (ofU8 pReq.support_5g_val),
    .add (isSet pReq.config_sid_beacon) nanTlvTypeSidBeacon 1 (ofU8 pReq.sid_beacon_val),
    .add (isSet pReq.config_2dot4g_rssi_close) nanTlvType24gRssiClose 1
      (ofU8 pReq.rssi_close_2dot4g_val),
    .add (isSet pReq.config_2dot4g_rssi_middle) nanTlvType24gRssiMiddle 1
      (ofU8 pReq.rssi_middle_2dot4g_val),
    .add (isSet pReq.config_hop_count_limit) nanTlvTypeHopCountLimit 1
      (ofU8 pReq.hop_count_limit_val),
    .add (isSet pReq.config_2dot4g_support) nanTlvType24gSupport 1 (ofU8 pReq.support_2dot4g_val),
    .add (isSet pReq.config_2dot4g_beacons) nanTlvType24gBeacon 1 (ofU8 pReq.beacon_2dot4g_val),
    .add (isSet pReq.config_2dot4g_sdf) nanTlvType24gSdf 1 (ofU8 pReq.sdf_2dot4g_val),
    .add (isSet pReq.config_5g_beacons) nanTlvType5gBeacon 1 (ofU8 pReq.beacon_5g_val),
    .add (isSet pReq.config_5g_sdf) nanTlvType5gSdf 1 (ofU8 pReq.sdf_5g_val),
    .add (isSet pReq.config_2dot4g_rssi_proximity) nanTlvType24gRssiCloseProximity 1
      (ofU8 pReq.rssi_proximity_2dot4g_val),
    .add (isSet pReq.config_5g_rssi_close) nanTlvType5gRssiClose 1 (ofU8 pReq.rssi_close_5g_val),
    .add (isSet pReq.config_5g_rssi_middle) nanTlvType5gRssiMiddle 1
      (ofU8 pReq.rssi_middle_5g_val),
    .add (isSet pReq.config_5g_rssi_close_proximity) nanTlvType5gRssiCloseProximity 1
      (ofU8 pReq.rssi_close_proximity_5g_val),
    .add (isSet pReq.config_rssi_window_size) nanTlvTypeRssiAveragingWindowSize 2
      (ofU16 pReq.rssi_window_size_val),
    .add (isSet pReq.config_oui) nanTlvTypeClusterOuiNetworkId 4 (ofU32 pReq.oui_val),
    .add (isSet pReq.config_intf_addr) nanTlvTypeSourceMacAddress nanMacAddrLen
      pReq.intf_addr_val,
    .add (isSet pReq.config_cluster_attribute_val) nanTlvTypeClusterAttributeInSdf 1
      (ofU8 pReq.config_cluster_attribute_val)]

/-- The statements behind it. -/
def NanEnableRequest.lastTlvs (pReq : NanEnableRequest) : List TlvWrite :=
  [.add (isSet pReq.config_random_factor_force) nanTlvTypeRandomFactorForce 1
      (ofU8 pReq.random_factor_force_val),
    .add (isSet pReq.config_hop_count_force) nanTlvTypeHopCountForce 1
      (ofU8 pReq.hop_count_force_val),
    .add (isSet pReq.config_24g_channel) nanTlvType24gChannel 4 (ofU32 pReq.channel_24g_val),
    .add (isSet pReq.config_5g_channel) nanTlvType5gChannel 4 (ofU32 pReq.channel_5g_val),
    .add (isSet pReq.config_dw.config_2dot4g_dw_band) nanTlvType2gCommittedDw 4
      (ofU32 pReq.config_dw.dw_2dot4g_interval_val),
    .add (isSet pReq.config_dw.config_5g_dw_band) nanTlvType5gCommittedDw 4
      (ofU32 pReq.config_dw.dw_5g_interval_val),
    .add (isSet pReq.config_disc_mac_addr_randomization) nanTlvTypeDiscMacAddrRandomInterval 4
      (ofU32 pReq.disc_mac_addr_rand_interval_sec),
    .add true nanTlvTypeConfigDiscoveryIndications 4
      (ofU32 pReq.discovery_indication_cfg.toUInt32),
    .add (isSet pReq.config_subscribe_sid_beacon) nanTlvTypeSubscribeSidBeacon 4
      (ofU32 pReq.subscribe_sid_beacon_val),
    .add (isSet pReq.config_discovery_beacon_int) nanTlvTypeDbInterval 4
      (ofU32 pReq.discovery_beacon_interval),
    .add (isSet pReq.config_nss) nanTlvTypeTxRxChains 4 (ofU32 pReq.nss),
    .add (isSet pReq.config_enable_ranging) nanTlvTypeEnableDeviceRanging 4
      (ofU32 pReq.enable_ranging),
    .add (isSet pReq.config_dw_early_termination) nanTlvTypeDwEarlyTermination 4
      (ofU32 pReq.enable_dw_termination),
    .add (isSet pReq.config_ndpe_attr) nanTlvTypeDevCapAttrCapability 4
      (bytesOf (nanDevCapAttrCap pReq.use_ndpe_attr))]

def NanEnableRequest.tlvs (pReq : NanEnableRequest) : List TlvWrite :=
  pReq.firstTlvs ++ socialChannelTlvs pReq.config_scan_params pReq.scan_params_val ++ pReq.lastTlvs

def putNanEnable (env : PutEnv) (id : UInt16) (pReq : Option NanEnableRequest) :
    Except WifiError NanMessage :=
  match pReq with
  | none => .error .invalidArgs
  | some pReq =>
    putMessage env pReq.messageLen (nanMsgHeader nanMsgIdEnableReq pReq.messageLen 0 id) pReq.tlvs

end Enable

section Config

def NanConfigRequest.discoveryAttrs (pReq : NanConfigRequest) : List NanTransmitPostDiscovery :=
  (List.range pReq.num_config_discovery_attr.toNat).map pReq.discovery_attr_val

/-- The first sum, of TLVs that have a fixed size. -/
def NanConfigRequest.fixedLens (pReq : NanConfigRequest) : ℕ :=
  [tlvLen (isSet pReq.config_sid_beacon) 1,
    tlvLen (isSet pReq.config_master_pref) 1,
    tlvLen (isSet pReq.config_rssi_proximity) 1,
    tlvLen (isSet pReq.config_5g_rssi_close_proximity) 1,
    tlvLen (isSet pReq.config_rssi_window_size) 2,
    tlvLen (isSet pReq.config_cluster_attribute_val) 1,
    (if isSet pReq.config_scan_params then nanMaxSocialChannels * (sizeofTlvHdr + 4) else 0),
    tlvLen (isSet pReq.config_random_factor_force) 1,
    tlvLen (isSet pReq.config_hop_count_force) 1,
    tlvLen (isSet pReq.config_conn_capability) 4,
    tlvLen (isSet pReq.config_dw.config_2dot4g_dw_band) 4,
    tlvLen (isSet pReq.config_dw.config_5g_dw_band) 4,
    tlvLen (isSet pReq.config_disc_mac_addr_randomization) 4,
    tlvLen (isSet pReq.config_subscribe_sid_beacon) 4,
    (sizeofTlvHdr + 4),
    tlvLen (isSet pReq.config_discovery_beacon_int) 4,
    tlvLen (isSet pReq.config_nss) 4,
    tlvLen (isSet pReq.config_enable_ranging) 4,
    tlvLen (isSet pReq.config_dw_early_termination) 4,
    tlvLen (isSet pReq.config_ndpe_attr) 4].sum

def NanConfigRequest.messageLen (pReq : NanConfigRequest) : ℕ :=
  let message_len := sizeofNanMsgHeader + pReq.fixedLens
  let message_len := pReq.discoveryAttrs.foldl
    (fun message_len attr ↦ message_len + (sizeofTlvHdr + calcNanTransmitPostDiscoverySize attr))
    message_len
  if isSet pReq.config_fam ∧ calcNanFurtherAvailabilityMapSize pReq.fam_val ≠ 0 then
    message_len + (sizeofTlvHdr + calcNanFurtherAvailabilityMapSize pReq.fam_val)
  else message_len

/-- The statements before the loop over the social channels. -/
def NanConfigRequest.firstTlvs (pReq : NanConfigRequest) : List TlvWrite :=
  [.add (isSet pReq.config_sid_beacon) nanTlvTypeSidBeacon 1 (ofU8 pReq.sid_beacon),
    .add (isSet pReq.config_master_pref) nanTlvTypeMasterPreference 1 (ofU8 pReq.master_pref),
    .add (isSet pReq.config_rssi_window_size) nanTlvTypeRssiAveragingWindowSize 2
      (ofU16 pReq.rssi_window_size_val),
    .add (isSet pReq.config_rssi_proximity) nanTlvType24gRssiCloseProximity 1
      (ofU8 pReq.rssi_proximity),
    .add (isSet pReq.config_5g_rssi_close_proximity) nanTlvType5gRssiCloseProximity 1
      (ofU8 pReq.rssi_close_proximity_5g_val),
    .add (isSet pReq.config_cluster_attribute_val) nanTlvTypeClusterAttributeInSdf 1
      (ofU8 pReq.config_cluster_attribute_val)]

/-- Those up to the loop over the discovery attributes. -/
def NanConfigRequest.forceTlvs (pReq : NanConfigRequest) : List TlvWrite :=
  [.add (isSet pReq.config_random_factor_force) nanTlvTypeRandomFactorForce 1
      (ofU8 pReq.random_factor_force_val),
    .add (isSet pReq.config_hop_count_force) nanTlvTypeHopCountForce 1
      (ofU8 pReq.hop_count_force_val),
    .add (isSet pReq.config_conn_capability) nanTlvTypePostNanConnectivityCapabilitiesTransmit 4
      (ofU32 (getNanTransmitPostConnectivityCapabilityVal pReq.conn_capability_val))]

/-- The statements behind both loops. -/
def NanConfigRequest.lastTlvs (pReq : NanConfigRequest) : List TlvWrite :=
  [.furtherAvailabilityMap (isSet pReq.config_fam) pReq.fam_val,
    .add (isSet pReq.config_dw.config_2dot4g_dw_band) nanTlvType2gCommittedDw 4
      (ofU32 pReq.config_dw.dw_2dot4g_interval_val),
    .add (isSet pReq.config_dw.config_5g_dw_band) nanTlvType5gCommittedDw 4
      (ofU32 pReq.config_dw.dw_5g_interval_val),
    .add (isSet pReq.config_disc_mac_addr_randomization) nanTlvTypeDiscMacAddrRandomInterval 4
      (ofU32 pReq.disc_mac_addr_rand_interval_sec),
    .add (isSet pReq.config_subscribe_sid_beacon) nanTlvTypeSubscribeSidBeacon 4
      (ofU32 pReq.subscribe_sid_beacon_val),
    .add (isSet pReq.config_discovery_beacon_int) nanTlvTypeDbInterval 4
      (ofU32 pReq.discovery_beacon_interval),
    .add true nanTlvTypeConfigDiscoveryIndications 4
      (ofU32 pReq.discovery_indication_cfg.toUInt32),
    .add (isSet pReq.config_nss) nanTlvTypeTxRxChains 4 (ofU32 pReq.nss),
    .add (isSet pReq.config_enable_ranging) nanTlvTypeEnableDeviceRanging 4
      (ofU32 pReq.enable_ranging),
    .add (isSet pReq.config_dw_early_termination) nanTlvTypeDwEarlyTermination 4
      (ofU32 pReq.enable_dw_termination),
    .add (isSet pReq.config_ndpe_attr) nanTlvTypeDevCapAttrCapability 4
      (bytesOf (nanDevCapAttrCap pReq.use_ndpe_attr))]

def NanConfigRequest.tlvs (pReq : NanConfigRequest) : List TlvWrite :=
  pReq.firstTlvs ++ socialChannelTlvs pReq.config_scan_params pReq.scan_params_val ++
    pReq.forceTlvs ++ pReq.discoveryAttrs.map TlvWrite.postDiscovery ++ pReq.lastTlvs

def putNanConfig (env : PutEnv) (id : UInt16) (pReq : Option NanConfigRequest) :
    Except WifiError NanMessage :=
  match pReq with
  | none => .error .invalidArgs
  | some pReq =>
    if nanMaxPostdiscoveryLen < pReq.num_config_discovery_attr.toNat then .error .invalidArgs
    else
      putMessage env pReq.messageLen (nanMsgHeader nanMsgIdConfigurationReq pReq.messageLen 0 id)
        pReq.tlvs

end Config

section Services

/-- A field with its length in front: nothing is sent of an empty one. -/
def arrayTlv (type : ℕ) (len : UInt16) (data : Bytes) : TlvWrite :=
  .add (len ≠ 0) type len.toNat data

def arrayLen (len : UInt16) : ℕ := tlvLen (len ≠ 0) len.toNat

/-- `if (a PMK of the right length) … else if (a passphrase of a length in range) …`. -/
def keyInfoLen (key_info : NanSecurityKeyInfo) : ℕ :=
  if key_info.key_type = nanSecurityKeyInputPmk ∧ key_info.pmk_len = nanPmkInfoLen then
    sizeofTlvHdr + nanPmkInfoLen.toNat
  else if key_info.key_type = nanSecurityKeyInputPassphrase ∧
      nanSecurityMinPassphraseLen ≤ key_info.passphrase_len ∧
      key_info.passphrase_len ≤ nanSecurityMaxPassphraseLen then
    sizeofTlvHdr + key_info.passphrase_len.toNat
  else 0

def keyInfoTlvs (key_info : NanSecurityKeyInfo) : List TlvWrite :=
  if key_info.key_type = nanSecurityKeyInputPmk ∧ key_info.pmk_len = nanPmkInfoLen then
    [.add true nanTlvTypeNanPmk key_info.pmk_len.toNat key_info.key]
  else if key_info.key_type = nanSecurityKeyInputPassphrase ∧
      nanSecurityMinPassphraseLen ≤ key_info.passphrase_len ∧
      key_info.passphrase_len ≤ nanSecurityMaxPassphraseLen then
    [.add true nanTlvTypeNanPassphrase key_info.passphrase_len.toNat key_info.key]
  else []

def NanSdeaCtrlParams.present (sdea_params : NanSdeaCtrlParams) : Bool :=
  isSet sdea_params.config_nan_data_path ∨ sdea_params.security_cfg ≠ 0 ∨
    sdea_params.ranging_state ≠ 0 ∨ sdea_params.range_report ≠ 0 ∨ sdea_params.qos_cfg ≠ 0

def NanRangingCfg.present (ranging_cfg : NanRangingCfg) : Bool :=
  ranging_cfg.ranging_interval_msec ≠ 0 ∨ ranging_cfg.config_ranging_indications ≠ 0 ∨
    ranging_cfg.distance_ingress_mm ≠ 0 ∨ ranging_cfg.distance_egress_mm ≠ 0

/-- Name, information and the two match filters. -/
def serviceTlvs (pReq : NanServiceRequest) : List TlvWrite :=
  [arrayTlv nanTlvTypeServiceName pReq.service_name_len pReq.service_name,
    arrayTlv nanTlvTypeServiceSpecificInfo pReq.service_specific_info_len
      pReq.service_specific_info,
    arrayTlv nanTlvTypeRxMatchFilter pReq.rx_match_filter_len pReq.rx_match_filter,
    arrayTlv nanTlvTypeTxMatchFilter pReq.tx_match_filter_len pReq.tx_match_filter]

def csidTlv (pReq : NanServiceRequest) : TlvWrite :=
  .add (pReq.cipher_type ≠ 0) nanTlvTypeNanCsid 4 (ofU32 pReq.cipher_type)

/-- Control parameters, with the range report bit of the request, ranging and extended information. -/
def extendedTlvs (pReq : NanServiceRequest) (range_report : ℕ) : List TlvWrite :=
  [.add pReq.sdea_params.present nanTlvTypeSdeaCtrlParams 4
      (bytesOf (nanFWSdeaCtrlParams pReq.sdea_params range_report)),
    .add pReq.ranging_cfg.present nanTlvTypeNanRangingCfg 20
      (bytesOf (nanFWRangeConfigParams pReq.ranging_cfg)),
    arrayTlv nanTlvTypeSdeaServiceSpecificInfo pReq.sdea_service_specific_info_len
      pReq.sdea_service_specific_info]

end Services

section Publish

/-- Whether the request answers a ranging request. -/
def NanPublishRequest.respondsToRange (pReq : NanPublishRequest) : Bool :=
  pReq.range_response_cfg.publish_id ≠ 0 ∨
    nanRangeRequestAccept ≤ pReq.range_response_cfg.ranging_response

def NanPublishRequest.messageLen (pReq : NanPublishRequest) : ℕ :=
  sizeofNanMsgHeader + 8 +
    arrayLen pReq.service_name_len +
    arrayLen pReq.service_specific_info_len +
    arrayLen pReq.rx_match_filter_len +
    arrayLen pReq.tx_match_filter_len +
    (sizeofTlvHdr + 4) +
    tlvLen (pReq.cipher_type ≠ 0) 4 +
    tlvLen pReq.sdea_params.present 4 +
    tlvLen pReq.ranging_cfg.present 20 +
    tlvLen pReq.respondsToRange 16 +
    arrayLen pReq.sdea_service_specific_info_len +
    keyInfoLen pReq.key_info

def NanPublishRequest.tlvs (pReq : NanPublishRequest) : List TlvWrite :=
  serviceTlvs pReq.toNanServiceRequest ++
  [.add true nanTlvTypeNanServiceAcceptPolicy 4 (ofU32 pReq.service_responder_policy),
    csidTlv pReq.toNanServiceRequest] ++
  keyInfoTlvs pReq.key_info ++
  extendedTlvs pReq.toNanServiceRequest
    (bitIf pReq.sdea_params.range_report.toNat nanEnableRangeReport.toNat) ++
  [.add pReq.respondsToRange nanTlvTypeNan20RangingRequest 16
      (bytesOf (nanFWRangeReqMsg pReq.range_response_cfg.publish_id.toNat
        pReq.range_response_cfg))]

/-- `NanPublishServiceReqParams`. -/
def NanPublishRequest.params (pReq : NanPublishRequest) : List UInt8 :=
  le16 pReq.ttl.toNat ++ le16 pReq.period.toNat ++
    le32 (packBits
      [(1, 1 - bitIf pReq.recv_indication_cfg.toNat 8), (2, pReq.publish_type.toNat),
        (1, pReq.tx_type.toNat), (1, pReq.rssi_threshold_flag.toNat), (1, 0),
        (2, pReq.publish_match_indicator.toNat), (8, pReq.publish_count.toNat),
        (8, pReq.connmap.toNat), (1, bitIf pReq.recv_indication_cfg.toNat 1),
        (1, bitIf pReq.recv_indication_cfg.toNat 2), (1, bitIf pReq.recv_indication_cfg.toNat 4),
        (5, 0)])

def putNanPublish (env : PutEnv) (id : UInt16) (pReq : Option NanPublishRequest) :
    Except WifiError NanMessage :=
  match pReq with
  | none => .error .invalidArgs
  | some pReq =>
    putMessage env pReq.messageLen
      (nanMsgHeader nanMsgIdPublishServiceReq pReq.messageLen
        (if pReq.publish_id = 0 then 0xFFFF else pReq.publish_id) id ++ pReq.params)
      pReq.tlvs

end Publish

section Subscribe

/-- The sum asks for a response that is not zero, the statement for one from `ACCEPT` on. -/
def NanSubscribeRequest.messageLen (pReq : NanSubscribeRequest) : ℕ :=
  sizeofNanMsgHeader + 8 +
    arrayLen pReq.service_name_len +
    arrayLen pReq.service_specific_info_len +
    arrayLen pReq.rx_match_filter_len +
    arrayLen pReq.tx_match_filter_len +
    tlvLen (pReq.cipher_type ≠ 0) 4 +
    tlvLen pReq.sdea_params.present 4 +
    tlvLen pReq.ranging_cfg.present 20 +
    tlvLen (pReq.range_response_cfg.requestor_instance_id ≠ 0 ∨
      pReq.range_response_cfg.ranging_response ≠ 0) 16 +
    arrayLen pReq.sdea_service_specific_info_len +
    pReq.num_intf_addr_present.toNat * (sizeofTlvHdr + nanMacAddrLen) +
    keyInfoLen pReq.key_info

def NanSubscribeRequest.addressTlvs (pReq : NanSubscribeRequest) : List TlvWrite :=
  (List.range pReq.num_intf_addr_present.toNat).map fun i ↦
    .add true nanTlvTypeMacAddress nanMacAddrLen (pReq.intf_addr i)

def NanSubscribeRequest.tlvs (pReq : NanSubscribeRequest) : List TlvWrite :=
  serviceTlvs pReq.toNanServiceRequest ++
  pReq.addressTlvs ++
  [csidTlv pReq.toNanServiceRequest] ++
  keyInfoTlvs pReq.key_info ++
  extendedTlvs pReq.toNanServiceRequest
    (bitIf pReq.sdea_params.range_report.toNat (nanEnableRangeReport >>> 1).toNat) ++
  [.add (pReq.range_response_cfg.requestor_instance_id ≠ 0 ∨
        nanRangeRequestAccept ≤ pReq.range_response_cfg.ranging_response)
      nanTlvTypeNan20RangingRequest 16
      (bytesOf (nanFWRangeReqMsg pReq.range_response_cfg.requestor_instance_id.toNat
        pReq.range_response_cfg))]

/-- `NanSubscribeServiceReqParams`. -/
def NanSubscribeRequest.params (pReq : NanSubscribeRequest) : List UInt8 :=
  le16 pReq.ttl.toNat ++ le16 pReq.period.toNat ++
    le32 (packBits
      [(1, pReq.subscribe_type.toNat), (1, pReq.serviceResponseFilter.toNat),
        (1, pReq.serviceResponseInclude.toNat), (1, pReq.useServiceResponseFilter.toNat),
        (1, pReq.ssiRequiredForMatchIndication.toNat), (2, pReq.subscribe_match_indicator.toNat),
        (1, 0), (8, pReq.subscribe_count.toNat), (1, pReq.rssi_threshold_flag.toNat), (1, 0),
        (1, bitIf pReq.recv_indication_cfg.toNat 1), (1, bitIf pReq.recv_indication_cfg.toNat 2),
        (1, bitIf pReq.recv_indication_cfg.toNat 4), (3, 0), (8, pReq.connmap.toNat)])

def putNanSubscribe (env : PutEnv) (id : UInt16) (pReq : Option NanSubscribeRequest) :
    Except WifiError NanMessage :=
  match pReq with
  | none => .error .invalidArgs
  | some pReq =>
    putMessage env pReq.messageLen
      (nanMsgHeader nanMsgIdSubscribeServiceReq pReq.messageLen
        (if pReq.subscribe_id = 0 then 0xFFFF else pReq.subscribe_id) id ++ pReq.params)
      pReq.tlvs

end Subscribe

section TransmitFollowup

def NanTransmitFollowupRequest.messageLen (pReq : NanTransmitFollowupRequest) : ℕ :=
  sizeofNanMsgHeader + 8 +
    arrayLen pReq.service_specific_info_len +
    arrayLen pReq.sdea_service_specific_info_len +
    (sizeofTlvHdr + nanMacAddrLen)

def NanTransmitFollowupRequest.tlvs (pReq : NanTransmitFollowupRequest) : List TlvWrite :=
  [.add true nanTlvTypeMacAddress nanMacAddrLen pReq.addr,
    arrayTlv nanTlvTypeServiceSpecificInfo pReq.service_specific_info_len
      pReq.service_specific_info,
    arrayTlv nanTlvTypeSdeaServiceSpecificInfo pReq.sdea_service_specific_info_len
      pReq.sdea_service_specific_info]

/-- `NanTransmitFollowupReqParams`. -/
def NanTransmitFollowupRequest.params (pReq : NanTransmitFollowupRequest) : List UInt8 :=
  le32 pReq.requestor_instance_id.toNat ++
    le32 (packBits
      [(4, if pReq.priority ≠ nanTxPriorityHigh then 1 else 2), (1, pReq.dw_or_faw.toNat),
        (1, bitIf pReq.recv_indication_cfg.toNat 1), (26, 0)])

def putNanTransmitFollowup (env : PutEnv) (id : UInt16)
    (pReq : Option NanTransmitFollowupRequest) : Except WifiError NanMessage :=
  match pReq with
  | none => .error .invalidArgs
  | some pReq =>
    putMessage env pReq.messageLen
      (nanMsgHeader nanMsgIdTransmitFollowupReq pReq.messageLen pReq.publish_subscribe_id id ++
        pReq.params)
      pReq.tlvs

end TransmitFollowup

end HardwareMediatek.Wifi
