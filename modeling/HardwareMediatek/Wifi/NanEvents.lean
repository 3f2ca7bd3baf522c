import HardwareMediatek.Wifi.NanTlv

/-!
# Decoders of NAN events

`handleEvent` hands the bytes of a NAN event to `handleNanResponse` or to `handleNanIndication`, and
these to the decoder of the message. A decoder is followed here in what it reads: the regions of the
event and the field, of the structure handed to the framework, that each region goes to. A bit-field
is read with the unit of its declared type. The sizes of framework structures and arrays are
parameters.
-/

namespace HardwareMediatek.Wifi

open Foundation

/-- Sizes that the framework headers give. -/
structure FrameworkSizes where
  rssi_value : ℕ
  cluster_attribute : ℕ
  peer_cipher_type : ℕ
  scid : ℕ
  range_info : ℕ
  mesh_id : ℕ
  infrastructure_ssid_val : ℕ
  nanMaxServiceNameLen : ℕ
  nanMaxMatchFilterLen : ℕ
  nanMaxServiceSpecificInfoLen : ℕ
  nanMaxSdeaServiceSpecificInfoLen : ℕ
  nanMaxPostdiscoveryLen : ℕ
  nanMaxFamChannels : ℕ
  nanMaxVsaDataLen : ℕ
  nanMaxFrameDataLen : ℕ
  statsResponseData : ℕ
  nanPublishStats : ℕ
  nanSubscribeStats : ℕ
  nanMacStats : ℕ
  nanSyncStats : ℕ
  nanDwStats : ℕ
  nanDeStats : ℕ

/-- The bytes of a NAN vendor event, and how many there are. -/
structure NanEvent where
  bytes : Bytes
  mNanDataLen : ℕ

/-- What a region of the event is read for. -/
inductive NanField where
  | msgId | transactionId | handle | status | value | reason | stats_type | stats
  | nan_capabilities | outputTlv | requestor_instance_id | publish_subscribe_id
  | match_flags | dw_or_faw | addr | rssi_value | service_specific_info
  | sdf_match_filter | conn_capability | discovery_attr | num_chans | famchan
  | cluster_attribute | peer_cipher_type | scid | peer_sdea_params | range_info
  | sdea_service_specific_info | mac_addr | cluster | direction_evt_flags | cluster_size
  | vsa_received_on | vendor_oui | vsa | frame_data | mesh_id | infrastructure_ssid_val
  | range_req_recvd | range_req_intf_addr | range_params
  deriving DecidableEq, Repr

structure FieldRead where
  field : NanField
  region : Region
  deriving DecidableEq, Repr

/-- What has been decoded: the reads so far, and the one count that decides whether later TLVs are
read. -/
structure Decoding where
  reads : List FieldRead := []
  num_rx_discovery_attr : ℕ := 0
  deriving DecidableEq, Repr

def Decoding.read (decoding : Decoding) (field : NanField) (start size : ℕ) : Decoding :=
  { decoding with reads := decoding.reads ++ [⟨field, start, size⟩] }

/-- `memcpy` of the value, cut to the size of the field. -/
def Decoding.copyUpTo (decoding : Decoding) (field : NanField) (tlv : NanTlv) (capacity : ℕ) :
    Decoding :=
  decoding.read field tlv.value (min tlv.length capacity)

/-- A case of the `switch` over TLV types that copies the value into a field of `capacity` bytes. -/
structure TlvCopy where
  type : ℕ
  field : NanField
  capacity : ℕ

/-- The `switch`, as far as its cases copy values. A type outside the table is skipped. -/
def copyTlv (copies : List TlvCopy) (tlv : NanTlv) (decoding : Decoding) : Decoding :=
  match copies.find? fun copy ↦ copy.type = tlv.type with
  | some copy => decoding.copyUpTo copy.field tlv copy.capacity
  | none => decoding

/-- The `while` loop over the TLVs of an event, with what a decoder does for each. -/
def tlvLoop (bytes : Bytes) (onTlv : NanTlv → Decoding → Decoding) : RecordLoop Decoding where
  size pos := (nantlvReadTlv bytes pos).readLen
  peek pos decoding := decoding.read .outputTlv pos sizeofTlvHdr
  body pos decoding := onTlv (nantlvReadTlv bytes pos) decoding

section Indications

variable (sizes : FrameworkSizes) (event : NanEvent)

/-- The bytes after a header of `header` bytes, which the source computes as a signed number. -/
def NanEvent.remainingLen (header : ℕ) : ℤ := event.mNanDataLen - header

def publishRepliedCopies : List TlvCopy :=
  [⟨nanTlvTypeMacAddress, .addr, nanMacAddrLen⟩,
    ⟨nanTlvTypeReceivedRssiValue, .rssi_value, sizes.rssi_value⟩]

/-- The TLVs start after the header and the four bytes of parameters, but only the header is taken
off the length. -/
def getNanPublishReplied (decoding : Decoding) : Decoding :=
  (tlvLoop event.bytes (copyTlv (publishRepliedCopies sizes))).run 12
    (event.remainingLen sizeofNanMsgHeader) (decoding.read .requestor_instance_id 8 4)

def getNanPublishTerminated (decoding : Decoding) : Decoding :=
  (decoding.read .handle 4 2).read .reason 8 2

def postDiscoveryCopies : List TlvCopy :=
  [⟨nanTlvTypeMacAddress, .addr, nanMacAddrLen⟩,
    ⟨nanTlvTypeWlanMeshId, .mesh_id, sizes.mesh_id⟩,
    ⟨nanTlvTypeWlanInfraSsid, .infrastructure_ssid_val, sizes.infrastructure_ssid_val⟩]

/-- Whether `getNanReceivePostDiscoveryVal` returns 0. -/
def postDiscoveryAccepted (tlv : NanTlv) : Bool := 8 < tlv.length

/-- Type, role, duration and map id, the interval bitmap, and then TLVs of its own. -/
def getNanReceivePostDiscoveryVal (bytes : Bytes) (tlv : NanTlv) (decoding : Decoding) :
    Decoding :=
  if postDiscoveryAccepted tlv then
    (tlvLoop bytes (copyTlv (postDiscoveryCopies sizes))).run (tlv.value + 8) (tlv.length - 8 : ℤ)
      ((decoding.read .discovery_attr tlv.value 3).read .discovery_attr (tlv.value + 4) 4)
  else decoding

def sizeofNanFurtherAvailabilityChan : ℕ := 7

/-- The entries of a further availability map that `num_chans` says there are. -/
def famChannels (bytes : Bytes) (tlv : NanTlv) : ℕ :=
  let num_chans := (bytes tlv.value).toNat
  if sizes.nanMaxFamChannels < num_chans then 0
  else if tlv.length < 1 + num_chans * sizeofNanFurtherAvailabilityChan then 0
  else num_chans

def getNanFurtherAvailabilityMap (bytes : Bytes) (tlv : NanTlv) (decoding : Decoding) : Decoding :=
  if tlv.length = 0 then decoding
  else
    (List.range (famChannels sizes bytes tlv)).foldl
      (fun decoding idx ↦
        decoding.read .famchan (tlv.value + 1 + idx * sizeofNanFurtherAvailabilityChan)
          sizeofNanFurtherAvailabilityChan)
      (decoding.read .num_chans tlv.value 1)

def matchCopies : List TlvCopy :=
  [⟨nanTlvTypeServiceSpecificInfo, .service_specific_info, sizes.nanMaxServiceNameLen⟩,
    ⟨nanTlvTypeSdfMatchFilter, .sdf_match_filter, sizes.nanMaxMatchFilterLen⟩,
    ⟨nanTlvTypeMacAddress, .addr, nanMacAddrLen⟩,
    ⟨nanTlvTypeReceivedRssiValue, .rssi_value, sizes.rssi_value⟩,
    ⟨nanTlvTypeClusterAttribute, .cluster_attribute, sizes.cluster_attribute⟩,
    ⟨nanTlvTypeNanCsid, .peer_cipher_type, sizes.peer_cipher_type⟩,
    ⟨nanTlvTypeNanScid, .scid, sizes.scid⟩,
    ⟨nanTlvTypeNan20RangingResult, .range_info, sizes.range_info⟩,
    ⟨nanTlvTypeSdeaServiceSpecificInfo, .sdea_service_specific_info,
      sizes.nanMaxSdeaServiceSpecificInfoLen⟩]

def onMatchTlv (bytes : Bytes) (tlv : NanTlv) (decoding : Decoding) : Decoding :=
  if tlv.type = nanTlvTypePostNanConnectivityCapabilitiesReceive then
    if tlv.length ≠ 4 then decoding else decoding.read .conn_capability tlv.value 1
  else if tlv.type = nanTlvTypePostNanDiscoveryAttributeReceive then
    if sizes.nanMaxPostdiscoveryLen ≤ decoding.num_rx_discovery_attr then decoding
    else
      { getNanReceivePostDiscoveryVal sizes bytes tlv decoding with
        num_rx_discovery_attr :=
          if postDiscoveryAccepted tlv then decoding.num_rx_discovery_attr + 1
          else decoding.num_rx_discovery_attr }
  else if tlv.type = nanTlvTypeFurtherAvailabilityMap then
    getNanFurtherAvailabilityMap sizes bytes tlv decoding
  else if tlv.type = nanTlvTypeSdeaCtrlParams then
    if tlv.length ≠ 4 then decoding else decoding.read .peer_sdea_params tlv.value 1
  else copyTlv (matchCopies sizes) tlv decoding

def sizeofNanMatchIndParams : ℕ := 8

def getNanMatch (decoding : Decoding) : Decoding :=
  (tlvLoop event.bytes (onMatchTlv sizes event.bytes)).run 16
    (event.remainingLen (sizeofNanMsgHeader + sizeofNanMatchIndParams))
    (((decoding.read .publish_subscribe_id 4 2).read .requestor_instance_id 8 4).read
      .match_flags 12 4)

def getNanMatchExpired (decoding : Decoding) : Decoding :=
  (decoding.read .publish_subscribe_id 4 2).read .requestor_instance_id 8 4

def getNanSubscribeTerminated (decoding : Decoding) : Decoding :=
  (decoding.read .handle 4 2).read .reason 8 2

def followupCopies : List TlvCopy :=
  [⟨nanTlvTypeServiceSpecificInfo, .service_specific_info, sizes.nanMaxServiceSpecificInfoLen⟩,
    ⟨nanTlvTypeExtServiceSpecificInfo, .service_specific_info, sizes.nanMaxServiceSpecificInfoLen⟩,
    ⟨nanTlvTypeMacAddress, .addr, nanMacAddrLen⟩,
    ⟨nanTlvTypeSdeaServiceSpecificInfo, .sdea_service_specific_info,
      sizes.nanMaxSdeaServiceSpecificInfoLen⟩]

def sizeofNanFollowupIndParams : ℕ := 8

def getNanFollowup (decoding : Decoding) : Decoding :=
  (tlvLoop event.bytes (copyTlv (followupCopies sizes))).run 16
    (event.remainingLen (sizeofNanMsgHeader + sizeofNanFollowupIndParams))
    (((decoding.read .publish_subscribe_id 4 2).read .requestor_instance_id 8 4).read
      .dw_or_faw 12 4)

def discEngCopies : List TlvCopy :=
  [⟨nanTlvTypeEventSelfStationMacAddress, .mac_addr, nanMacAddrLen⟩,
    ⟨nanTlvTypeEventStartedCluster, .cluster, nanMacAddrLen⟩,
    ⟨nanTlvTypeEventJoinedCluster, .cluster, nanMacAddrLen⟩]

def getNanDiscEngEvent (decoding : Decoding) : Decoding :=
  (tlvLoop event.bytes (copyTlv discEngCopies)).run 8 (event.remainingLen sizeofNanMsgHeader)
    decoding

def getNanDisabled (decoding : Decoding) : Decoding := decoding.read .reason 8 2

def onTcaTlv (tlv : NanTlv) (decoding : Decoding) : Decoding :=
  if tlv.type = nanTlvTypeClusterSizeRsp then
    if tlv.length ≠ 8 then decoding
    else (decoding.read .direction_evt_flags tlv.value 1).read .cluster_size (tlv.value + 4) 4
  else decoding

def getNanTca (decoding : Decoding) : Decoding :=
  (tlvLoop event.bytes onTcaTlv).run 8 (event.remainingLen sizeofNanMsgHeader) decoding

def beaconSdfCopies : List TlvCopy :=
  [⟨nanTlvTypeMacAddress, .addr, nanMacAddrLen⟩,
    ⟨nanTlvTypeBeaconSdfPayloadReceive, .frame_data, sizes.nanMaxFrameDataLen⟩]

def onBeaconSdfTlv (tlv : NanTlv) (decoding : Decoding) : Decoding :=
  if tlv.type = nanTlvTypeVendorSpecificAttributeReceive then
    if tlv.length < 4 then decoding
    else
      ((decoding.read .vsa_received_on tlv.value 1).read .vendor_oui (tlv.value + 1) 3).read .vsa
        (tlv.value + 4) (min (tlv.length - 4) sizes.nanMaxVsaDataLen)
  else copyTlv (beaconSdfCopies sizes) tlv decoding

def getNanBeaconSdfPayload (decoding : Decoding) : Decoding :=
  (tlvLoop event.bytes (onBeaconSdfTlv sizes)).run 8 (event.remainingLen sizeofNanMsgHeader)
    decoding

def getNanTransmitFollowupInd (decoding : Decoding) : Decoding :=
  (decoding.read .transactionId 6 2).read .reason 8 4

def sizeofNanFWRangeReqRecvdMsg : ℕ := 12

def rangeRequestCopies : List TlvCopy :=
  [⟨nanTlvTypeNan20RangingRequestReceived, .range_req_recvd, sizeofNanFWRangeReqRecvdMsg⟩]

def getNanRangeRequestReceivedInd (decoding : Decoding) : Decoding :=
  (tlvLoop event.bytes (copyTlv rangeRequestCopies)).run 8 (event.remainingLen sizeofNanMsgHeader)
    decoding

def sizeofNanFWRangeReportParams : ℕ := 12

def rangeReportCopies : List TlvCopy :=
  [⟨nanTlvTypeMacAddress, .range_req_intf_addr, nanMacAddrLen⟩,
    ⟨nanTlvTypeNan20RangingResult, .range_params, sizeofNanFWRangeReportParams⟩]

def getNanRangeReportInd (decoding : Decoding) : Decoding :=
  (tlvLoop event.bytes (copyTlv rangeReportCopies)).run 8 (event.remainingLen sizeofNanMsgHeader)
    decoding

inductive NanIndicationType where
  | publishReplied
  | publishTerminated
  | matched
  | matchExpired
  | subscribeTerminated
  | deEvent
  | followup
  | disabled
  | tca
  | beaconSdfPayload
  | selfTransmitFollowup
  | rangingRequestReceived
  | rangingResult
  | unknown
  deriving DecidableEq, Repr

/-- The message id: the upper twelve bits of the first sixteen. -/
def NanEvent.msgId : ℕ := u16At event.bytes 0 / 16

def getIndicationType : NanIndicationType :=
  if event.msgId = nanMsgIdPublishRepliedInd then .publishReplied
  else if event.msgId = nanMsgIdPublishTerminatedInd then .publishTerminated
  else if event.msgId = nanMsgIdMatchInd then .matched
  else if event.msgId = nanMsgIdMatchExpiredInd then .matchExpired
  else if event.msgId = nanMsgIdFollowupInd then .followup
  else if event.msgId = nanMsgIdSubscribeTerminatedInd then .subscribeTerminated
  else if event.msgId = nanMsgIdDeEventInd then .deEvent
  else if event.msgId = nanMsgIdDisableInd then .disabled
  else if event.msgId = nanMsgIdTcaInd then .tca
  else if event.msgId = nanMsgIdBeaconSdfInd then .beaconSdfPayload
  else if event.msgId = nanMsgIdSelfTransmitFollowupInd then .selfTransmitFollowup
  else if event.msgId = nanMsgIdRangingRequestRecevdInd then .rangingRequestReceived
  else if event.msgId = nanMsgIdRangingResultInd then .rangingResult
  else .unknown

def handleNanIndication (decoding : Decoding) : Decoding :=
  let decoding := decoding.read .msgId 0 2
  match getIndicationType event with
  | .publishReplied => getNanPublishReplied sizes event decoding
  | .publishTerminated => getNanPublishTerminated decoding
  | .matched => getNanMatch sizes event decoding
  | .matchExpired => getNanMatchExpired decoding
  | .subscribeTerminated => getNanSubscribeTerminated decoding
  | .deEvent => getNanDiscEngEvent event decoding
  | .followup => getNanFollowup sizes event decoding
  | .disabled => getNanDisabled decoding
  | .tca => getNanTca event decoding
  | .beaconSdfPayload => getNanBeaconSdfPayload sizes event decoding
  | .selfTransmitFollowup => getNanTransmitFollowupInd decoding
  | .rangingRequestReceived => getNanRangeRequestReceivedInd event decoding
  | .rangingResult => getNanRangeReportInd event decoding
  | .unknown => decoding

end Indications

section Responses

variable (sizes : FrameworkSizes) (event : NanEvent)

def nanResponseIds : List ℕ :=
  [nanMsgIdErrorRsp, nanMsgIdConfigurationRsp, nanMsgIdPublishServiceCancelRsp,
    nanMsgIdPublishServiceRsp, nanMsgIdSubscribeServiceRsp, nanMsgIdSubscribeServiceCancelRsp,
    nanMsgIdTransmitFollowupRsp, nanMsgIdStatsRsp, nanMsgIdEnableRsp, nanMsgIdDisableRsp,
    nanMsgIdTcaRsp, nanMsgIdBeaconSdfRsp, nanMsgIdCapabilitiesRsp, nanMsgIdTestmodeRsp]

def isNanResponse : Bool := event.msgId ∈ nanResponseIds

/-- Messages whose `status` and `value` are read and nothing after the header else. -/
def statusValueIds : List ℕ :=
  [nanMsgIdErrorRsp, nanMsgIdConfigurationRsp, nanMsgIdTransmitFollowupRsp, nanMsgIdEnableRsp,
    nanMsgIdTcaRsp]

/-- Messages whose `handle` is read too. -/
def statusValueHandleIds : List ℕ :=
  [nanMsgIdPublishServiceCancelRsp, nanMsgIdPublishServiceRsp, nanMsgIdSubscribeServiceRsp,
    nanMsgIdSubscribeServiceCancelRsp]

/-- Messages whose `value` is reserved. -/
def statusIds : List ℕ := [nanMsgIdDisableRsp, nanMsgIdBeaconSdfRsp]

/-- For each kind of statistics: the size of the framework structure, which the length of the TLV
has to be, and the bytes of the firmware structure that are read. -/
def statsSizes (stats_type : ℕ) : Option (ℕ × ℕ) :=
  match stats_type with
  | 0 => some (sizes.nanPublishStats, 68)
  | 1 => some (sizes.nanSubscribeStats, 80)
  | 2 => some (sizes.nanMacStats, 100)
  | 3 => some (sizes.nanSyncStats, 192)
  | 4 => some (sizes.nanDwStats, 80)
  | 5 => some (sizes.nanDeStats, 92)
  | _ => none

def handleNanStatsResponse (stats_type : ℕ) (tlv : NanTlv) (decoding : Decoding) : Decoding :=
  match statsSizes sizes stats_type with
  | none => decoding
  | some (expected, fwSize) =>
    if tlv.length ≠ expected then decoding else decoding.read .stats tlv.value fwSize

def sizeofNanStatsRspParams : ℕ := 6

/-- The single TLV of a statistics response. -/
def getNanStats (decoding : Decoding) : Decoding :=
  if 0 < event.remainingLen (sizeofNanMsgHeader + sizeofNanStatsRspParams) then
    let outputTlv := nantlvReadTlv event.bytes 14
    let decoding := decoding.read .outputTlv 14 sizeofTlvHdr
    if outputTlv.length ≤ sizes.statsResponseData then
      handleNanStatsResponse sizes (event.bytes 12).toNat outputTlv decoding
    else decoding
  else decoding

/-- The size of `NanCapabilitiesRspMsg` after its header: twenty words. -/
def capabilitiesWords : ℕ := 20

def getNanResponse (decoding : Decoding) : Decoding :=
  let decoding := decoding.read .msgId 0 2
  if event.msgId ∈ statusValueIds then
    ((decoding.read .transactionId 6 2).read .status 8 2).read .value 10 2
  else if event.msgId ∈ statusValueHandleIds then
    (((decoding.read .transactionId 6 2).read .status 8 2).read .value 10 2).read .handle 4 2
  else if event.msgId ∈ statusIds then (decoding.read .transactionId 6 2).read .status 8 2
  else if event.msgId = nanMsgIdStatsRsp then
    getNanStats sizes event
      ((((decoding.read .transactionId 6 2).read .status 8 2).read .value 10 2).read .stats_type 12 1)
  else if event.msgId = nanMsgIdCapabilitiesRsp then
    (decoding.read .transactionId 6 2).read .nan_capabilities 8 (4 * capabilitiesWords)
  else decoding

/-- What `handleEvent` reads of a NAN event: `isNanResponse` looks at the message id first. -/
def handleNanEvent : Decoding :=
  let decoding := (⟨[], 0⟩ : Decoding).read .msgId 0 2
  if isNanResponse event then getNanResponse sizes event decoding
  else handleNanIndication sizes event decoding

end Responses

end HardwareMediatek.Wifi
