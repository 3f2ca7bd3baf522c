import HardwareMediatek.Wifi.NanTlv

/-!
# Tables of NAN errors

The firmware's status codes with the framework's and a text for each, and the names of TLV types. The
numbers of the framework's status codes are those of its header. Of two rows with one number, a search
finds the first.
-/

namespace HardwareMediatek.Wifi

section StatusCodes

def nanStatusSuccess : UInt32 := 0
def nanStatusInternalFailure : UInt32 := 1
def nanStatusProtocolFailure : UInt32 := 2
def nanStatusInvalidPublishSubscribeId : UInt32 := 3
def nanStatusNoResourceAvailable : UInt32 := 4
def nanStatusInvalidParam : UInt32 := 5
def nanStatusInvalidRequestorInstanceId : UInt32 := 6
def nanStatusInvalidNdpId : UInt32 := 7
def nanStatusNanNotAllowed : UInt32 := 8
def nanStatusNoOtaAck : UInt32 := 9
def nanStatusAlreadyEnabled : UInt32 := 10
def nanStatusFollowupQueueFull : UInt32 := 11
def nanStatusUnsupportedConcurrencyNanDisabled : UInt32 := 12

def nanIStatusSuccess : UInt32 := 0
def nanIStatusTimeout : UInt32 := 1
def nanIStatusDeFailure : UInt32 := 2
def nanIStatusInvalidMsgVersion : UInt32 := 3
def nanIStatusInvalidMsgLen : UInt32 := 4
def nanIStatusInvalidMsgId : UInt32 := 5
def nanIStatusInvalidHandle : UInt32 := 6
def nanIStatusNoSpaceAvailable : UInt32 := 7
def nanIStatusInvalidPublishType : UInt32 := 8
def nanIStatusInvalidTxType : UInt32 := 9
def nanIStatusInvalidMatchAlgorithm : UInt32 := 10
def nanIStatusInvalidTlvLen : UInt32 := 12
def nanIStatusInvalidTlvType : UInt32 := 13
def nanIStatusMissingTlvType : UInt32 := 14
def nanIStatusInvalidTotalTlvsLen : UInt32 := 15
def nanIStatusInvalidRequesterInstanceId : UInt32 := 16
def nanIStatusInvalidTlvValue : UInt32 := 17
def nanIStatusInvalidTxPriority : UInt32 := 18
def nanIStatusInvalidConnectionMap : UInt32 := 19
def nanIStatusInvalidThresholdCrossingAlertId : UInt32 := 20
def nanIStatusInvalidStatsId : UInt32 := 21
def nanIStatusNanNotAllowed : UInt32 := 22
def nanIStatusNoOtaAck : UInt32 := 23
def nanIStatusTxFail : UInt32 := 24
def nanIStatusNanAlreadyEnabled : UInt32 := 25
def nanIStatusFollowupQueueFull : UInt32 := 26
def nanIStatusInvalidRssiCloseValue : UInt32 := 4096
def nanIStatusInvalidRssiMiddleValue : UInt32 := 4097
def nanIStatusInvalidHopCountLimit : UInt32 := 4098
def nanIStatusInvalidHighClusterIdValue : UInt32 := 4101
def nanIStatusInvalidBackgroundScanPeriod : UInt32 := 4102
def nanIStatusInvalidScanChannel : UInt32 := 4104
def nanIStatusInvalidPostNanConnectivityCapabilitiesBitmap : UInt32 := 4105
def nanIStatusInvalidFurtherAvailabilityMapNumchanValue : UInt32 := 4106
def nanIStatusInvalidFurtherAvailabilityMapDurationValue : UInt32 := 4107
def nanIStatusInvalidFurtherAvailabilityMapClassValue : UInt32 := 4108
def nanIStatusInvalidFurtherAvailabilityMapChannelValue : UInt32 := 4109
def nanIStatusInvalidFurtherAvailabilityMapAvailabilityIntervalBitmapValue : UInt32 := 4110
def nanIStatusInvalidFurtherAvailabilityMapMapId : UInt32 := 4111
def nanIStatusInvalidPostNanDiscoveryConnTypeValue : UInt32 := 4112
def nanIStatusInvalidPostNanDiscoveryDeviceRoleValue : UInt32 := 4113
def nanIStatusInvalidPostNanDiscoveryDurationValue : UInt32 := 4114
def nanIStatusInvalidPostNanDiscoveryBitmapValue : UInt32 := 4115
def nanIStatusMissingFutherAvailabilityMap : UInt32 := 4116
def nanIStatusInvalidBandConfigFlags : UInt32 := 4117
def nanIStatusInvalidRandomFactorUpdateTimeValue : UInt32 := 4118
def nanIStatusInvalidOngoingScanPeriod : UInt32 := 4119
def nanIStatusInvalidDwIntervalValue : UInt32 := 4120
def nanIStatusInvalidDbIntervalValue : UInt32 := 4121
def nanIPublishSubscribeTerminatedReasonTimeout : UInt32 := 8193
def nanIPublishSubscribeTerminatedReasonUserRequest : UInt32 := 8194
def nanIPublishSubscribeTerminatedReasonCountReached : UInt32 := 8196
def ndpIUnsupportedConcurrency : UInt32 := 9000
def ndpINanDataIfaceCreateFailed : UInt32 := 9001
def ndpINanDataIfaceDeleteFailed : UInt32 := 9002
def ndpIDataInitiatorRequestFailed : UInt32 := 9003
def ndpIDataResponderRequestFailed : UInt32 := 9004
def ndpIInvalidNdpInstanceId : UInt32 := 9006
def ndpIInvalidResponseCode : UInt32 := 9007
def ndpIInvalidAppInfoLen : UInt32 := 9008
def ndpIMgmtFrameRequestFailed : UInt32 := 9009
def ndpIMgmtFrameResponseFailed : UInt32 := 9010
def ndpIMgmtFrameConfirmFailed : UInt32 := 9011
def ndpIEndFailed : UInt32 := 9012
def ndpIMgmtFrameEndRequestFailed : UInt32 := 9013
def ndpIMgmtFrameSecurityInstallFailed : UInt32 := 9014
def ndpIVendorSpecificError : UInt32 := 9500

end StatusCodes

section TlvTypes

def nanTlvTypeVendorSpecificAttributeTransmit : ℕ := 6
def nanTlvTypeConfigFirst : ℕ := 4096
def nanTlvTypeDebuggingFlags : ℕ := 4118
def nanTlvTypeRandomUpdateTime : ℕ := 4124
def nanTlvTypeEarlyWakeup : ℕ := 4125
def nanTlvTypePeriodicScanInterval : ℕ := 4126
def nanTlvTypeDwInterval : ℕ := 4128
def nanTlvTypeFurtherAvailability : ℕ := 4130
def nanTlvTypeConfigLast : ℕ := 8191
def nanTlvTypeAttrsFirst : ℕ := 8192
def nanTlvTypeAvailabilityIntervalsMap : ℕ := 8192
def nanTlvTypeAttrsLast : ℕ := 12287
def nanTlvTypeEventsFirst : ℕ := 12288
def nanTlvTypeEventClusterScanResults : ℕ := 12291
def nanTlvTypeFawMemAvail : ℕ := 12292
def nanTlvTypeEventsLast : ℕ := 16383
def nanTlvTypeTcaFirst : ℕ := 16384
def nanTlvTypeClusterSizeReq : ℕ := 16384
def nanTlvTypeTcaLast : ℕ := 32767
def nanTlvTypeStatsFirst : ℕ := 32768
def nanTlvTypeDePublishStats : ℕ := 32768
def nanTlvTypeDeSubscribeStats : ℕ := 32769
def nanTlvTypeDeMacStats : ℕ := 32770
def nanTlvTypeDeTimingSyncStats : ℕ := 32771
def nanTlvTypeDeDwStats : ℕ := 32772
def nanTlvTypeDeStats : ℕ := 32773
def nanTlvTypeStatsLast : ℕ := 36863
def nanTlvTypeLast : ℕ := 65535

end TlvTypes

section Tables

structure VerboseTlv where
  tlvType : ℕ
  strTlv : String
  deriving DecidableEq, Repr

def tlvToStr : List VerboseTlv :=
  [⟨nanTlvTypeSdfMatchFilter, " SDF match filter"⟩,
    ⟨nanTlvTypeTxMatchFilter, " Tx match filter"⟩,
    ⟨nanTlvTypeRxMatchFilter, " Rx match filter"⟩,
    ⟨nanTlvTypeServiceSpecificInfo, " Service specific info"⟩,
    ⟨nanTlvTypeExtServiceSpecificInfo, " Extended Service specific info"⟩,
    ⟨nanTlvTypeVendorSpecificAttributeTransmit, " Vendor specific attribute transmit"⟩,
    ⟨nanTlvTypeVendorSpecificAttributeReceive, " Vendor specific attribute receive"⟩,
    ⟨nanTlvTypePostNanConnectivityCapabilitiesReceive, " Post Nan connectivity capability receive"⟩,
    ⟨nanTlvTypePostNanDiscoveryAttributeReceive, " Post Nan discovery attribute receive"⟩,
    ⟨nanTlvTypeBeaconSdfPayloadReceive, " Beacon SDF payload receive"⟩,
    ⟨nanTlvTypeConfigFirst, " Config first"⟩,
    ⟨nanTlvType24gSupport, " 2.4G support"⟩,
    ⟨nanTlvType24gBeacon, " 2.4G beacon"⟩,
    ⟨nanTlvType24gSdf, " 2.4G SDF"⟩,
    ⟨nanTlvType24gRssiClose, " 2.4G RSSI close"⟩,
    ⟨nanTlvType24gRssiMiddle, " 2.4G RSSI middle"⟩,
    ⟨nanTlvType24gRssiCloseProximity, " 2.4G RSSI close proximity"⟩,
    ⟨nanTlvType5gSupport, " 5G support"⟩,
    ⟨nanTlvType5gBeacon, " 5G beacon"⟩,
    ⟨nanTlvType5gSdf, " 5G SDF"⟩,
    ⟨nanTlvType5gRssiClose, " 5G RSSI close"⟩,
    ⟨nanTlvType5gRssiMiddle, " 5G RSSI middle"⟩,
    ⟨nanTlvType5gRssiCloseProximity, " 5G RSSI close proximity"⟩,
    ⟨nanTlvTypeSidBeacon, " SID beacon"⟩,
    ⟨nanTlvTypeHopCountLimit, " Hop count limit"⟩,
    ⟨nanTlvTypeMasterPreference, " Master preference"⟩,
    ⟨nanTlvTypeClusterIdLow, " Cluster ID low"⟩,
    ⟨nanTlvTypeClusterIdHigh, " Cluster ID high"⟩,
    ⟨nanTlvTypeRssiAveragingWindowSize, " RSSI averaging window size"⟩,
    ⟨nanTlvTypeClusterOuiNetworkId, " Cluster OUI network ID"⟩,
    ⟨nanTlvTypeSourceMacAddress, " Source MAC address"⟩,
    ⟨nanTlvTypeClusterAttributeInSdf, " Cluster attribute in SDF"⟩,
    ⟨nanTlvTypeSocialChannelScanParams, " Social channel scan params"⟩,
    ⟨nanTlvTypeDebuggingFlags, " Debugging flags"⟩,
    ⟨nanTlvTypePostNanConnectivityCapabilitiesTransmit,
      " Post nan connectivity capabilities transmit"⟩,
    ⟨nanTlvTypePostNanDiscoveryAttributeTransmit, " Post nan discovery attribute transmit"⟩,
    ⟨nanTlvTypeFurtherAvailabilityMap, " Further availability map"⟩,
    ⟨nanTlvTypeHopCountForce, " Hop count force"⟩,
    ⟨nanTlvTypeRandomFactorForce, " Random factor force"⟩,
    ⟨nanTlvTypeRandomUpdateTime, " Random update time"⟩,
    ⟨nanTlvTypeEarlyWakeup, " Early wakeup"⟩,
    ⟨nanTlvTypePeriodicScanInterval, " Periodic scan interval"⟩,
    ⟨nanTlvTypeDwInterval, " DW interval"⟩,
    ⟨nanTlvTypeDbInterval, " DB interval"⟩,
    ⟨nanTlvTypeFurtherAvailability, " Further availability"⟩,
    ⟨nanTlvType24gChannel, " 2.4G channel"⟩,
    ⟨nanTlvType5gChannel, " 5G channel"⟩,
    ⟨nanTlvTypeConfigLast, " Config last"⟩,
    ⟨nanTlvTypeAttrsFirst, " Attributes first"⟩,
    ⟨nanTlvTypeAvailabilityIntervalsMap, " Availability intervals map"⟩,
    ⟨nanTlvTypeWlanMeshId, " WLAN mesh ID"⟩,
    ⟨nanTlvTypeMacAddress, " MAC address"⟩,
    ⟨nanTlvTypeReceivedRssiValue, " Received RSSI value"⟩,
    ⟨nanTlvTypeClusterAttribute, " Cluster attribute"⟩,
    ⟨nanTlvTypeWlanInfraSsid, " WLAN infra SSID"⟩,
    ⟨nanTlvTypeAttrsLast, " Attributes last"⟩,
    ⟨nanTlvTypeEventsFirst, " Events first"⟩,
    ⟨nanTlvTypeEventSelfStationMacAddress, " Event Self station MAC address"⟩,
    ⟨nanTlvTypeEventStartedCluster, " Event started cluster"⟩,
    ⟨nanTlvTypeEventJoinedCluster, " Event joined cluster"⟩,
    ⟨nanTlvTypeEventClusterScanResults, " Event cluster scan results"⟩,
    ⟨nanTlvTypeFawMemAvail, " FAW memory availability"⟩,
    ⟨nanTlvTypeEventsLast, " Events last"⟩,
    ⟨nanTlvTypeTcaFirst, " TCA-Threshold Crossing Alert first"⟩,
    ⟨nanTlvTypeClusterSizeReq, " Cluster size request"⟩,
    ⟨nanTlvTypeClusterSizeRsp, " Cluster size response"⟩,
    ⟨nanTlvTypeTcaLast, " TCA last"⟩,
    ⟨nanTlvTypeStatsFirst, " Stats first"⟩,
    ⟨nanTlvTypeDePublishStats, " Discovery engine publish stats"⟩,
    ⟨nanTlvTypeDeSubscribeStats, " Discovery engine subscribe stats"⟩,
    ⟨nanTlvTypeDeMacStats, " Discovery engine MAC stats"⟩,
    ⟨nanTlvTypeDeTimingSyncStats, " Discovery engine timing sync stats"⟩,
    ⟨nanTlvTypeDeDwStats, " Discovery engine DW stats"⟩,
    ⟨nanTlvTypeDeStats, " Discovery engine stats"⟩,
    ⟨nanTlvTypeStatsLast, " Stats last"⟩,
    ⟨nanTlvTypeLast, " Last"⟩]

structure ErrorCode where
  frameworkError : UInt32
  firmwareError : UInt32
  nan_error : String
  deriving DecidableEq, Repr

def errorCodeTranslation : List ErrorCode :=
  [⟨nanStatusSuccess, nanIStatusSuccess, "NAN status success"⟩,
    ⟨nanStatusInternalFailure, nanIStatusDeFailure, "NAN Discovery engine failure"⟩,
    ⟨nanStatusInvalidPublishSubscribeId, nanIStatusInvalidHandle, "Invalid Publish/Subscribe ID"⟩,
    ⟨nanStatusNoResourceAvailable, nanIStatusNoSpaceAvailable, "No space available"⟩,
    ⟨nanStatusInvalidParam, nanIStatusInvalidPublishType, "Invalid Publish type, can be 0 or 1"⟩,
    ⟨nanStatusInvalidParam, nanIStatusInvalidTxType, "Invalid Tx type"⟩,
    ⟨nanStatusInvalidParam, nanIStatusInvalidMsgVersion, "Invalid internal message version"⟩,
    ⟨nanStatusInvalidParam, nanIStatusInvalidMsgLen, "Invalid message length"⟩,
    ⟨nanStatusInvalidParam, nanIStatusInvalidMsgId, "Invalid message ID"⟩,
    ⟨nanStatusInvalidParam, nanIStatusInvalidMatchAlgorithm,
      "Invalid matching algorithm, can be 0(match once), 1(match continuous) or 2(match never)"⟩,
    ⟨nanStatusInvalidParam, nanIStatusInvalidTlvLen, "Invalid TLV length"⟩,
    ⟨nanStatusInvalidParam, nanIStatusInvalidTlvType, "Invalid TLV type"⟩,
    ⟨nanStatusInvalidParam, nanIStatusMissingTlvType, "Missing TLV type"⟩,
    ⟨nanStatusInvalidParam, nanIStatusInvalidTotalTlvsLen, "Invalid total TLV length"⟩,
    ⟨nanStatusInvalidParam, nanIStatusInvalidTlvValue, "Invalid TLV value"⟩,
    ⟨nanStatusInvalidParam, nanIStatusInvalidTxPriority, "Invalid Tx priority"⟩,
    ⟨nanStatusInvalidParam, nanIStatusInvalidConnectionMap, "Invalid connection map"⟩,
    ⟨nanStatusInvalidParam, nanIStatusInvalidThresholdCrossingAlertId,
      "Invalid TCA-Threshold Crossing Alert ID"⟩,
    ⟨nanStatusInvalidParam, nanIStatusInvalidStatsId, "Invalid STATS ID"⟩,
    ⟨nanStatusProtocolFailure, nanIStatusTxFail, "Tx Fail"⟩,
    ⟨nanStatusInvalidParam, nanIStatusInvalidRssiCloseValue,
      "Invalid RSSI close value range is 20dbm to 60dbm"⟩,
    ⟨nanStatusInvalidParam, nanIStatusInvalidRssiMiddleValue,
      "Invalid RSSI middle value range is 20dbm to 75dbm"⟩,
    ⟨nanStatusInvalidParam, nanIStatusInvalidHopCountLimit,
      "Invalid hop count limit, max hop count limit is 5"⟩,
    ⟨nanStatusInvalidParam, nanIStatusInvalidHighClusterIdValue,
      "Invalid cluster ID value. Please set the cluster id high greater than the cluster id low"⟩,
    ⟨nanStatusInvalidParam, nanIStatusInvalidBackgroundScanPeriod,
      "Invalid background scan period. The range is 10 to 30 milliseconds"⟩,
    ⟨nanStatusInvalidParam, nanIStatusInvalidScanChannel,
      "Invalid scan channel. Only valid channels are the NAN social channels"⟩,
    ⟨nanStatusInvalidParam, nanIStatusInvalidPostNanConnectivityCapabilitiesBitmap,
      "Invalid post nan connectivity bitmap"⟩,
    ⟨nanStatusInvalidParam, nanIStatusInvalidFurtherAvailabilityMapNumchanValue,
      "Invalid further availability map number of channel value"⟩,
    ⟨nanStatusInvalidParam, nanIStatusInvalidFurtherAvailabilityMapDurationValue,
      "Invalid further availability map duration value"⟩,
    ⟨nanStatusInvalidParam, nanIStatusInvalidFurtherAvailabilityMapClassValue,
      "Invalid further availability map class value"⟩,
    ⟨nanStatusInvalidParam, nanIStatusInvalidFurtherAvailabilityMapChannelValue,
      "Invalid further availability map channel value"⟩,
    ⟨nanStatusInvalidParam, nanIStatusInvalidFurtherAvailabilityMapAvailabilityIntervalBitmapValue,
      "Invalid further availability map availability interval bitmap value"⟩,
    ⟨nanStatusInvalidParam, nanIStatusInvalidFurtherAvailabilityMapMapId,
      "Invalid further availability map map ID"⟩,
    ⟨nanStatusInvalidParam, nanIStatusInvalidPostNanDiscoveryConnTypeValue,
      "Invalid post nan discovery connection type value"⟩,
    ⟨nanStatusInvalidParam, nanIStatusInvalidPostNanDiscoveryDeviceRoleValue,
      "Invalid post nan discovery device role value"⟩,
    ⟨nanStatusInvalidParam, nanIStatusInvalidPostNanDiscoveryDurationValue,
      "Invalid post nan discovery duration value"⟩,
    ⟨nanStatusInvalidParam, nanIStatusInvalidPostNanDiscoveryBitmapValue,
      "Invalid post nan discovery bitmap value"⟩,
    ⟨nanStatusInvalidParam, nanIStatusMissingFutherAvailabilityMap,
      "Missing further availability map"⟩,
    ⟨nanStatusInvalidParam, nanIStatusInvalidBandConfigFlags, "Invalid band configuration flags"⟩,
    ⟨nanStatusInvalidParam, nanIStatusInvalidRandomFactorUpdateTimeValue,
      "Invalid random factor update time value"⟩,
    ⟨nanStatusInvalidParam, nanIStatusInvalidOngoingScanPeriod, "Invalid ongoing scan period"⟩,
    ⟨nanStatusInvalidParam, nanIStatusInvalidDwIntervalValue, "Invalid DW interval value"⟩,
    ⟨nanStatusInvalidParam, nanIStatusInvalidDbIntervalValue, "Invalid DB interval value"⟩,
    ⟨nanStatusSuccess, nanIPublishSubscribeTerminatedReasonTimeout, "Terminated Reason: Timeout"⟩,
    ⟨nanStatusSuccess, nanIPublishSubscribeTerminatedReasonUserRequest,
      "Terminated Reason: User Request"⟩,
    ⟨nanStatusSuccess, nanIPublishSubscribeTerminatedReasonCountReached,
      "Terminated Reason: Count Reached"⟩,
    ⟨nanStatusInvalidRequestorInstanceId, nanIStatusInvalidRequesterInstanceId,
      "Invalid match handle"⟩,
    ⟨nanStatusNanNotAllowed, nanIStatusNanNotAllowed, "Nan not allowed"⟩,
    ⟨nanStatusNoOtaAck, nanIStatusNoOtaAck, "No OTA ack"⟩,
    ⟨nanStatusAlreadyEnabled, nanIStatusNanAlreadyEnabled, "NAN is Already enabled"⟩,
    ⟨nanStatusFollowupQueueFull, nanIStatusFollowupQueueFull, "Follow-up queue full"⟩,
    ⟨nanStatusUnsupportedConcurrencyNanDisabled, ndpIUnsupportedConcurrency,
      "Unsupported Concurrency"⟩,
    ⟨nanStatusInternalFailure, ndpINanDataIfaceCreateFailed, "NAN data interface create failed"⟩,
    ⟨nanStatusInternalFailure, ndpINanDataIfaceDeleteFailed, "NAN data interface delete failed"⟩,
    ⟨nanStatusInternalFailure, ndpIDataInitiatorRequestFailed, "NAN data initiator request failed"⟩,
    ⟨nanStatusInternalFailure, ndpIDataResponderRequestFailed, "NAN data responder request failed"⟩,
    ⟨nanStatusInvalidNdpId, ndpIInvalidNdpInstanceId, "Invalid NDP instance ID"⟩,
    ⟨nanStatusInvalidParam, ndpIInvalidResponseCode, "Invalid response code"⟩,
    ⟨nanStatusInvalidParam, ndpIInvalidAppInfoLen, "Invalid app info length"⟩,
    ⟨nanStatusProtocolFailure, ndpIMgmtFrameRequestFailed, "Management frame request failed"⟩,
    ⟨nanStatusProtocolFailure, ndpIMgmtFrameResponseFailed, "Management frame response failed"⟩,
    ⟨nanStatusProtocolFailure, ndpIMgmtFrameConfirmFailed, "Management frame confirm failed"⟩,
    ⟨nanStatusInternalFailure, ndpIEndFailed, "NDP end failed"⟩,
    ⟨nanStatusProtocolFailure, ndpIMgmtFrameEndRequestFailed,
      "Management frame end request failed"⟩,
    ⟨nanStatusInternalFailure, ndpIVendorSpecificError, "Vendor specific error"⟩]

/-- No firmware code has two rows. -/
theorem find?_errorCodeTranslation {row : ErrorCode} (hrow : row ∈ errorCodeTranslation) :
    errorCodeTranslation.find? (fun other ↦ other.firmwareError = row.firmwareError) = some row := by
  revert row
  decide +kernel

end Tables

end HardwareMediatek.Wifi
