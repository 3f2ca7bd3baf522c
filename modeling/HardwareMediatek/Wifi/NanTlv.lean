import HardwareMediatek.Foundation.ByteEncoding
import HardwareMediatek.Foundation.RecordLoop
import HardwareMediatek.Wifi.NanCommand

/-!
# Type, length and value

`NANTLV_ReadTlv` and the loop around it that every decoder of a NAN event repeats. Offsets stand for
pointers. The message ids and TLV types are those of the NAN firmware interface.
-/

namespace HardwareMediatek.Wifi

open Foundation

section MessageIds

def nanMsgIdErrorRsp : ℕ := 0
def nanMsgIdConfigurationReq : ℕ := 1
def nanMsgIdConfigurationRsp : ℕ := 2
def nanMsgIdPublishServiceReq : ℕ := 3
def nanMsgIdPublishServiceRsp : ℕ := 4
def nanMsgIdPublishServiceCancelRsp : ℕ := 6
def nanMsgIdPublishRepliedInd : ℕ := 7
def nanMsgIdPublishTerminatedInd : ℕ := 8
def nanMsgIdSubscribeServiceReq : ℕ := 9
def nanMsgIdSubscribeServiceRsp : ℕ := 10
def nanMsgIdSubscribeServiceCancelRsp : ℕ := 12
def nanMsgIdMatchInd : ℕ := 13
def nanMsgIdMatchExpiredInd : ℕ := 14
def nanMsgIdSubscribeTerminatedInd : ℕ := 15
def nanMsgIdDeEventInd : ℕ := 16
def nanMsgIdTransmitFollowupReq : ℕ := 17
def nanMsgIdTransmitFollowupRsp : ℕ := 18
def nanMsgIdFollowupInd : ℕ := 19
def nanMsgIdStatsRsp : ℕ := 21
def nanMsgIdEnableReq : ℕ := 22
def nanMsgIdEnableRsp : ℕ := 23
def nanMsgIdDisableRsp : ℕ := 25
def nanMsgIdDisableInd : ℕ := 26
def nanMsgIdTcaRsp : ℕ := 28
def nanMsgIdTcaInd : ℕ := 29
def nanMsgIdBeaconSdfRsp : ℕ := 31
def nanMsgIdBeaconSdfInd : ℕ := 32
def nanMsgIdCapabilitiesRsp : ℕ := 34
def nanMsgIdSelfTransmitFollowupInd : ℕ := 35
def nanMsgIdRangingRequestRecevdInd : ℕ := 36
def nanMsgIdRangingResultInd : ℕ := 37
def nanMsgIdTestmodeRsp : ℕ := 1026

end MessageIds

section TlvTypes

def nanTlvTypeServiceName : ℕ := 0
def nanTlvTypeSdfMatchFilter : ℕ := 1
def nanTlvTypeTxMatchFilter : ℕ := 2
def nanTlvTypeRxMatchFilter : ℕ := 3
def nanTlvTypeServiceSpecificInfo : ℕ := 4
def nanTlvTypeExtServiceSpecificInfo : ℕ := 5
def nanTlvTypeVendorSpecificAttributeReceive : ℕ := 7
def nanTlvTypePostNanConnectivityCapabilitiesReceive : ℕ := 8
def nanTlvTypePostNanDiscoveryAttributeReceive : ℕ := 9
def nanTlvTypeBeaconSdfPayloadReceive : ℕ := 10
def nanTlvType2gCommittedDw : ℕ := 13
def nanTlvType5gCommittedDw : ℕ := 14
def nanTlvTypeNanServiceAcceptPolicy : ℕ := 17
def nanTlvTypeNanCsid : ℕ := 18
def nanTlvTypeNanScid : ℕ := 19
def nanTlvTypeNanPmk : ℕ := 20
def nanTlvTypeSdeaCtrlParams : ℕ := 21
def nanTlvTypeNanRangingCfg : ℕ := 22
def nanTlvTypeConfigDiscoveryIndications : ℕ := 23
def nanTlvTypeNan20RangingRequest : ℕ := 24
def nanTlvTypeNan20RangingResult : ℕ := 25
def nanTlvTypeNan20RangingRequestReceived : ℕ := 26
def nanTlvTypeNanPassphrase : ℕ := 27
def nanTlvTypeSdeaServiceSpecificInfo : ℕ := 28
def nanTlvTypeDevCapAttrCapability : ℕ := 29
def nanTlvType24gSupport : ℕ := 4096
def nanTlvType24gBeacon : ℕ := 4097
def nanTlvType24gSdf : ℕ := 4098
def nanTlvType24gRssiClose : ℕ := 4099
def nanTlvType24gRssiMiddle : ℕ := 4100
def nanTlvType24gRssiCloseProximity : ℕ := 4101
def nanTlvType5gSupport : ℕ := 4102
def nanTlvType5gBeacon : ℕ := 4103
def nanTlvType5gSdf : ℕ := 4104
def nanTlvType5gRssiClose : ℕ := 4105
def nanTlvType5gRssiMiddle : ℕ := 4106
def nanTlvType5gRssiCloseProximity : ℕ := 4107
def nanTlvTypeSidBeacon : ℕ := 4108
def nanTlvTypeHopCountLimit : ℕ := 4109
def nanTlvTypeMasterPreference : ℕ := 4110
def nanTlvTypeClusterIdLow : ℕ := 4111
def nanTlvTypeClusterIdHigh : ℕ := 4112
def nanTlvTypeRssiAveragingWindowSize : ℕ := 4113
def nanTlvTypeClusterOuiNetworkId : ℕ := 4114
def nanTlvTypeSourceMacAddress : ℕ := 4115
def nanTlvTypeClusterAttributeInSdf : ℕ := 4116
def nanTlvTypeSocialChannelScanParams : ℕ := 4117
def nanTlvTypePostNanConnectivityCapabilitiesTransmit : ℕ := 4119
def nanTlvTypePostNanDiscoveryAttributeTransmit : ℕ := 4120
def nanTlvTypeFurtherAvailabilityMap : ℕ := 4121
def nanTlvTypeHopCountForce : ℕ := 4122
def nanTlvTypeRandomFactorForce : ℕ := 4123
def nanTlvTypeDbInterval : ℕ := 4129
def nanTlvType24gChannel : ℕ := 4131
def nanTlvType5gChannel : ℕ := 4132
def nanTlvTypeDiscMacAddrRandomInterval : ℕ := 4133
def nanTlvTypeSubscribeSidBeacon : ℕ := 4135
def nanTlvTypeDwEarlyTermination : ℕ := 4136
def nanTlvTypeTxRxChains : ℕ := 4137
def nanTlvTypeEnableDeviceRanging : ℕ := 4138
def nanTlvTypeWlanMeshId : ℕ := 8193
def nanTlvTypeMacAddress : ℕ := 8194
def nanTlvTypeReceivedRssiValue : ℕ := 8195
def nanTlvTypeClusterAttribute : ℕ := 8196
def nanTlvTypeWlanInfraSsid : ℕ := 8197
def nanTlvTypeEventSelfStationMacAddress : ℕ := 12288
def nanTlvTypeEventStartedCluster : ℕ := 12289
def nanTlvTypeEventJoinedCluster : ℕ := 12290
def nanTlvTypeClusterSizeRsp : ℕ := 16385

end TlvTypes

def sizeofNanMsgHeader : ℕ := 8
def sizeofTlvHdr : ℕ := 4

/-- A TLV as `NANTLV_ReadTlv` gives it. The source has `NULL` for the value of length zero. -/
structure NanTlv where
  type : ℕ
  length : ℕ
  value : ℕ
  /-- What `NANTLV_ReadTlv` returns, an unsigned 16-bit number. -/
  readLen : ℕ
  deriving DecidableEq, Repr

def nantlvReadTlv (bytes : Bytes) (pInTlv : ℕ) : NanTlv :=
  let length := u16At bytes (pInTlv + 2)
  { type := u16At bytes pInTlv
    length := length
    value := pInTlv + sizeofTlvHdr
    readLen := (sizeofTlvHdr + length) % 65536 }

end HardwareMediatek.Wifi
