import HardwareMediatek.Foundation.PackedRecords
import HardwareMediatek.Wifi.NanEvents

/-!
# NAN statistics

`handleNanStatsResponse` copies a statistics record of the firmware into the record of the framework,
field by field, and the record into the union of the response. The names of the fields are the same on
both sides. Layouts are those of the packed firmware structures.
-/

namespace HardwareMediatek.Wifi

open Foundation

namespace NanStats

section Records

/-- The fields of all statistics records. -/
inductive StatsField where
  | validPublishServiceReqMsgs | validPublishServiceRspMsgs | validPublishServiceCancelReqMsgs
  | validPublishServiceCancelRspMsgs | validPublishRepliedIndMsgs | validPublishTerminatedIndMsgs
  | validActiveSubscribes | validMatches | validFollowups | invalidPublishServiceReqMsgs
  | invalidPublishServiceCancelReqMsgs | invalidActiveSubscribes | invalidMatches
  | invalidFollowups | publishCount | publishNewMatchCount | pubsubGlobalNewMatchCount
  | validSubscribeServiceReqMsgs | validSubscribeServiceRspMsgs
  | validSubscribeServiceCancelReqMsgs | validSubscribeServiceCancelRspMsgs
  | validSubscribeTerminatedIndMsgs | validSubscribeMatchIndMsgs | validSubscribeUnmatchIndMsgs
  | validSolicitedPublishes | invalidSubscribeServiceReqMsgs | invalidSubscribeServiceCancelReqMsgs
  | invalidSubscribeFollowupReqMsgs | invalidSolicitedPublishes | subscribeCount | bloomFilterIndex
  | subscribeNewMatchCount | validFrames | validActionFrames | validBeaconFrames
  | ignoredActionFrames | ignoredBeaconFrames | invalidFrames | invalidActionFrames
  | invalidBeaconFrames | invalidMacHeaders | invalidPafHeaders | nonNanBeaconFrames
  | earlyActionFrames | inDwActionFrames | lateActionFrames | framesQueued | totalTRSpUpdates
  | completeByTRSp | completeByTp75DW | completeByTendDW | lateActionFramesTx | twIncreases
  | twDecreases | twChanges | twHighwater | currTsf | myRank | currAmRank | lastAmRank | currAmBTT
  | lastAmBTT | currAmHopCount | currRole | currClusterId | reserved1 | timeSpentInCurrRole
  | totalTimeSpentAsMaster | totalTimeSpentAsNonMasterSync | totalTimeSpentAsNonMasterNonSync
  | transitionsToAnchorMaster | transitionsToMaster | transitionsToNonMasterSync
  | transitionsToNonMasterNonSync | amrUpdateCount | amrUpdateRankChangedCount
  | amrUpdateBTTChangedCount | amrUpdateHcChangedCount | amrUpdateNewDeviceCount | amrExpireCount
  | mergeCount | beaconsAboveHcLimit | beaconsBelowRssiThresh | beaconsIgnoredNoSpace
  | beaconsForOurCluster | beaconsForOtherCluster | beaconCancelRequests | beaconCancelFailures
  | beaconUpdateRequests | beaconUpdateFailures | syncBeaconTxAttempts | syncBeaconTxFailures
  | discBeaconTxAttempts | discBeaconTxFailures | amHopCountExpireCount | ndpChannelFreq
  | ndpChannelFreq2 | schedUpdateChannelFreq | validErrorRspMsgs | validTransmitFollowupReqMsgs
  | validTransmitFollowupRspMsgs | validFollowupIndMsgs | validConfigurationReqMsgs
  | validConfigurationRspMsgs | validStatsReqMsgs | validStatsRspMsgs | validEnableReqMsgs
  | validEnableRspMsgs | validDisableReqMsgs | validDisableRspMsgs | validDisableIndMsgs
  | validEventIndMsgs | validTcaReqMsgs | validTcaRspMsgs | validTcaIndMsgs
  | invalidTransmitFollowupReqMsgs | invalidConfigurationReqMsgs | invalidStatsReqMsgs
  | invalidEnableReqMsgs | invalidDisableReqMsgs | invalidTcaReqMsgs
  deriving DecidableEq, Repr

open StatsField

/-- A run of counters of four bytes. -/
def u32s (fields : List StatsField) : Layout StatsField := fields.map fun field ↦ (field, 4)

def fwNanPublishStats : Layout StatsField :=
  u32s
    [validPublishServiceReqMsgs, validPublishServiceRspMsgs, validPublishServiceCancelReqMsgs,
      validPublishServiceCancelRspMsgs, validPublishRepliedIndMsgs, validPublishTerminatedIndMsgs,
      validActiveSubscribes, validMatches, validFollowups, invalidPublishServiceReqMsgs,
      invalidPublishServiceCancelReqMsgs, invalidActiveSubscribes, invalidMatches, invalidFollowups,
      publishCount, publishNewMatchCount, pubsubGlobalNewMatchCount]

def fwNanSubscribeStats : Layout StatsField :=
  u32s
    [validSubscribeServiceReqMsgs, validSubscribeServiceRspMsgs,
      validSubscribeServiceCancelReqMsgs, validSubscribeServiceCancelRspMsgs,
      validSubscribeTerminatedIndMsgs, validSubscribeMatchIndMsgs, validSubscribeUnmatchIndMsgs,
      validSolicitedPublishes, validMatches, validFollowups, invalidSubscribeServiceReqMsgs,
      invalidSubscribeServiceCancelReqMsgs, invalidSubscribeFollowupReqMsgs,
      invalidSolicitedPublishes, invalidMatches, invalidFollowups, subscribeCount, bloomFilterIndex,
      subscribeNewMatchCount, pubsubGlobalNewMatchCount]

/-- The fields of `FwNanMacStats` that are used for MAC and DW statistics. -/
def macFrameStats : Layout StatsField :=
  u32s
    [validFrames, validActionFrames, validBeaconFrames, ignoredActionFrames, ignoredBeaconFrames,
      invalidFrames, invalidActionFrames, invalidBeaconFrames, invalidMacHeaders, invalidPafHeaders,
      nonNanBeaconFrames, earlyActionFrames, inDwActionFrames, lateActionFrames, framesQueued,
      totalTRSpUpdates, completeByTRSp, completeByTp75DW, completeByTendDW, lateActionFramesTx]

/-- Those that are ignored for DW. -/
def macMiscStats : Layout StatsField :=
  u32s
    [twIncreases, twDecreases, twChanges, twHighwater, bloomFilterIndex]

def fwNanMacStats : Layout StatsField := macFrameStats ++ macMiscStats

def fwNanSyncStats : Layout StatsField :=
  [(currTsf, 8), (myRank, 8), (currAmRank, 8), (lastAmRank, 8), (currAmBTT, 4), (lastAmBTT, 4),
    (currAmHopCount, 1), (currRole, 1), (currClusterId, 2), (reserved1, 4), (timeSpentInCurrRole, 8),
    (totalTimeSpentAsMaster, 8), (totalTimeSpentAsNonMasterSync, 8),
    (totalTimeSpentAsNonMasterNonSync, 8)] ++
  u32s
    [transitionsToAnchorMaster, transitionsToMaster, transitionsToNonMasterSync,
      transitionsToNonMasterNonSync, amrUpdateCount, amrUpdateRankChangedCount,
      amrUpdateBTTChangedCount, amrUpdateHcChangedCount, amrUpdateNewDeviceCount, amrExpireCount,
      mergeCount, beaconsAboveHcLimit, beaconsBelowRssiThresh, beaconsIgnoredNoSpace,
      beaconsForOurCluster, beaconsForOtherCluster, beaconCancelRequests, beaconCancelFailures,
      beaconUpdateRequests, beaconUpdateFailures, syncBeaconTxAttempts, syncBeaconTxFailures,
      discBeaconTxAttempts, discBeaconTxFailures, amHopCountExpireCount, ndpChannelFreq,
      ndpChannelFreq2, schedUpdateChannelFreq]

def fwNanDeStats : Layout StatsField :=
  u32s
    [validErrorRspMsgs, validTransmitFollowupReqMsgs, validTransmitFollowupRspMsgs,
      validFollowupIndMsgs, validConfigurationReqMsgs, validConfigurationRspMsgs, validStatsReqMsgs,
      validStatsRspMsgs, validEnableReqMsgs, validEnableRspMsgs, validDisableReqMsgs,
      validDisableRspMsgs, validDisableIndMsgs, validEventIndMsgs, validTcaReqMsgs, validTcaRspMsgs,
      validTcaIndMsgs, invalidTransmitFollowupReqMsgs, invalidConfigurationReqMsgs,
      invalidStatsReqMsgs, invalidEnableReqMsgs, invalidDisableReqMsgs, invalidTcaReqMsgs]

end Records

section Copies

open StatsField

def publishCopies : List (StatsField × StatsField) :=
  sameNames
    [validPublishServiceReqMsgs, validPublishServiceRspMsgs, validPublishServiceCancelReqMsgs,
      validPublishServiceCancelRspMsgs, validPublishRepliedIndMsgs, validPublishTerminatedIndMsgs,
      validActiveSubscribes, validMatches, validFollowups, invalidPublishServiceReqMsgs,
      invalidPublishServiceCancelReqMsgs, invalidActiveSubscribes, invalidMatches, invalidFollowups,
      publishCount, publishNewMatchCount, pubsubGlobalNewMatchCount]

def subscribeCopies : List (StatsField × StatsField) :=
  sameNames
    [validSubscribeServiceReqMsgs, validSubscribeServiceRspMsgs,
      validSubscribeServiceCancelReqMsgs, validSubscribeServiceCancelRspMsgs,
      validSubscribeTerminatedIndMsgs, validSubscribeMatchIndMsgs, validSubscribeUnmatchIndMsgs,
      validSolicitedPublishes, validMatches, validFollowups, invalidSubscribeServiceReqMsgs,
      invalidSubscribeServiceCancelReqMsgs, invalidSubscribeFollowupReqMsgs,
      invalidSolicitedPublishes, invalidMatches, invalidFollowups, subscribeCount, bloomFilterIndex,
      subscribeNewMatchCount, pubsubGlobalNewMatchCount]

def dwCopies : List (StatsField × StatsField) :=
  sameNames
    [validFrames, validActionFrames, validBeaconFrames, ignoredActionFrames, ignoredBeaconFrames,
      invalidFrames, invalidActionFrames, invalidBeaconFrames, invalidMacHeaders, invalidPafHeaders,
      nonNanBeaconFrames, earlyActionFrames, inDwActionFrames, lateActionFrames, framesQueued,
      totalTRSpUpdates, completeByTRSp, completeByTp75DW, completeByTendDW, lateActionFramesTx]

def macCopies : List (StatsField × StatsField) :=
  sameNames
    [validFrames, validActionFrames, validBeaconFrames, ignoredActionFrames, ignoredBeaconFrames,
      invalidFrames, invalidActionFrames, invalidBeaconFrames, invalidMacHeaders, invalidPafHeaders,
      nonNanBeaconFrames, earlyActionFrames, inDwActionFrames, lateActionFrames, framesQueued,
      totalTRSpUpdates, completeByTRSp, completeByTp75DW, completeByTendDW, lateActionFramesTx,
      twIncreases, twDecreases, twChanges, twHighwater, bloomFilterIndex]

def syncCopies : List (StatsField × StatsField) :=
  sameNames
    [currTsf, myRank, currAmRank, lastAmRank, currAmBTT, lastAmBTT, currAmHopCount, currRole,
      currClusterId, timeSpentInCurrRole, totalTimeSpentAsMaster, totalTimeSpentAsNonMasterSync,
      totalTimeSpentAsNonMasterNonSync, transitionsToAnchorMaster, transitionsToMaster,
      transitionsToNonMasterSync, transitionsToNonMasterNonSync, amrUpdateCount,
      amrUpdateRankChangedCount, amrUpdateBTTChangedCount, amrUpdateHcChangedCount,
      amrUpdateNewDeviceCount, amrExpireCount, mergeCount, beaconsAboveHcLimit,
      beaconsBelowRssiThresh, beaconsIgnoredNoSpace] ++
  [(beaconsForOurCluster, beaconsForOtherCluster)] ++
  sameNames
    [beaconsForOtherCluster, beaconCancelRequests, beaconCancelFailures, beaconUpdateRequests,
      beaconUpdateFailures, syncBeaconTxAttempts, syncBeaconTxFailures, discBeaconTxAttempts,
      discBeaconTxFailures, amHopCountExpireCount, ndpChannelFreq, ndpChannelFreq2,
      schedUpdateChannelFreq]

def deCopies : List (StatsField × StatsField) :=
  sameNames
    [validErrorRspMsgs, validTransmitFollowupReqMsgs, validTransmitFollowupRspMsgs,
      validFollowupIndMsgs, validConfigurationReqMsgs, validConfigurationRspMsgs, validStatsReqMsgs,
      validStatsRspMsgs, validEnableReqMsgs, validEnableRspMsgs, validDisableReqMsgs,
      validDisableRspMsgs, validDisableIndMsgs, validEventIndMsgs, validTcaReqMsgs, validTcaRspMsgs,
      validTcaIndMsgs, invalidTransmitFollowupReqMsgs, invalidConfigurationReqMsgs,
      invalidStatsReqMsgs, invalidEnableReqMsgs, invalidDisableReqMsgs, invalidTcaReqMsgs]

end Copies

section Kinds

/-- The values of `NanStatsType`. -/
inductive NanStatsKind where
  | publish | subscribe | mac | timingSync | dw | de
  deriving DecidableEq, Repr

def statsKind : ℕ → Option NanStatsKind
  | 0 => some .publish
  | 1 => some .subscribe
  | 2 => some .mac
  | 3 => some .timingSync
  | 4 => some .dw
  | 5 => some .de
  | _ => none

/-- The structure of the firmware that `rspBuf` is taken for. -/
def NanStatsKind.layout : NanStatsKind → Layout StatsField
  | .publish => fwNanPublishStats
  | .subscribe => fwNanSubscribeStats
  | .mac | .dw => fwNanMacStats
  | .timingSync => fwNanSyncStats
  | .de => fwNanDeStats

/-- The fields of the structure of the framework. -/
def NanStatsKind.fields : NanStatsKind → List StatsField
  | .publish => fwNanPublishStats.names
  | .subscribe => fwNanSubscribeStats.names
  | .mac => fwNanMacStats.names
  | .timingSync => fwNanSyncStats.names.filter (· ≠ .reserved1)
  | .dw => macFrameStats.names
  | .de => fwNanDeStats.names

def NanStatsKind.copies : NanStatsKind → List (StatsField × StatsField)
  | .publish => publishCopies
  | .subscribe => subscribeCopies
  | .mac => macCopies
  | .timingSync => syncCopies
  | .dw => dwCopies
  | .de => deCopies

/-- `sizeof` of the structure of the framework. -/
def NanStatsKind.sizeof (sizes : FrameworkSizes) : NanStatsKind → ℕ
  | .publish => sizes.nanPublishStats
  | .subscribe => sizes.nanSubscribeStats
  | .mac => sizes.nanMacStats
  | .timingSync => sizes.nanSyncStats
  | .dw => sizes.nanDwStats
  | .de => sizes.nanDeStats

end Kinds

section Response

/-- The union of the response: the member that was written last, with its fields. -/
structure NanStatsData where
  member : NanStatsKind
  values : StatsField → ℕ

structure NanStatsResponse where
  stats_type : ℕ
  data : Option NanStatsData

/-- The fields of the record at `rspBuf`. -/
def NanStatsKind.record (kind : NanStatsKind) (rspBuf : Bytes) : StatsField → ℕ :=
  kind.layout.read rspBuf 0

variable (sizes : FrameworkSizes) (stack : StatsField → ℕ)

/-- The local record starts with whatever is on the stack. -/
def handleNanStatsResponse (stats_type : ℕ) (rspBuf : Bytes) (pRsp : NanStatsResponse)
    (message_len : ℕ) : NanStatsResponse :=
  match statsKind stats_type with
  | none => pRsp
  | some kind =>
    if message_len ≠ kind.sizeof sizes then pRsp
    else { pRsp with data := some ⟨kind, copyFields kind.copies (kind.record rspBuf) stack⟩ }

/-- The case of `NAN_MSG_ID_STATS_RSP`, as far as the statistics go. -/
def getNanResponse (event : NanEvent) (pRsp : NanStatsResponse) : NanStatsResponse :=
  let pRsp := { pRsp with stats_type := (event.bytes 12).toNat }
  if 0 < event.remainingLen (sizeofNanMsgHeader + sizeofNanStatsRspParams) then
    let outputTlv := nantlvReadTlv event.bytes 14
    if outputTlv.length ≤ sizes.statsResponseData then
      handleNanStatsResponse sizes stack pRsp.stats_type
        (fun i ↦ event.bytes (outputTlv.value + i)) pRsp outputTlv.length
    else pRsp
  else pRsp

end Response

end NanStats

end HardwareMediatek.Wifi
