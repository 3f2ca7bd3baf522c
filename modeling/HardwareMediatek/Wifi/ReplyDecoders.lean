import HardwareMediatek.Foundation.CIntegers
import HardwareMediatek.Foundation.NlIterator

/-!
# Decoders of vendor replies

The `handleResponse` functions that copy from the vendor data of a reply into an array of the caller.
Each is a function from the reply to what it does: the regions of the vendor data it reads, the bytes
it writes to the caller's array, and the count it reports. The sizes of framework types are those of
the framework headers.
-/

namespace HardwareMediatek.Wifi

open Foundation

def wifiAttributeNumChannels : ℕ := 2
def wifiAttributeChannelList : ℕ := 3
def wifiAttributeRoamingBlacklistNum : ℕ := 10
def wifiAttributeRoamingWhitelistNum : ℕ := 12
def wifiAttributeUsableChannelRespArray : ℕ := 1
def mtkApfAttributeProgram : ℕ := 3
def mtkApfAttributeProgramLen : ℕ := 4

def sizeofWifiChannel : ℕ := 4
def sizeofFeatureSet : ℕ := 8
def sizeofWifiUsableChannel : ℕ := 12
/-- The size of `wifi_usable_channel_response`, and the offset of its array. -/
def sizeofWifiUsableChannelResponse : ℕ := 4
def sizeofWifiRoamingCapabilities : ℕ := 8
def maxBlacklistBssid : ℕ := 16
def maxWhitelistSsid : ℕ := 8

/-- A reply: whether it is a vendor command, and its vendor data. -/
structure VendorReply where
  isVendorCmd : Bool
  vendorData : Option Payload

/-- A region of the vendor data that is read, and where the attribute it is read from ends. -/
structure SourceRead where
  region : Region
  limit : ℕ
  deriving DecidableEq, Repr

/-- Bytes written from the start of the caller's array, and the size of that array. -/
structure CallerWrite where
  size : ℕ
  capacity : ℕ
  deriving DecidableEq, Repr

inductive NlStatus where
  | skip
  | ok
  deriving DecidableEq, Repr

structure RoamingCapabilities where
  max_blacklist_size : ℕ := 0
  max_whitelist_size : ℕ := 0
  deriving DecidableEq, Repr

/-- What a decoder does with a reply. -/
structure Decoded where
  status : NlStatus := .ok
  reads : List SourceRead := []
  writes : List CallerWrite := []
  reported : Option ℤ := none
  /-- entries of the caller's array that were copied -/
  entries : ℕ := 0
  cap : RoamingCapabilities := {}
  deriving DecidableEq, Repr

/-- `get_u32` reads four bytes whatever the length of the attribute. -/
def getU32Read (attr : AttrView) : SourceRead := { region := ⟨attr.start, 4⟩, limit := attr.limit }

/-- Replies without vendor data are skipped. -/
def withVendorData (reply : VendorReply) (decode : Payload → Decoded) : Decoded :=
  if ¬ reply.isVendorCmd then { status := .skip }
  else
    match reply.vendorData with
    | none => { status := .skip }
    | some payload => if payload.len = 0 then { status := .skip } else decode payload

/-! ## `GetChannelListCommand` -/

structure ChannelListState where
  num_channels : ℤ := 0
  decoded : Decoded := {}

/-- The count an attribute claims, cut to the caller's capacity. -/
def claimedChannels (mMaxChannels : ℕ) (bytes : Bytes) (attr : AttrView) : ℤ :=
  min (asInt (u32At bytes attr.start)) mMaxChannels

def channelListStep (mMaxChannels : ℕ) (bytes : Bytes) (state : ChannelListState)
    (attr : AttrView) : ChannelListState :=
  if attr.type = wifiAttributeNumChannels then
    { num_channels := claimedChannels mMaxChannels bytes attr
      decoded := { state.decoded with
        reads := state.decoded.reads ++ [getU32Read attr]
        reported := some (claimedChannels mMaxChannels bytes attr) } }
  else if attr.type = wifiAttributeChannelList ∧ state.num_channels ≠ 0 then
    let size := asSize (sizeofWifiChannel * state.num_channels)
    { state with
      decoded := { state.decoded with
        reads := state.decoded.reads ++
          [{ region := ⟨attr.start, size⟩, limit := attr.limit }]
        writes := state.decoded.writes ++
          [{ size := size, capacity := sizeofWifiChannel * mMaxChannels }]
        entries := max state.decoded.entries (size / sizeofWifiChannel) } }
  else state

def getChannelListResponse (mMaxChannels : ℕ) (reply : VendorReply) : Decoded :=
  withVendorData reply fun payload ↦
    (payload.attrs.foldl (channelListStep mMaxChannels payload.bytes) {}).decoded

/-! ## `AndroidPacketFilterCommand`, reading the program -/

def readFilterStep (mProgramLen : ℕ) (decoded : Decoded) (attr : AttrView) : Decoded :=
  if attr.type = mtkApfAttributeProgram then
    { decoded with
      reads := decoded.reads ++ [{ region := ⟨attr.start, mProgramLen⟩, limit := attr.limit }]
      writes := decoded.writes ++ [{ size := mProgramLen, capacity := mProgramLen }] }
  else if attr.type = mtkApfAttributeProgramLen then
    { decoded with reads := decoded.reads ++ [getU32Read attr] }
  else decoded

def readPacketFilterResponse (mProgramLen : ℕ) (reply : VendorReply) : Decoded :=
  withVendorData reply fun payload ↦ payload.attrs.foldl (readFilterStep mProgramLen) {}

/-! ## `GetUsableChannelCommand` -/

/-- The decoder looks at the first attribute without asking whether there is one. -/
def decodeUsableChannels (mMaxSize : ℕ) (payload : Payload) : Decoded :=
  let nla_len := u16At payload.bytes 0
  let get_len : ℤ := nla_len - nlaHdrlen
  let array_size := u16At payload.bytes nlaHdrlen
  let typeRead : SourceRead := { region := ⟨2, 2⟩, limit := payload.len }
  let lenRead : SourceRead := { region := ⟨0, 2⟩, limit := payload.len }
  let sizeRead : SourceRead := { region := ⟨nlaHdrlen, 2⟩, limit := nla_len }
  if u16At payload.bytes 2 = wifiAttributeUsableChannelRespArray then
    if asSize get_len < 2 then { status := .skip, reads := [typeRead, lenRead] }
    else if asSize get_len <
        sizeofWifiUsableChannel * array_size + sizeofWifiUsableChannelResponse then
      { status := .skip, reads := [typeRead, lenRead, sizeRead] }
    else
      { reads := [typeRead, lenRead, sizeRead,
          { region := ⟨nlaHdrlen + sizeofWifiUsableChannelResponse,
              sizeofWifiUsableChannel * array_size⟩
            limit := nla_len }]
        writes := [{ size := sizeofWifiUsableChannel * array_size
                     capacity := sizeofWifiUsableChannel * mMaxSize }]
        reported := some array_size
        entries := array_size }
  else { status := .skip, reads := [typeRead] }

def getUsableChannelResponse (mMaxSize : ℕ) (reply : VendorReply) : Decoded :=
  withVendorData reply (decodeUsableChannels mMaxSize)

/-! ## `GetFeatureSetCommand` -/

inductive FeatureType where
  | featureSet
  | roamingCapabilities
  | other
  deriving DecidableEq, Repr

/-- The object's request: which pointers of the caller are set, and `set_size_max`. -/
structure FeatureRequest where
  feature_type : FeatureType
  fset : Bool
  feature_matrix : Bool
  fm_size : Bool
  set_size_max : ℕ

def roamingStep (bytes : Bytes) (decoded : Decoded) (attr : AttrView) : Decoded :=
  if attr.type = wifiAttributeRoamingBlacklistNum then
    { decoded with
      reads := decoded.reads ++ [getU32Read attr]
      cap := { decoded.cap with
        max_blacklist_size := min (u32At bytes attr.start) maxBlacklistBssid } }
  else if attr.type = wifiAttributeRoamingWhitelistNum then
    { decoded with
      reads := decoded.reads ++ [getU32Read attr]
      cap := { decoded.cap with
        max_whitelist_size := min (u32At bytes attr.start) maxWhitelistSsid } }
  else decoded

/-- `feature_matrix` is an array of `set_size_max` four-byte entries, and the capabilities are
two of them. -/
def decodeRoaming (request : FeatureRequest) (payload : Payload) : Decoded :=
  let decoded := payload.attrs.foldl (roamingStep payload.bytes) {}
  { decoded with
    writes := [{ size := sizeofWifiRoamingCapabilities, capacity := 4 * request.set_size_max }]
    reported := some request.set_size_max
    entries := 2 }

def decodeFeatureSet (request : FeatureRequest) (payload : Payload) : Decoded :=
  match request.feature_type with
  | .featureSet =>
      if ¬ request.fset then { status := .skip }
      else
        { reads := [{ region := ⟨0, min payload.len sizeofFeatureSet⟩, limit := payload.len }]
          writes := [{ size := min payload.len sizeofFeatureSet, capacity := sizeofFeatureSet }] }
  | .roamingCapabilities =>
      if ¬ request.feature_matrix ∨ ¬ request.fm_size then { status := .skip }
      else decodeRoaming request payload
  | .other => {}

def getFeatureSetResponse (request : FeatureRequest) (reply : VendorReply) : Decoded :=
  withVendorData reply (decodeFeatureSet request)

/-- A command object that decodes replies. -/
inductive ReplyDecoder where
  | channelList (mMaxChannels : ℕ)
  | readPacketFilter (mProgramLen : ℕ)
  | usableChannel (mMaxSize : ℕ)
  | featureSet (request : FeatureRequest)

def ReplyDecoder.handleResponse : ReplyDecoder → VendorReply → Decoded
  | .channelList mMaxChannels => getChannelListResponse mMaxChannels
  | .readPacketFilter mProgramLen => readPacketFilterResponse mProgramLen
  | .usableChannel mMaxSize => getUsableChannelResponse mMaxSize
  | .featureSet request => getFeatureSetResponse request

end HardwareMediatek.Wifi
