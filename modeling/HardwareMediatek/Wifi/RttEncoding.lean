import HardwareMediatek.Foundation.MessageSpace
import HardwareMediatek.Wifi.HalCommands
import HardwareMediatek.Wifi.NanCommand

/-!
# Ranging requests as messages

`RttRequestCommand::create` writes a nest for each target into a message of a page, and
`RttCancelCommand::create` the addresses of the targets. What the driver can read back from the message is
given by decoders of the two formats.
-/

namespace HardwareMediatek.Wifi

open Foundation

section Attributes

def nl80211AttrIfindex : UInt16 := 3
def nl80211AttrVendorId : UInt16 := 195
def nl80211AttrVendorSubcmd : UInt16 := 196
def nl80211AttrVendorData : UInt16 := 197

def rttAttributeTargetCnt : UInt16 := 1
def rttAttributeTargetInfo : UInt16 := 2
def rttAttributeTargetMac : UInt16 := 3
def rttAttributeTargetType : UInt16 := 4
def rttAttributeTargetPeer : UInt16 := 5
def rttAttributeTargetChan : UInt16 := 6
def rttAttributeTargetPeriod : UInt16 := 7
def rttAttributeTargetNumBurst : UInt16 := 8
def rttAttributeTargetNumFtmBurst : UInt16 := 9
def rttAttributeTargetNumRetryFtm : UInt16 := 10
def rttAttributeTargetNumRetryFtmr : UInt16 := 11
def rttAttributeTargetLci : UInt16 := 12
def rttAttributeTargetLcr : UInt16 := 13
def rttAttributeTargetBurstDuration : UInt16 := 14
def rttAttributeTargetPreamble : UInt16 := 15
def rttAttributeTargetBw : UInt16 := 16

/-- `ANDROID_NL80211_SUBCMD_RTT_RANGE_START` -/
def rttSubcmdSetConfig : UInt32 := 0x1100
def rttSubcmdCancelConfig : UInt32 := 0x1101

/-- `mac_addr` -/
abbrev MacAddr : Type := { bytes : List UInt8 // bytes.length = 6 }

structure WifiChannelInfo where
  width : UInt32
  center_freq : UInt32
  center_freq0 : UInt32
  center_freq1 : UInt32
  deriving DecidableEq, Repr

/-- `wifi_rtt_config`. The enumerations are of the size of an `int`. -/
structure RttConfig where
  addr : MacAddr
  type : UInt32
  peer : UInt32
  channel : WifiChannelInfo
  burst_period : UInt32
  num_burst : UInt32
  num_frames_per_burst : UInt32
  num_retries_per_rtt_frame : UInt32
  num_retries_per_ftmr : UInt32
  LCI_request : UInt8
  LCR_request : UInt8
  burst_duration : UInt32
  preamble : UInt32
  bw : UInt32
  deriving DecidableEq, Repr

/-- The enumerations that are sent as a byte have values of a byte. -/
structure RttConfig.ByteSized (config : RttConfig) : Prop where
  type : config.type < 256
  peer : config.peer < 256
  preamble : config.preamble < 256
  bw : config.bw < 256

end Attributes

section Create

/-- The memory of a message is a page, so that the lengths of its nests fit in their 16 bits. -/
structure MessagePage where
  capacity : ℕ
  headers_le : 20 ≤ capacity
  capacity_le : capacity ≤ 65536

abbrev RttBuf := MsgBuf UInt16

/-- What a command meets with: memory for its message, and the index of its interface. -/
structure CreateEnv where
  page : MessagePage
  nlmsgAlloc : Bool
  mIface : UInt32

variable (env : CreateEnv)

/-- The headers of netlink and of generic netlink take 20 bytes. -/
def MessagePage.empty (page : MessagePage) : RttBuf := ⟨{}, 20, page.capacity⟩

def vendorPuts (mIface id subcmd : UInt32) : List (UInt16 × List UInt8) :=
  [(nl80211AttrVendorId, u32Bytes id), (nl80211AttrVendorSubcmd, u32Bytes subcmd)] ++
    if mIface ≠ 0xffffffff then [(nl80211AttrIfindex, u32Bytes mIface)] else []

/-- `WifiRequest::create` of a vendor command. -/
def createVendorRequest (id subcmd : UInt32) : Except BuildStop RttBuf :=
  if env.nlmsgAlloc then env.page.empty.putAll (vendorPuts env.mIface id subcmd)
  else .error (.failed WifiError.outOfMemory.code)

def WifiChannelInfo.bytes (channel : WifiChannelInfo) : List UInt8 :=
  u32Bytes channel.width ++ u32Bytes channel.center_freq ++ u32Bytes channel.center_freq0 ++
    u32Bytes channel.center_freq1

/-- The attributes of a target in their order. -/
def targetPuts (config : RttConfig) : List (UInt16 × List UInt8) :=
  [(rttAttributeTargetMac, config.addr.1),
    (rttAttributeTargetType, [config.type.toUInt8]),
    (rttAttributeTargetPeer, [config.peer.toUInt8]),
    (rttAttributeTargetChan, config.channel.bytes),
    (rttAttributeTargetNumBurst, u32Bytes config.num_burst),
    (rttAttributeTargetNumFtmBurst, u32Bytes config.num_frames_per_burst),
    (rttAttributeTargetNumRetryFtm, u32Bytes config.num_retries_per_rtt_frame),
    (rttAttributeTargetNumRetryFtmr, u32Bytes config.num_retries_per_ftmr),
    (rttAttributeTargetPeriod, u32Bytes config.burst_period),
    (rttAttributeTargetBurstDuration, u32Bytes config.burst_duration),
    (rttAttributeTargetLci, [config.LCI_request]),
    (rttAttributeTargetLcr, [config.LCR_request]),
    (rttAttributeTargetBw, [config.bw.toUInt8]),
    (rttAttributeTargetPreamble, [config.preamble.toUInt8])]

/-- One round of the loop over the targets; the index of a target is the type of its nest. -/
def putTarget (buf : RttBuf) (target : RttConfig × ℕ) : Except BuildStop RttBuf :=
  let (attr2, buf) := buf.attrStart (UInt16.ofNat target.2)
  if attr2 then do
    let buf ← buf.putAll (targetPuts target.1)
    buf.attrEnd attr2
  else .error (.failed WifiError.outOfMemory.code)

/-- The nest of the targets. Its pointer is not looked at. -/
def putTargets (buf : RttBuf) (mRttConfigs : List RttConfig) : Except BuildStop RttBuf :=
  let (rtt_config, buf) := buf.attrStart rttAttributeTargetInfo
  do
    let buf ← mRttConfigs.zipIdx.foldlM putTarget buf
    buf.attrEnd rtt_config

/-- `RttRequestCommand::create`. The pointer of the nest of all data is not looked at either. -/
def rttRequestCreate (mRttConfigs : List RttConfig) : Except BuildStop RttBuf := do
  let buf ← createVendorRequest env googleOui rttSubcmdSetConfig
  let (data, buf) := buf.attrStart nl80211AttrVendorData
  let buf ← (do
    let buf ← buf.put rttAttributeTargetCnt [UInt8.ofNat mRttConfigs.length]
    putTargets buf mRttConfigs)
  buf.attrEnd data

/-- `RttCancelCommand::create` -/
def rttCancelCreate (mAddrs : List MacAddr) : Except BuildStop RttBuf := do
  let buf ← createVendorRequest env googleOui rttSubcmdCancelConfig
  let (data, buf) := buf.attrStart nl80211AttrVendorData
  if data then do
    let buf ← (do
      let buf ← buf.put rttAttributeTargetCnt [UInt8.ofNat mAddrs.length]
      buf.putAll (mAddrs.map fun addr ↦ (rttAttributeTargetMac, addr.1)))
    buf.attrEnd data
  else .error (.failed WifiError.unknown.code)

end Create

section Decode

/-- The payload of the first attribute of a type. -/
def findPayload (type : UInt16) (attrs : List (NlAttr UInt16)) : Option (List UInt8) :=
  attrs.findSome? fun attr ↦
    match attr with
    | .payload attrType data => if attrType = type then some data else none
    | .nest _ _ => none

def findNest (type : UInt16) (attrs : List (NlAttr UInt16)) : Option (List (NlAttr UInt16)) :=
  attrs.findSome? fun attr ↦
    match attr with
    | .payload _ _ => none
    | .nest attrType inner => if attrType = type then some inner else none

def u8OfBytes : List UInt8 → Option UInt8
  | [value] => some value
  | _ => none

def u32OfBytes : List UInt8 → Option UInt32
  | [b0, b1, b2, b3] =>
    some (UInt32.ofNat (b0.toNat + 256 * b1.toNat + 65536 * b2.toNat + 16777216 * b3.toNat))
  | _ => none

def macOfBytes (data : List UInt8) : Option MacAddr :=
  if hlength : data.length = 6 then some ⟨data, hlength⟩ else none

def channelOfBytes (data : List UInt8) : Option WifiChannelInfo := do
  let width ← u32OfBytes (data.take 4)
  let center_freq ← u32OfBytes ((data.drop 4).take 4)
  let center_freq0 ← u32OfBytes ((data.drop 8).take 4)
  let center_freq1 ← u32OfBytes (data.drop 12)
  return ⟨width, center_freq, center_freq0, center_freq1⟩

def decodeTarget (attrs : List (NlAttr UInt16)) : Option RttConfig := do
  let addr ← (findPayload rttAttributeTargetMac attrs).bind macOfBytes
  let type ← (findPayload rttAttributeTargetType attrs).bind u8OfBytes
  let peer ← (findPayload rttAttributeTargetPeer attrs).bind u8OfBytes
  let channel ← (findPayload rttAttributeTargetChan attrs).bind channelOfBytes
  let burst_period ← (findPayload rttAttributeTargetPeriod attrs).bind u32OfBytes
  let num_burst ← (findPayload rttAttributeTargetNumBurst attrs).bind u32OfBytes
  let num_frames_per_burst ← (findPayload rttAttributeTargetNumFtmBurst attrs).bind u32OfBytes
  let num_retries_per_rtt_frame ← (findPayload rttAttributeTargetNumRetryFtm attrs).bind u32OfBytes
  let num_retries_per_ftmr ← (findPayload rttAttributeTargetNumRetryFtmr attrs).bind u32OfBytes
  let LCI_request ← (findPayload rttAttributeTargetLci attrs).bind u8OfBytes
  let LCR_request ← (findPayload rttAttributeTargetLcr attrs).bind u8OfBytes
  let burst_duration ← (findPayload rttAttributeTargetBurstDuration attrs).bind u32OfBytes
  let preamble ← (findPayload rttAttributeTargetPreamble attrs).bind u8OfBytes
  let bw ← (findPayload rttAttributeTargetBw attrs).bind u8OfBytes
  return {
    addr, type := type.toUInt32, peer := peer.toUInt32, channel, burst_period, num_burst,
    num_frames_per_burst, num_retries_per_rtt_frame, num_retries_per_ftmr, LCI_request, LCR_request,
    burst_duration, preamble := preamble.toUInt32, bw := bw.toUInt32 }

def decodeTargetNest : NlAttr UInt16 → Option RttConfig
  | .payload _ _ => none
  | .nest _ attrs => decodeTarget attrs

/-- The number of targets and the targets of a request, in the order of their nests. -/
def decodeRttRequest (attrs : List (NlAttr UInt16)) : Option (UInt8 × List RttConfig) := do
  let data ← findNest nl80211AttrVendorData attrs
  let cnt ← (findPayload rttAttributeTargetCnt data).bind u8OfBytes
  let targets ← findNest rttAttributeTargetInfo data
  let configs ← targets.mapM decodeTargetNest
  return (cnt, configs)

def decodeAddress : NlAttr UInt16 → Option MacAddr
  | .payload type data => if type = rttAttributeTargetMac then macOfBytes data else none
  | .nest _ _ => none

/-- The number of addresses and the addresses of a cancel request. -/
def decodeRttCancel (attrs : List (NlAttr UInt16)) : Option (UInt8 × List MacAddr) := do
  let data ← findNest nl80211AttrVendorData attrs
  let cnt ← (findPayload rttAttributeTargetCnt data).bind u8OfBytes
  return (cnt, data.filterMap decodeAddress)

/-- What is created is read back, with the number of its targets. -/
def RequestLossless (page : MessagePage) (mIface : UInt32) (mRttConfigs : List RttConfig) : Prop :=
  ∀ nlmsgAlloc buf, rttRequestCreate ⟨page, nlmsgAlloc, mIface⟩ mRttConfigs = .ok buf →
    ∃ cnt, decodeRttRequest buf.message.attrs = some (cnt, mRttConfigs) ∧ cnt.toNat = mRttConfigs.length

def CancelLossless (page : MessagePage) (mIface : UInt32) (mAddrs : List MacAddr) : Prop :=
  ∀ nlmsgAlloc buf, rttCancelCreate ⟨page, nlmsgAlloc, mIface⟩ mAddrs = .ok buf →
    ∃ cnt, decodeRttCancel buf.message.attrs = some (cnt, mAddrs) ∧ cnt.toNat = mAddrs.length

end Decode

section Targets

theorem u32OfBytes_u32Bytes (value : UInt32) : u32OfBytes (u32Bytes value) = some value := by
  have hlt := value.toNat_lt
  apply congrArg some
  apply UInt32.toNat_inj.mp
  rw [UInt32.toNat_ofNat']
  simp only [UInt32.toNat_toUInt8, UInt32.toNat_shiftRight, Nat.shiftRight_eq_div_pow, UInt32.reduceToNat,
    Nat.reduceMod, Nat.reducePow]
  omega

theorem toUInt32_toUInt8 {value : UInt32} (hlt : value < 256) : value.toUInt8.toUInt32 = value := by
  apply UInt32.toNat_inj.mp
  rw [UInt8.toNat_toUInt32, UInt32.toNat_toUInt8]
  exact Nat.mod_eq_of_lt hlt

theorem macOfBytes_val (addr : MacAddr) : macOfBytes addr.1 = some addr := dif_pos addr.2

theorem channelOfBytes_bytes (channel : WifiChannelInfo) :
    channelOfBytes channel.bytes = some channel := by
  have hread : channelOfBytes channel.bytes = (do
      let width ← u32OfBytes (u32Bytes channel.width)
      let center_freq ← u32OfBytes (u32Bytes channel.center_freq)
      let center_freq0 ← u32OfBytes (u32Bytes channel.center_freq0)
      let center_freq1 ← u32OfBytes (u32Bytes channel.center_freq1)
      return ⟨width, center_freq, center_freq0, center_freq1⟩) := rfl
  rw [hread]
  simp only [u32OfBytes_u32Bytes]
  rfl

theorem decodeTarget_targetPuts {config : RttConfig} (hbytes : config.ByteSized) :
    decodeTarget (payloads (targetPuts config)) = some config := by
  have hread : decodeTarget (payloads (targetPuts config)) = (do
      let addr ← macOfBytes config.addr.1
      let channel ← channelOfBytes config.channel.bytes
      let burst_period ← u32OfBytes (u32Bytes config.burst_period)
      let num_burst ← u32OfBytes (u32Bytes config.num_burst)
      let num_frames_per_burst ← u32OfBytes (u32Bytes config.num_frames_per_burst)
      let num_retries_per_rtt_frame ← u32OfBytes (u32Bytes config.num_retries_per_rtt_frame)
      let num_retries_per_ftmr ← u32OfBytes (u32Bytes config.num_retries_per_ftmr)
      let burst_duration ← u32OfBytes (u32Bytes config.burst_duration)
      return {
        config with
        addr, type := config.type.toUInt8.toUInt32, peer := config.peer.toUInt8.toUInt32, channel,
        burst_period, num_burst, num_frames_per_burst, num_retries_per_rtt_frame, num_retries_per_ftmr,
        burst_duration, preamble := config.preamble.toUInt8.toUInt32, bw := config.bw.toUInt8.toUInt32 }) :=
    rfl
  rw [hread, macOfBytes_val, channelOfBytes_bytes, toUInt32_toUInt8 hbytes.type,
    toUInt32_toUInt8 hbytes.peer, toUInt32_toUInt8 hbytes.preamble, toUInt32_toUInt8 hbytes.bw]
  simp only [u32OfBytes_u32Bytes]
  rfl

def targetAttr (target : RttConfig × ℕ) : NlAttr UInt16 :=
  .nest (UInt16.ofNat target.2) (payloads (targetPuts target.1))

theorem adds_putTarget (buf : RttBuf) (target : RttConfig × ℕ) :
    buf.Adds (putTarget buf target) [targetAttr target] := by
  unfold putTarget targetAttr
  by_cases hroom : buf.used + nlaHdrlen ≤ buf.capacity
  · rw [MsgBuf.attrStart_of_room hroom]
    exact MsgBuf.adds_nest (MsgBuf.adds_putAll hroom (targetPuts target.1))
  · rw [MsgBuf.attrStart_of_not_room hroom]
    exact MsgBuf.adds_of_not_fits rfl (MsgBuf.not_fits_of_not_room hroom _)

/-- The targets are read back in their order, whatever the types of their nests. -/
theorem mapM_decodeTargetNest {mRttConfigs : List RttConfig}
    (hbytes : ∀ config ∈ mRttConfigs, config.ByteSized) (start : ℕ) :
    ((mRttConfigs.zipIdx start).map targetAttr).mapM decodeTargetNest = some mRttConfigs := by
  induction mRttConfigs generalizing start with
  | nil => rfl
  | cons config mRttConfigs ih =>
    have hrest := ih (fun c hc ↦ hbytes c (List.mem_cons_of_mem _ hc)) (start + 1)
    have hfirst : decodeTargetNest (targetAttr (config, start)) = some config :=
      decodeTarget_targetPuts (hbytes config List.mem_cons_self)
    rw [List.zipIdx_cons, List.map_cons, List.mapM_cons, hfirst, hrest]
    rfl

end Targets

section Messages

variable {page : MessagePage} {nlmsgAlloc : Bool} {mIface : UInt32}

/-- The attributes of a vendor command with one nest of data. -/
def rttVendorAttrs (mIface id subcmd : UInt32) (data : List (NlAttr UInt16)) : List (NlAttr UInt16) :=
  payloads (vendorPuts mIface id subcmd) ++ [.nest nl80211AttrVendorData data]

def requestData (mRttConfigs : List RttConfig) : List (NlAttr UInt16) :=
  [.payload rttAttributeTargetCnt [UInt8.ofNat mRttConfigs.length],
    .nest rttAttributeTargetInfo (mRttConfigs.zipIdx.map targetAttr)]

def cancelData (mAddrs : List MacAddr) : List (NlAttr UInt16) :=
  .payload rttAttributeTargetCnt [UInt8.ofNat mAddrs.length] ::
    payloads (mAddrs.map fun addr ↦ (rttAttributeTargetMac, addr.1))

theorem adds_createVendorRequest (id subcmd : UInt32) :
    page.empty.Adds (createVendorRequest ⟨page, true, mIface⟩ id subcmd)
      (payloads (vendorPuts mIface id subcmd)) :=
  MsgBuf.adds_putAll page.headers_le _

/-- The nest that is not looked at is never null where the loop has a round: there is room, or the round
fails. -/
theorem adds_putTargets (buf : RttBuf) {mRttConfigs : List RttConfig} (hne : mRttConfigs ≠ []) :
    buf.Adds (putTargets buf mRttConfigs)
      [.nest rttAttributeTargetInfo (mRttConfigs.zipIdx.map targetAttr)] := by
  unfold putTargets
  by_cases hroom : buf.used + nlaHdrlen ≤ buf.capacity
  · rw [MsgBuf.attrStart_of_room hroom]
    exact MsgBuf.adds_nest (MsgBuf.adds_foldlM (fun buf target _ ↦ adds_putTarget buf target) hroom _)
  · rw [MsgBuf.attrStart_of_not_room hroom]
    cases mRttConfigs with
    | nil => exact absurd rfl hne
    | cons config mRttConfigs =>
      have hfirst : putTarget buf (config, 0) = .error (.failed WifiError.outOfMemory.code) := by
        unfold putTarget
        rw [MsgBuf.attrStart_of_not_room hroom]
        rfl
      apply MsgBuf.adds_of_not_fits _ (MsgBuf.not_fits_of_not_room hroom _)
      · exact .failed WifiError.outOfMemory.code
      · dsimp only
        rw [List.zipIdx_cons, List.foldlM_cons, hfirst]
        rfl

theorem adds_rttRequestCreate {mRttConfigs : List RttConfig} (hne : mRttConfigs ≠ []) :
    page.empty.Adds (rttRequestCreate ⟨page, true, mIface⟩ mRttConfigs)
      (rttVendorAttrs mIface googleOui rttSubcmdSetConfig (requestData mRttConfigs)) := by
  apply (adds_createVendorRequest googleOui rttSubcmdSetConfig).bind
  intro hfits
  by_cases hroom : (page.empty.added (payloads (vendorPuts mIface googleOui rttSubcmdSetConfig))).used +
      nlaHdrlen ≤ (page.empty.added (payloads (vendorPuts mIface googleOui rttSubcmdSetConfig))).capacity
  · rw [MsgBuf.attrStart_of_room hroom]
    exact MsgBuf.adds_nest ((MsgBuf.adds_put _ _ _).bind fun _ ↦ adds_putTargets _ hne)
  · rw [MsgBuf.attrStart_of_not_room hroom]
    apply MsgBuf.adds_of_not_fits _ (MsgBuf.not_fits_of_not_room hroom _)
    · exact .failed nleNoMem
    · dsimp only
      rw [MsgBuf.put_of_not_room hroom]
      rfl

theorem adds_rttCancelCreate (mAddrs : List MacAddr) :
    page.empty.Adds (rttCancelCreate ⟨page, true, mIface⟩ mAddrs)
      (rttVendorAttrs mIface googleOui rttSubcmdCancelConfig (cancelData mAddrs)) := by
  apply (adds_createVendorRequest googleOui rttSubcmdCancelConfig).bind
  intro hfits
  by_cases hroom : (page.empty.added (payloads (vendorPuts mIface googleOui rttSubcmdCancelConfig))).used +
      nlaHdrlen ≤ (page.empty.added (payloads (vendorPuts mIface googleOui rttSubcmdCancelConfig))).capacity
  · rw [MsgBuf.attrStart_of_room hroom]
    exact MsgBuf.adds_nest ((MsgBuf.adds_put _ _ _).bind fun hcnt ↦ MsgBuf.adds_putAll hcnt.room _)
  · rw [MsgBuf.attrStart_of_not_room hroom]
    exact MsgBuf.adds_of_not_fits rfl (MsgBuf.not_fits_of_not_room hroom _)

/-- The data behind the attributes of the command. -/
theorem findNest_rttVendorAttrs (id subcmd : UInt32) (data : List (NlAttr UInt16)) :
    findNest nl80211AttrVendorData (rttVendorAttrs mIface id subcmd data) = some data := by
  unfold rttVendorAttrs vendorPuts
  split
  · rfl
  · rfl

theorem decodeRttRequest_rttVendorAttrs {mRttConfigs : List RttConfig} (id subcmd : UInt32)
    (hbytes : ∀ config ∈ mRttConfigs, config.ByteSized) :
    decodeRttRequest (rttVendorAttrs mIface id subcmd (requestData mRttConfigs)) =
      some (UInt8.ofNat mRttConfigs.length, mRttConfigs) := by
  have hcnt : (findPayload rttAttributeTargetCnt (requestData mRttConfigs)).bind u8OfBytes =
      some (UInt8.ofNat mRttConfigs.length) := rfl
  have htargets : findNest rttAttributeTargetInfo (requestData mRttConfigs) =
      some (mRttConfigs.zipIdx.map targetAttr) := rfl
  unfold decodeRttRequest
  rw [findNest_rttVendorAttrs, Option.bind_eq_bind, Option.bind_some, hcnt, Option.bind_eq_bind,
    Option.bind_some, htargets, Option.bind_eq_bind, Option.bind_some, mapM_decodeTargetNest hbytes 0]
  rfl

theorem filterMap_decodeAddress (mAddrs : List MacAddr) :
    (payloads (mAddrs.map fun addr ↦ (rttAttributeTargetMac, addr.1))).filterMap decodeAddress =
      mAddrs := by
  unfold payloads
  rw [List.map_map, List.filterMap_map]
  have hread : (decodeAddress ∘ (fun put ↦ NlAttr.payload put.1 put.2) ∘
      fun addr : MacAddr ↦ (rttAttributeTargetMac, addr.1)) = some := funext macOfBytes_val
  rw [hread, List.filterMap_some]

theorem decodeRttCancel_rttVendorAttrs (id subcmd : UInt32) (mAddrs : List MacAddr) :
    decodeRttCancel (rttVendorAttrs mIface id subcmd (cancelData mAddrs)) =
      some (UInt8.ofNat mAddrs.length, mAddrs) := by
  have hskip : (cancelData mAddrs).filterMap decodeAddress = mAddrs := filterMap_decodeAddress mAddrs
  unfold decodeRttCancel
  rw [findNest_rttVendorAttrs, Option.bind_eq_bind, Option.bind_some, hskip]
  rfl

end Messages

section Sizes

variable (page : MessagePage) (mIface : UInt32)

/-- The size of a vendor command with data of some size. -/
def vendorSize (size : ℕ) : ℕ := 20 + 16 + (if mIface ≠ 0xffffffff then 8 else 0) + 4 + size

def requestSize (targets : ℕ) : ℕ := vendorSize mIface (12 + 132 * targets)

def cancelSize (addresses : ℕ) : ℕ := vendorSize mIface (8 + 12 * addresses)

theorem sizeOf_vendorPuts (id subcmd : UInt32) :
    NlAttr.sizeOf (payloads (vendorPuts mIface id subcmd)) =
      16 + if mIface ≠ 0xffffffff then 8 else 0 := by
  unfold vendorPuts
  split
  · simp [payloads, nlaTotalSize, nlaAlign, nlaHdrlen, u32Bytes]
  · simp [payloads, nlaTotalSize, nlaAlign, nlaHdrlen, u32Bytes]

theorem fits_rttVendorAttrs (id subcmd : UInt32) (data : List (NlAttr UInt16)) :
    page.empty.Fits (rttVendorAttrs mIface id subcmd data) ↔
      vendorSize mIface (NlAttr.sizeOf data) ≤ page.capacity := by
  unfold MsgBuf.Fits rttVendorAttrs vendorSize
  rw [NlAttr.sizeOf_append, NlAttr.sizeOf_cons, NlAttr.size_nest, NlAttr.sizeOf_nil, sizeOf_vendorPuts]
  simp only [MessagePage.empty, nlaHdrlen, Nat.add_zero, Nat.add_assoc]

theorem size_targetAttr (target : RttConfig × ℕ) : (targetAttr target).size = 132 := by
  simp [targetAttr, targetPuts, payloads, nlaTotalSize, nlaAlign, nlaHdrlen, u32Bytes,
    WifiChannelInfo.bytes, target.1.addr.2]

theorem size_targetCnt (n : ℕ) : (NlAttr.payload rttAttributeTargetCnt [UInt8.ofNat n]).size = 8 := by
  rw [NlAttr.size_payload, List.length_singleton]
  rfl

theorem sizeOf_requestData (mRttConfigs : List RttConfig) :
    NlAttr.sizeOf (requestData mRttConfigs) = 12 + 132 * mRttConfigs.length := by
  have htargets : NlAttr.sizeOf (mRttConfigs.zipIdx.map targetAttr) = 132 * mRttConfigs.length := by
    rw [NlAttr.sizeOf_map size_targetAttr, List.length_zipIdx]
  unfold requestData
  calc
    _ = (NlAttr.payload rttAttributeTargetCnt [UInt8.ofNat mRttConfigs.length]).size +
        (NlAttr.nest rttAttributeTargetInfo (mRttConfigs.zipIdx.map targetAttr)).size := by
      rw [NlAttr.sizeOf_cons, NlAttr.sizeOf_cons, NlAttr.sizeOf_nil, Nat.add_zero]
    _ = 8 + (nlaHdrlen + 132 * mRttConfigs.length) := by
      rw [size_targetCnt, NlAttr.size_nest, htargets]
    _ = 12 + 132 * mRttConfigs.length := (Nat.add_assoc _ _ _).symm

theorem sizeOf_cancelData (mAddrs : List MacAddr) :
    NlAttr.sizeOf (cancelData mAddrs) = 8 + 12 * mAddrs.length := by
  have hsize : ∀ addr : MacAddr, (NlAttr.payload rttAttributeTargetMac addr.1).size = 12 := by
    intro addr
    rw [NlAttr.size_payload, addr.2]
    rfl
  unfold cancelData payloads
  rw [NlAttr.sizeOf_cons, size_targetCnt, List.map_map]
  exact congrArg (8 + ·) (NlAttr.sizeOf_map hsize mAddrs)

end Sizes

section Lossless

variable {page : MessagePage} {mIface : UInt32}

/-- What is created is what was added to the empty message, if it fits. -/
theorem forall_created_iff {create : Bool → Except BuildStop RttBuf} {attrs : List (NlAttr UInt16)}
    (hfalse : ∀ buf, create false ≠ .ok buf) (htrue : page.empty.Adds (create true) attrs)
    (P : List (NlAttr UInt16) → Prop) :
    (∀ nlmsgAlloc buf, create nlmsgAlloc = .ok buf → P buf.message.attrs) ↔
      (page.empty.Fits attrs → P attrs) := by
  have hattrs : (page.empty.added attrs).message.attrs = attrs := NlMessage.attrs_addAll rfl attrs
  constructor
  · intro h hfits
    have hcreated := h true _ ((htrue _).mpr ⟨hfits, rfl⟩)
    rwa [hattrs] at hcreated
  · intro h nlmsgAlloc buf hbuf
    cases nlmsgAlloc with
    | false => exact absurd hbuf (hfalse buf)
    | true =>
      obtain ⟨hfits, rfl⟩ := (htrue buf).mp hbuf
      rw [hattrs]
      exact h hfits

/-- A count in a byte is the count up to 255. -/
theorem toNat_ofNat_eq_iff (n : ℕ) : (UInt8.ofNat n).toNat = n ↔ n < 256 := by
  rw [UInt8.toNat_ofNat', Nat.mod_eq_iff_lt (by decide)]

/-- What is read back is all that was written, except for the count. -/
theorem lossless_iff {α : Type} (create : Bool → Except BuildStop RttBuf)
    {decode : List (NlAttr UInt16) → Option (UInt8 × α)} {attrs : List (NlAttr UInt16)} {n size : ℕ}
    {x : α} (hfalse : ∀ buf, create false ≠ .ok buf) (htrue : page.empty.Adds (create true) attrs)
    (hdecode : decode attrs = some (UInt8.ofNat n, x))
    (hfits : page.empty.Fits attrs ↔ size ≤ page.capacity) :
    (∀ nlmsgAlloc buf, create nlmsgAlloc = .ok buf →
        ∃ cnt, decode buf.message.attrs = some (cnt, x) ∧ cnt.toNat = n) ↔
      n < 256 ∨ page.capacity < size := by
  have hcount : (∃ cnt, decode attrs = some (cnt, x) ∧ cnt.toNat = n) ↔ n < 256 := by
    rw [hdecode, ← toNat_ofNat_eq_iff]
    constructor
    · intro h
      obtain ⟨cnt, hcnt, heq⟩ := h
      cases hcnt
      exact heq
    · exact fun heq ↦ ⟨_, rfl, heq⟩
  rw [forall_created_iff hfalse htrue fun attrs ↦ ∃ cnt, decode attrs = some (cnt, x) ∧ cnt.toNat = n,
    hcount, hfits, imp_iff_not_or, Nat.not_le, or_comm]

theorem requestLossless_iff {mRttConfigs : List RttConfig} (hne : mRttConfigs ≠ [])
    (hbytes : ∀ config ∈ mRttConfigs, config.ByteSized) :
    RequestLossless page mIface mRttConfigs ↔
      mRttConfigs.length < 256 ∨ page.capacity < requestSize mIface mRttConfigs.length := by
  have hfits := fits_rttVendorAttrs page mIface googleOui rttSubcmdSetConfig (requestData mRttConfigs)
  rw [sizeOf_requestData] at hfits
  exact lossless_iff (fun nlmsgAlloc ↦ rttRequestCreate ⟨page, nlmsgAlloc, mIface⟩ mRttConfigs)
    (fun _ h ↦ nomatch h) (adds_rttRequestCreate hne) (decodeRttRequest_rttVendorAttrs _ _ hbytes) hfits

theorem cancelLossless_iff (mAddrs : List MacAddr) :
    CancelLossless page mIface mAddrs ↔
      mAddrs.length < 256 ∨ page.capacity < cancelSize mIface mAddrs.length := by
  have hfits := fits_rttVendorAttrs page mIface googleOui rttSubcmdCancelConfig (cancelData mAddrs)
  rw [sizeOf_cancelData] at hfits
  exact lossless_iff (fun nlmsgAlloc ↦ rttCancelCreate ⟨page, nlmsgAlloc, mIface⟩ mAddrs)
    (fun _ h ↦ nomatch h) (adds_rttCancelCreate mAddrs) (decodeRttCancel_rttVendorAttrs _ _ mAddrs) hfits

/-- Only the count is lost, where a message has room for more targets than a byte counts. -/
theorem rttRequests_lossless_iff {mRttConfigs : List RttConfig} (hne : mRttConfigs ≠ [])
    (hbytes : ∀ config ∈ mRttConfigs, config.ByteSized) (mAddrs : List MacAddr) :
    (RequestLossless page mIface mRttConfigs ↔
        mRttConfigs.length < 256 ∨ page.capacity < requestSize mIface mRttConfigs.length) ∧
      (CancelLossless page mIface mAddrs ↔
        mAddrs.length < 256 ∨ page.capacity < cancelSize mIface mAddrs.length) :=
  ⟨requestLossless_iff hne hbytes, cancelLossless_iff mAddrs⟩

def broadcastAddr : MacAddr := ⟨List.replicate 6 0xff, rfl⟩

/-- Two targets that differ in every field, and the addresses of both. -/
theorem rttRequests_lossless_two :
    let page : MessagePage := ⟨4096, by decide, by decide⟩
    let responder : MacAddr := ⟨[2, 0, 0, 0, 0, 1], rfl⟩
    let configs : List RttConfig :=
      [⟨broadcastAddr, 2, 1, ⟨0, 2412, 0, 0⟩, 0, 0, 8, 0, 3, 1, 0, 15, 2, 4⟩,
        ⟨responder, 1, 4, ⟨2, 5180, 5210, 0⟩, 2, 1, 16, 2, 1, 0, 1, 9, 4, 16⟩]
    RequestLossless page 3 configs ∧ CancelLossless page 3 [broadcastAddr, responder] := by
  intro page responder configs
  have hbytes : ∀ config ∈ configs, config.ByteSized := by
    have hsmall : ∀ config ∈ configs, config.type < 256 ∧ config.peer < 256 ∧ config.preamble < 256 ∧
        config.bw < 256 := by decide
    exact fun config hconfig ↦ ⟨(hsmall config hconfig).1, (hsmall config hconfig).2.1,
      (hsmall config hconfig).2.2.1, (hsmall config hconfig).2.2.2⟩
  have hiff := @rttRequests_lossless_iff page 3 configs (List.cons_ne_nil _ _) hbytes
    [broadcastAddr, responder]
  exact ⟨hiff.1.mpr (Or.inl (by decide)), hiff.2.mpr (Or.inl (by decide))⟩

/-- The cancel request of 256 addresses fits in a page of 4 KiB and counts none of them. -/
theorem not_cancelLossless :
    ¬ CancelLossless ⟨4096, by decide, by decide⟩ 3 (List.replicate 256 broadcastAddr) := by
  rw [cancelLossless_iff, List.length_replicate]
  decide

end Lossless

end HardwareMediatek.Wifi
