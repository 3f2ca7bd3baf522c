import HardwareMediatek.Foundation.Netlink

/-!
# Requests of the NAN command class

How `NanCommand` starts a vendor message (`create`, `set_iface_id`) and sends it (`requestEvent`), as
a function of what the kernel answers. `wifi_error` is the enumeration of the framework header.
-/

namespace HardwareMediatek.Wifi

open Foundation

def nanMacAddrLen : ℕ := 6

inductive WifiError where
  | success
  | unknown
  | uninitialized
  | notSupported
  | notAvailable
  | invalidArgs
  | invalidRequestId
  | timedOut
  | tooManyRequests
  | outOfMemory
  | busy
  deriving DecidableEq, Repr

def WifiError.code : WifiError → ℤ
  | .success => 0
  | .unknown => -1
  | .uninitialized => -2
  | .notSupported => -3
  | .notAvailable => -4
  | .invalidArgs => -5
  | .invalidRequestId => -6
  | .timedOut => -7
  | .tooManyRequests => -8
  | .outOfMemory => -9
  | .busy => -10

def mapKernelErrortoWifiHalError (kern_err : ℤ) : WifiError :=
  if 0 ≤ kern_err then .success
  else if kern_err = -95 then .notSupported -- EOPNOTSUPP
  else if kern_err = -11 then .notAvailable -- EAGAIN
  else if kern_err = -22 then .invalidArgs -- EINVAL
  else if kern_err = -110 then .timedOut -- ETIMEDOUT
  else if kern_err = -12 then .outOfMemory -- ENOMEM
  else if kern_err = -16 then .busy -- EBUSY
  else if kern_err = -105 then .tooManyRequests -- ENOBUFS
  else .unknown

theorem mapKernelErrortoWifiHalError_eq_success_iff (kern_err : ℤ) :
    mapKernelErrortoWifiHalError kern_err = .success ↔ 0 ≤ kern_err := by
  unfold mapKernelErrortoWifiHalError
  repeat' split
  all_goals simp_all

/-- The top-level attributes of a vendor message that the requests use. -/
inductive Nl80211Attr where
  | ifindex
  | vendorId
  | vendorSubcmd
  | vendorData
  deriving DecidableEq, Repr

/-- `mtk_wlan_vendor_attr_ndp_params`, as far as the requests use it. -/
inductive NdpAttr where
  | subcmd
  | transactionId
  | serviceInstanceId
  | channel
  | peerDiscoveryMacAddr
  | ifaceStr
  | configSecurity
  | configQos
  | appInfo
  | instanceId
  | instanceIdArray
  | responseCode
  | channelConfig
  | csid
  | pmk
  | passphrase
  | serviceName
  | securityType
  deriving DecidableEq, Repr

inductive AttrType where
  | nl80211 (attr : Nl80211Attr)
  | ndp (attr : NdpAttr)
  deriving DecidableEq, Repr

def ouiMtk : UInt32 := 0x000CE7
def mtkSubcmdNan : UInt32 := 12
def mtkSubcmdNdp : UInt32 := 81

/-- What the allocators and the kernel answer during one request. -/
structure RequestEnv where
  /-- `nlmsg_alloc` finds memory -/
  msgAlloc : Bool
  /-- the refusal, if any, of each `nla_put` and `nla_nest_start` of the request in their order -/
  refused : ℕ → Option KernelError
  /-- `if_nametoindex(ifaceInfo->name)` -/
  ifindex : UInt32
  /-- `nl_cb_alloc` finds memory -/
  cbAlloc : Bool
  /-- `mInfo->cmd_sock` is set -/
  cmdSock : Bool
  /-- `nl_send_auto_complete` -/
  sendStatus : ℤ
  /-- the status that ends the loop over `nl_recvmsgs` -/
  answer : ℤ
  answer_le : answer ≤ 0

/-- An acknowledgement is an answer. -/
theorem acknowledgement_le : (0 : ℤ) ≤ 0 := Int.le_refl 0

abbrev Message := NlMessage AttrType

def putU32 (type : AttrType) (value : UInt32) : BuildCall AttrType := .put type (u32Bytes value)

def putU16 (type : AttrType) (value : UInt16) : BuildCall AttrType := .put type (u16Bytes value)

/-- The bytes of a C string, with its terminator. -/
def putString (type : AttrType) (value : List UInt8) : BuildCall AttrType := .put type (value ++ [0])

/-- The first `len` of the bytes at an address. -/
def bytesAt (data : ℕ → UInt8) (len : ℕ) : List UInt8 := (List.range len).map data

@[simp]
theorem length_bytesAt (data : ℕ → UInt8) (len : ℕ) : (bytesAt data len).length = len := by
  simp [bytesAt]

def putBytes (type : AttrType) (data : ℕ → UInt8) (len : ℕ) : BuildCall AttrType :=
  .put type (bytesAt data len)

def outOfMemoryError : KernelError := ⟨WifiError.outOfMemory.code, by decide⟩

/-- `NanCommand::create`, with the vendor id and the subcommand of the object. -/
def create (mVendor_id mSubcmd : UInt32) (env : RequestEnv) : Except KernelError Message :=
  if env.msgAlloc then
    build env.refused 0
      [putU32 (.nl80211 .vendorId) mVendor_id, putU32 (.nl80211 .vendorSubcmd) mSubcmd] {}
  else .error outOfMemoryError

def setIfaceId (env : RequestEnv) (message : Message) : Except KernelError Message :=
  build env.refused 2 [putU32 (.nl80211 .ifindex) env.ifindex] message

/-- `nan_initialize_vendor_cmd`. The kernel's error is still to be mapped. -/
def nanInitializeVendorCmd (env : RequestEnv) : Except KernelError Message :=
  match create ouiMtk mtkSubcmdNdp env with
  | .error error => .error error
  | .ok message => setIfaceId env message

/-- What a request returns, and the message it handed to the socket. -/
structure RequestResult where
  ret : WifiError
  sent : Option Message := none

/-- `NanCommand::requestEvent`. -/
def requestEvent (env : RequestEnv) (mMsg : Message) : RequestResult :=
  if ¬ env.cbAlloc then { ret := .outOfMemory }
  else if ¬ env.cmdSock then { ret := .outOfMemory }
  else if env.sendStatus < 0 then
    { ret := mapKernelErrortoWifiHalError env.sendStatus, sent := some mMsg }
  else { ret := mapKernelErrortoWifiHalError env.answer, sent := some mMsg }

/-- The socket takes the message and the kernel acknowledges it. -/
def RequestEnv.Acknowledges (env : RequestEnv) : Prop :=
  env.cbAlloc = true ∧ env.cmdSock = true ∧ 0 ≤ env.sendStatus ∧ env.answer = 0

theorem requestEvent_eq_success_iff (env : RequestEnv) (mMsg : Message) :
    (requestEvent env mMsg).ret = .success ↔ env.Acknowledges := by
  unfold requestEvent RequestEnv.Acknowledges
  have hanswer := env.answer_le
  by_cases hcb : env.cbAlloc = true
  · by_cases hsock : env.cmdSock = true
    · simp only [hcb, hsock, not_true_eq_false, if_false, true_and]
      by_cases hsend : env.sendStatus < 0
      · simp only [if_pos hsend, mapKernelErrortoWifiHalError_eq_success_iff]
        omega
      · simp only [if_neg hsend, mapKernelErrortoWifiHalError_eq_success_iff]
        omega
    · simp [hcb, hsock]
  · simp [hcb]

theorem requestEvent_sent {env : RequestEnv} {mMsg : Message} (hack : env.Acknowledges) :
    (requestEvent env mMsg).sent = some mMsg := by
  have hsend : ¬ env.sendStatus < 0 := by have := hack.2.2.1; omega
  simp [requestEvent, hack.1, hack.2.1, hsend]

theorem eq_of_requestEvent_sent {env : RequestEnv} {mMsg sent : Message}
    (hsent : (requestEvent env mMsg).sent = some sent) : sent = mMsg := by
  unfold requestEvent at hsent
  split_ifs at hsent
  all_goals simp_all

/-- The message as `nan_initialize_vendor_cmd` leaves it. -/
def initialMessage (env : RequestEnv) : Message where
  attrs := [.payload (.nl80211 .vendorId) (u32Bytes ouiMtk),
    .payload (.nl80211 .vendorSubcmd) (u32Bytes mtkSubcmdNdp),
    .payload (.nl80211 .ifindex) (u32Bytes env.ifindex)]

/-- Initialization succeeds: memory for the message, and its three puts are accepted. -/
def RequestEnv.Initialises (env : RequestEnv) : Prop :=
  env.msgAlloc = true ∧ ∀ k < 3, env.refused k = none

theorem create_eq_ok_iff (mVendor_id mSubcmd : UInt32) (env : RequestEnv) (message : Message) :
    create mVendor_id mSubcmd env = .ok message ↔
      env.msgAlloc = true ∧ (∀ k < 2, env.refused k = none) ∧
        message.attrs = [.payload (.nl80211 .vendorId) (u32Bytes mVendor_id),
          .payload (.nl80211 .vendorSubcmd) (u32Bytes mSubcmd)] ∧ message.nests = [] := by
  unfold create
  by_cases halloc : env.msgAlloc = true
  · have hcount : List.countP BuildCall.fallible [putU32 (.nl80211 .vendorId) mVendor_id,
        putU32 (.nl80211 .vendorSubcmd) mSubcmd] = 2 := rfl
    rw [if_pos halloc, build_eq_ok_iff, NoneRefused, hcount]
    cases message
    simp [halloc, putU32, BuildCall.apply, NlMessage.add, eq_comm]
  · simp [halloc]

theorem setIfaceId_eq_ok_iff (env : RequestEnv) (message result : Message) :
    setIfaceId env message = .ok result ↔ env.refused 2 = none ∧
      result = message.add (.payload (.nl80211 .ifindex) (u32Bytes env.ifindex)) := by
  unfold setIfaceId
  rw [build_eq_ok_iff]
  simp [NoneRefused, putU32, BuildCall.fallible, BuildCall.apply, eq_comm]

theorem nanInitializeVendorCmd_eq_ok_iff (env : RequestEnv) (message : Message) :
    nanInitializeVendorCmd env = .ok message ↔ env.Initialises ∧ message = initialMessage env := by
  have hsteps : nanInitializeVendorCmd env = .ok message ↔
      ∃ created, create ouiMtk mtkSubcmdNdp env = .ok created ∧
        setIfaceId env created = .ok message := by
    unfold nanInitializeVendorCmd
    cases create ouiMtk mtkSubcmdNdp env <;> simp
  rw [hsteps]
  constructor
  · rintro ⟨created, hcreate, hset⟩
    obtain ⟨halloc, hputs, hattrs, hnests⟩ := (create_eq_ok_iff _ _ env created).mp hcreate
    obtain ⟨hindex, hmessage⟩ := (setIfaceId_eq_ok_iff env created message).mp hset
    apply And.intro
    · apply And.intro halloc
      intro k hk
      by_cases hlast : k = 2
      · rwa [hlast]
      · exact hputs k (by omega)
    · rw [hmessage]
      simp [NlMessage.add, hattrs, hnests, initialMessage]
  · rintro ⟨⟨halloc, hputs⟩, hmessage⟩
    let created : Message := { attrs := (initialMessage env).attrs.take 2 }
    apply Exists.intro created
    apply And.intro
    · apply (create_eq_ok_iff _ _ env created).mpr
      exact ⟨halloc, fun k hk ↦ hputs k (by omega), rfl, rfl⟩
    · apply (setIfaceId_eq_ok_iff env created message).mpr
      exact ⟨hputs 2 (by omega), hmessage⟩

end HardwareMediatek.Wifi
