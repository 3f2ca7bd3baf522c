import HardwareMediatek.Wifi.NdpRequests

/-!
# When a data-path request reports success

The complete message of a request is the attribute tree its arguments ask for. A request that returns
success has sent that message and had it acknowledged exactly when no building call after the
initialization was refused: a refused one leaves the success of the initialization in the return
value, and nothing is sent.
-/

namespace HardwareMediatek.Wifi

open Foundation

abbrev Attrs := List (NlAttr AttrType)

/-! ## The attributes a request asks for -/

def u32Attr (type : AttrType) (value : UInt32) : NlAttr AttrType := .payload type (u32Bytes value)

def appInfoAttrs (app_info : NanDataPathAppInfo) : Attrs :=
  if app_info.ndp_app_info_len ≠ 0 then
    [.payload (.ndp .appInfo) (bytesAt app_info.ndp_app_info app_info.ndp_app_info_len.toNat)]
  else []

def configAttrs (ndp_cfg : NanDataPathCfg) : Attrs :=
  (if ndp_cfg.security_cfg = nanDpConfigSecurity then
    [.nest (.ndp .configSecurity) [u32Attr (.ndp .securityType) 0]] else []) ++
  (if ndp_cfg.qos_cfg = nanDpConfigQos then [.nest (.ndp .configQos) []] else [])

def cipherAttrs (cipher_type : UInt32) : Attrs :=
  if cipher_type ≠ nanCipherSuiteSharedKeyNone then [u32Attr (.ndp .csid) cipher_type] else []

def keyAttrs (key_info : NanSecurityKeyInfo) : Attrs :=
  if key_info.key_type = nanSecurityKeyInputPmk ∧ key_info.pmk_len = nanPmkInfoLen then
    [.payload (.ndp .pmk) (bytesAt key_info.key key_info.pmk_len.toNat)]
  else if key_info.key_type = nanSecurityKeyInputPassphrase ∧
      nanSecurityMinPassphraseLen ≤ key_info.passphrase_len ∧
      key_info.passphrase_len ≤ nanSecurityMaxPassphraseLen then
    [.payload (.ndp .passphrase) (bytesAt key_info.key key_info.passphrase_len.toNat)]
  else []

def serviceNameAttrs (service_name : ℕ → UInt8) (service_name_len : UInt32) : Attrs :=
  if service_name_len ≠ 0 then
    [.payload (.ndp .serviceName) (bytesAt service_name service_name_len.toNat)]
  else []

def channelAttrs (channel_request_type channel : UInt32) : Attrs :=
  if channel_request_type ≠ nanDpChannelNotRequested then
    [u32Attr (.ndp .channelConfig) channel_request_type, u32Attr (.ndp .channel) channel]
  else []

def headAttrs (subcmd : UInt32) (id : UInt16) : Attrs :=
  [u32Attr (.ndp .subcmd) subcmd, .payload (.ndp .transactionId) (u16Bytes id)]

def interfaceAttrs (subcmd : UInt32) (id : UInt16) (iface_name : List UInt8) : Attrs :=
  headAttrs subcmd id ++ [.payload (.ndp .ifaceStr) (iface_name ++ [0])]

def initiatorAttrs (id : UInt16) (msg : NanDataPathInitiatorRequest) : Attrs :=
  headAttrs ndpInitiatorRequest id ++
  [u32Attr (.ndp .serviceInstanceId) msg.requestor_instance_id,
    .payload (.ndp .peerDiscoveryMacAddr) (bytesAt msg.peer_disc_mac_addr nanMacAddrLen),
    .payload (.ndp .ifaceStr) (msg.ndp_iface ++ [0])] ++
  channelAttrs msg.channel_request_type msg.channel ++
  appInfoAttrs msg.app_info ++ configAttrs msg.ndp_cfg ++ cipherAttrs msg.cipher_type ++
  keyAttrs msg.key_info ++ serviceNameAttrs msg.service_name msg.service_name_len

def responseAttrs (id : UInt16) (msg : NanDataPathIndicationResponse) : Attrs :=
  headAttrs ndpResponderRequest id ++
  [u32Attr (.ndp .instanceId) msg.ndp_instance_id,
    .payload (.ndp .ifaceStr) (msg.ndp_iface ++ [0]),
    u32Attr (.ndp .responseCode) msg.rsp_code] ++
  appInfoAttrs msg.app_info ++ configAttrs msg.ndp_cfg ++ cipherAttrs msg.cipher_type ++
  keyAttrs msg.key_info ++ serviceNameAttrs msg.service_name msg.service_name_len

def endAttrs (id : UInt16) (msg : NanDataPathEndRequest) : Attrs :=
  headAttrs ndpEndRequest id ++
  [.payload (.ndp .instanceIdArray) (bytesAt msg.ndp_instance_id (msg.num_ndp_instances.toNat * 4))]

/-! ## The calls build these attributes -/

@[simp]
theorem callsOf_appInfoAttrs (app_info : NanDataPathAppInfo) :
    NlAttr.callsOf (appInfoAttrs app_info) = putAppInfo app_info := by
  unfold appInfoAttrs putAppInfo callsIf
  split <;> simp [putBytes]

@[simp]
theorem callsOf_configAttrs (ndp_cfg : NanDataPathCfg) :
    NlAttr.callsOf (configAttrs ndp_cfg) = putConfig ndp_cfg := by
  unfold configAttrs putConfig callsIf
  rw [NlAttr.callsOf_append]
  apply congrArg₂
  · split <;> simp [u32Attr, putU32]
  · split <;> simp

@[simp]
theorem callsOf_cipherAttrs (cipher_type : UInt32) :
    NlAttr.callsOf (cipherAttrs cipher_type) = putCipher cipher_type := by
  unfold cipherAttrs putCipher callsIf
  split <;> simp [u32Attr, putU32]

@[simp]
theorem callsOf_keyAttrs (key_info : NanSecurityKeyInfo) :
    NlAttr.callsOf (keyAttrs key_info) = putKey key_info := by
  unfold keyAttrs putKey
  split_ifs <;> simp [putBytes]

@[simp]
theorem callsOf_serviceNameAttrs (service_name : ℕ → UInt8) (service_name_len : UInt32) :
    NlAttr.callsOf (serviceNameAttrs service_name service_name_len) =
      putServiceName service_name service_name_len := by
  unfold serviceNameAttrs putServiceName callsIf
  split <;> simp [putBytes]

@[simp]
theorem callsOf_channelAttrs (channel_request_type channel : UInt32) :
    NlAttr.callsOf (channelAttrs channel_request_type channel) =
      callsIf (channel_request_type ≠ nanDpChannelNotRequested)
        [putU32 (.ndp .channelConfig) channel_request_type, putU32 (.ndp .channel) channel] := by
  unfold channelAttrs callsIf
  split <;> simp [u32Attr, putU32]

@[simp]
theorem callsOf_interfaceAttrs (subcmd : UInt32) (id : UInt16) (iface_name : List UInt8) :
    NlAttr.callsOf (interfaceAttrs subcmd id iface_name) = interfaceCalls subcmd id iface_name := by
  simp [interfaceAttrs, headAttrs, interfaceCalls, u32Attr, putU32, putU16, putString]

@[simp]
theorem callsOf_initiatorAttrs (id : UInt16) (msg : NanDataPathInitiatorRequest) :
    NlAttr.callsOf (initiatorAttrs id msg) = initiatorCalls id msg := by
  simp [initiatorAttrs, headAttrs, initiatorCalls, u32Attr, putU32, putU16, putString, putBytes]

@[simp]
theorem callsOf_responseAttrs (id : UInt16) (msg : NanDataPathIndicationResponse) :
    NlAttr.callsOf (responseAttrs id msg) = responseCalls id msg := by
  simp [responseAttrs, headAttrs, responseCalls, u32Attr, putU32, putU16, putString]

@[simp]
theorem callsOf_endAttrs (id : UInt16) (msg : NanDataPathEndRequest) :
    NlAttr.callsOf (endAttrs id msg) = endCalls id msg := by
  simp [endAttrs, headAttrs, endCalls, u32Attr, putU32, putU16, putBytes]

/-! ## The common course -/

/-- The initialized message with the attributes as its vendor data. -/
def vendorMessage (env : RequestEnv) (attrs : Attrs) : Message :=
  (initialMessage env).add (.nest (.nl80211 .vendorData) attrs)

/-- No building call of the attributes is refused. -/
def RequestEnv.Builds (env : RequestEnv) (attrs : Attrs) : Prop :=
  NoneRefused env.refused 3 (NlAttr.nest (.nl80211 .vendorData) attrs).calls

section Course

variable (env : RequestEnv) (rejected : Bool) (attrs : Attrs)

theorem ndpRequest_of_not_initialises (hinit : ¬ env.Initialises) (calls : Calls) :
    (ndpRequest env rejected calls).ret ≠ .success ∧
      (ndpRequest env rejected calls).sent = none := by
  unfold ndpRequest
  cases hstart : nanInitializeVendorCmd env with
  | error error =>
    apply And.intro
    · rw [ne_eq, mapKernelErrortoWifiHalError_eq_success_iff]
      have := error.code_neg
      omega
    · rfl
  | ok message => exact absurd ((nanInitializeVendorCmd_eq_ok_iff env message).mp hstart).1 hinit

theorem ndpRequest_of_initialises (hinit : env.Initialises) (calls : Calls) :
    ndpRequest env rejected calls =
      if rejected then { ret := .invalidArgs }
      else
        match build env.refused 3
          (.attrStart (.nl80211 .vendorData) :: (calls ++ [.attrEnd])) (initialMessage env) with
        | .error _ => { ret := .success }
        | .ok built => requestEvent env built := by
  have hstart := (nanInitializeVendorCmd_eq_ok_iff env (initialMessage env)).mpr ⟨hinit, rfl⟩
  unfold ndpRequest
  generalize nanInitializeVendorCmd env = start at hstart
  subst hstart
  rfl

theorem ndpRequest_of_builds (hinit : env.Initialises) (hbuilds : env.Builds attrs) :
    ndpRequest env false (NlAttr.callsOf attrs) = requestEvent env (vendorMessage env attrs) := by
  have hbuilt := build_calls_ok hbuilds (initialMessage env)
  rw [NlAttr.calls_nest] at hbuilt
  rw [ndpRequest_of_initialises env false hinit, hbuilt]
  rfl

/-- A refused building call sends nothing, and the success of the initialization is returned. -/
theorem ndpRequest_of_not_builds (hinit : env.Initialises) (hbuilds : ¬ env.Builds attrs) :
    ndpRequest env false (NlAttr.callsOf attrs) = { ret := .success } := by
  obtain ⟨error, herror⟩ := exists_build_error hbuilds (initialMessage env)
  rw [NlAttr.calls_nest] at herror
  rw [ndpRequest_of_initialises env false hinit, herror]
  rfl

theorem ndpRequest_rejected (hinit : env.Initialises) (calls : Calls) :
    ndpRequest env true calls = { ret := .invalidArgs } := by
  rw [ndpRequest_of_initialises env true hinit, if_pos rfl]

/-- Whatever is sent is the complete message. -/
theorem ndpRequest_sent {sent : Message}
    (hsent : (ndpRequest env rejected (NlAttr.callsOf attrs)).sent = some sent) :
    rejected = false ∧ sent = vendorMessage env attrs := by
  by_cases hinit : env.Initialises
  · cases rejected with
    | true =>
      rw [ndpRequest_rejected env hinit] at hsent
      exact absurd hsent (by simp)
    | false =>
      by_cases hbuilds : env.Builds attrs
      · rw [ndpRequest_of_builds env attrs hinit hbuilds] at hsent
        exact ⟨rfl, eq_of_requestEvent_sent hsent⟩
      · rw [ndpRequest_of_not_builds env attrs hinit hbuilds] at hsent
        exact absurd hsent (by simp)
  · rw [(ndpRequest_of_not_initialises env rejected hinit _).2] at hsent
    exact absurd hsent (by simp)

/-- Success means that the complete message was sent and acknowledged. -/
def RequestResult.ReportsFailure (result : RequestResult) : Prop :=
  result.ret = .success →
    result.sent = some (vendorMessage env attrs) ∧
      (requestEvent env (vendorMessage env attrs)).ret = .success

theorem ndpRequest_reportsFailure_iff :
    (ndpRequest env rejected (NlAttr.callsOf attrs)).ReportsFailure env attrs ↔
      (env.Initialises → rejected = false → env.Builds attrs) := by
  constructor
  · intro hreports hinit haccepted
    by_contra hbuilds
    subst haccepted
    rw [ndpRequest_of_not_builds env attrs hinit hbuilds] at hreports
    exact absurd (hreports rfl).1 (by simp)
  · intro hcondition hsuccess
    have hinit : env.Initialises := by
      by_contra hinit
      exact (ndpRequest_of_not_initialises env rejected hinit _).1 hsuccess
    cases rejected with
    | true =>
      rw [ndpRequest_rejected env hinit] at hsuccess
      exact absurd hsuccess (by simp)
    | false =>
      rw [ndpRequest_of_builds env attrs hinit (hcondition hinit rfl)] at hsuccess ⊢
      have hack := (requestEvent_eq_success_iff env _).mp hsuccess
      exact ⟨requestEvent_sent hack, hsuccess⟩

end Course

/-! ## The five requests -/

/-- The attributes that the complete message of a request carries as its vendor data. -/
def NdpRequest.attrs : NdpRequest → Attrs
  | .interfaceCreate id (some name) => interfaceAttrs ndpInterfaceCreate id name
  | .interfaceDelete id (some name) => interfaceAttrs ndpInterfaceDelete id name
  | .requestInitiator id (some msg) => initiatorAttrs id msg
  | .indicationResponse id (some msg) => responseAttrs id msg
  | .endRequest id (some msg) => endAttrs id msg
  | _ => []

/-- The arguments pass the checks of the function. -/
def NdpRequest.accepted : NdpRequest → Bool
  | .interfaceCreate _ name => name.isSome
  | .interfaceDelete _ name => name.isSome
  | .requestInitiator _ (some msg) =>
      !missingKey msg.cipher_type msg.key_info && !missingServiceName msg
  | .requestInitiator _ none => false
  | .indicationResponse _ (some msg) => !missingKey msg.cipher_type msg.key_info
  | .indicationResponse _ none => false
  | .endRequest _ msg => msg.isSome

/-- The request returns success only if its complete message was built and `requestEvent`
succeeded with it. -/
def NdpRequest.ReportsFailure (request : NdpRequest) (env : RequestEnv) : Prop :=
  (request.run env).ReportsFailure env request.attrs

theorem NdpRequest.reportsFailure_iff (request : NdpRequest) (env : RequestEnv) :
    request.ReportsFailure env ↔
      (env.Initialises → request.accepted = true → env.Builds request.attrs) := by
  have hnull (attrs : Attrs) :
      ({ ret := .invalidArgs } : RequestResult).ReportsFailure env attrs := by
    intro hsuccess
    exact absurd hsuccess (by simp)
  unfold NdpRequest.ReportsFailure
  cases request with
  | interfaceCreate id name =>
    cases name with
    | none => simp [NdpRequest.run, nanDataInterfaceCreate, hnull, NdpRequest.accepted]
    | some name =>
      simpa [NdpRequest.run, nanDataInterfaceCreate, NdpRequest.attrs, NdpRequest.accepted] using
        ndpRequest_reportsFailure_iff env false (interfaceAttrs ndpInterfaceCreate id name)
  | interfaceDelete id name =>
    cases name with
    | none => simp [NdpRequest.run, nanDataInterfaceDelete, hnull, NdpRequest.accepted]
    | some name =>
      simpa [NdpRequest.run, nanDataInterfaceDelete, NdpRequest.attrs, NdpRequest.accepted] using
        ndpRequest_reportsFailure_iff env false (interfaceAttrs ndpInterfaceDelete id name)
  | requestInitiator id msg =>
    cases msg with
    | none => simp [NdpRequest.run, nanDataRequestInitiator, hnull, NdpRequest.accepted]
    | some msg =>
      simpa [NdpRequest.run, nanDataRequestInitiator, NdpRequest.attrs, NdpRequest.accepted] using
        ndpRequest_reportsFailure_iff env
          (missingKey msg.cipher_type msg.key_info || missingServiceName msg) (initiatorAttrs id msg)
  | indicationResponse id msg =>
    cases msg with
    | none => simp [NdpRequest.run, nanDataIndicationResponse, hnull, NdpRequest.accepted]
    | some msg =>
      simpa [NdpRequest.run, nanDataIndicationResponse, NdpRequest.attrs, NdpRequest.accepted] using
        ndpRequest_reportsFailure_iff env (missingKey msg.cipher_type msg.key_info)
          (responseAttrs id msg)
  | endRequest id msg =>
    cases msg with
    | none => simp [NdpRequest.run, nanDataEnd, hnull, NdpRequest.accepted]
    | some msg =>
      simpa [NdpRequest.run, nanDataEnd, NdpRequest.attrs, NdpRequest.accepted] using
        ndpRequest_reportsFailure_iff env false (endAttrs id msg)

/-- Everything is accepted but the opening of the vendor data. -/
def refusedNestEnv : RequestEnv where
  msgAlloc := true
  refused k := if k = 3 then some ⟨-5, by decide⟩ else none
  ifindex := 4
  cbAlloc := true
  cmdSock := true
  sendStatus := 0
  answer := 0
  answer_le := acknowledgement_le

/-- Creating the interface `nan0` returns success although no message was sent. -/
theorem not_reportsFailure_refusedNest :
    ¬ (NdpRequest.interfaceCreate 1 (some [110, 97, 110, 48])).ReportsFailure refusedNestEnv := by
  intro hreports
  have hret : ((NdpRequest.interfaceCreate 1 (some [110, 97, 110, 48])).run refusedNestEnv).ret =
      .success := by decide
  have hsent : ((NdpRequest.interfaceCreate 1 (some [110, 97, 110, 48])).run refusedNestEnv).sent =
      none := by rfl
  rw [NdpRequest.ReportsFailure, RequestResult.ReportsFailure, hsent] at hreports
  exact absurd (hreports hret).1 (by simp)

end HardwareMediatek.Wifi
