import HardwareMediatek.Wifi.NanCommand

/-!
# The five NAN data-path requests

Each request initializes a vendor message, checks its arguments, builds the attributes under
`NL80211_ATTR_VENDOR_DATA` and sends the message. A refused building call goes to the cleanup label
with the return value that the initialization left. Constants and record fields are those of the
framework header.
-/

namespace HardwareMediatek.Wifi

open Foundation

def nanCipherSuiteSharedKeyNone : UInt32 := 0
def nanSecurityKeyInputPmk : UInt32 := 1
def nanSecurityKeyInputPassphrase : UInt32 := 2
def nanPmkInfoLen : UInt32 := 32
def nanSecurityMinPassphraseLen : UInt32 := 8
def nanSecurityMaxPassphraseLen : UInt32 := 63
def nanDpChannelNotRequested : UInt32 := 0
def nanDpConfigSecurity : UInt32 := 1
def nanDpConfigQos : UInt32 := 1
def outOfBandServiceInstanceId : UInt32 := 0

def ndpInterfaceCreate : UInt32 := 1
def ndpInterfaceDelete : UInt32 := 2
def ndpInitiatorRequest : UInt32 := 3
def ndpResponderRequest : UInt32 := 5
def ndpEndRequest : UInt32 := 7

/-- `NanSecurityKeyInfo`. The members of the union both start with their length, and the key bytes
follow it in both. -/
structure NanSecurityKeyInfo where
  key_type : UInt32
  len : UInt32
  key : ℕ → UInt8

def NanSecurityKeyInfo.pmk_len (info : NanSecurityKeyInfo) : UInt32 := info.len
def NanSecurityKeyInfo.passphrase_len (info : NanSecurityKeyInfo) : UInt32 := info.len

structure NanDataPathAppInfo where
  ndp_app_info_len : UInt16
  ndp_app_info : ℕ → UInt8

structure NanDataPathCfg where
  security_cfg : UInt32
  qos_cfg : UInt32

/-- The interface name is the C string in the field, every other array the bytes from its start. -/
structure NanDataPathInitiatorRequest where
  requestor_instance_id : UInt32
  channel_request_type : UInt32
  channel : UInt32
  peer_disc_mac_addr : ℕ → UInt8
  ndp_iface : List UInt8
  ndp_cfg : NanDataPathCfg
  app_info : NanDataPathAppInfo
  cipher_type : UInt32
  key_info : NanSecurityKeyInfo
  service_name_len : UInt32
  service_name : ℕ → UInt8

structure NanDataPathIndicationResponse where
  ndp_instance_id : UInt32
  ndp_iface : List UInt8
  ndp_cfg : NanDataPathCfg
  app_info : NanDataPathAppInfo
  rsp_code : UInt32
  cipher_type : UInt32
  key_info : NanSecurityKeyInfo
  service_name_len : UInt32
  service_name : ℕ → UInt8

structure NanDataPathEndRequest where
  num_ndp_instances : UInt8
  ndp_instance_id : ℕ → UInt8

abbrev Calls := List (BuildCall AttrType)

/-- The calls of a branch of the source that may be skipped. -/
def callsIf (condition : Prop) [Decidable condition] (calls : Calls) : Calls :=
  if condition then calls else []

/-! The parts that the initiator request and the indication response have in common. -/

def putAppInfo (app_info : NanDataPathAppInfo) : Calls :=
  callsIf (app_info.ndp_app_info_len ≠ 0)
    [putBytes (.ndp .appInfo) app_info.ndp_app_info app_info.ndp_app_info_len.toNat]

def putConfig (ndp_cfg : NanDataPathCfg) : Calls :=
  callsIf (ndp_cfg.security_cfg = nanDpConfigSecurity)
    [.attrStart (.ndp .configSecurity), putU32 (.ndp .securityType) 0, .attrEnd] ++
  callsIf (ndp_cfg.qos_cfg = nanDpConfigQos) [.attrStart (.ndp .configQos), .attrEnd]

def putCipher (cipher_type : UInt32) : Calls :=
  callsIf (cipher_type ≠ nanCipherSuiteSharedKeyNone) [putU32 (.ndp .csid) cipher_type]

def putKey (key_info : NanSecurityKeyInfo) : Calls :=
  if key_info.key_type = nanSecurityKeyInputPmk ∧ key_info.pmk_len = nanPmkInfoLen then
    [putBytes (.ndp .pmk) key_info.key key_info.pmk_len.toNat]
  else if key_info.key_type = nanSecurityKeyInputPassphrase ∧
      nanSecurityMinPassphraseLen ≤ key_info.passphrase_len ∧
      key_info.passphrase_len ≤ nanSecurityMaxPassphraseLen then
    [putBytes (.ndp .passphrase) key_info.key key_info.passphrase_len.toNat]
  else []

def putServiceName (service_name : ℕ → UInt8) (service_name_len : UInt32) : Calls :=
  callsIf (service_name_len ≠ 0)
    [putBytes (.ndp .serviceName) service_name service_name_len.toNat]

/-- Neither member of the union has a length although a cipher suite is asked for. -/
def missingKey (cipher_type : UInt32) (key_info : NanSecurityKeyInfo) : Bool :=
  cipher_type ≠ nanCipherSuiteSharedKeyNone ∧ key_info.pmk_len = 0 ∧ key_info.passphrase_len = 0

def missingServiceName (msg : NanDataPathInitiatorRequest) : Bool :=
  msg.cipher_type ≠ nanCipherSuiteSharedKeyNone ∧
    msg.requestor_instance_id = outOfBandServiceInstanceId ∧ msg.service_name_len = 0

/-- The calls between `attr_start(NL80211_ATTR_VENDOR_DATA)` and its `attr_end`. -/
def interfaceCalls (subcmd : UInt32) (id : UInt16) (iface_name : List UInt8) : Calls :=
  [putU32 (.ndp .subcmd) subcmd, putU16 (.ndp .transactionId) id,
    putString (.ndp .ifaceStr) iface_name]

def initiatorCalls (id : UInt16) (msg : NanDataPathInitiatorRequest) : Calls :=
  [putU32 (.ndp .subcmd) ndpInitiatorRequest, putU16 (.ndp .transactionId) id,
    putU32 (.ndp .serviceInstanceId) msg.requestor_instance_id,
    putBytes (.ndp .peerDiscoveryMacAddr) msg.peer_disc_mac_addr nanMacAddrLen,
    putString (.ndp .ifaceStr) msg.ndp_iface] ++
  callsIf (msg.channel_request_type ≠ nanDpChannelNotRequested)
    [putU32 (.ndp .channelConfig) msg.channel_request_type,
      putU32 (.ndp .channel) msg.channel] ++
  putAppInfo msg.app_info ++ putConfig msg.ndp_cfg ++ putCipher msg.cipher_type ++
  putKey msg.key_info ++ putServiceName msg.service_name msg.service_name_len

def responseCalls (id : UInt16) (msg : NanDataPathIndicationResponse) : Calls :=
  [putU32 (.ndp .subcmd) ndpResponderRequest, putU16 (.ndp .transactionId) id,
    putU32 (.ndp .instanceId) msg.ndp_instance_id,
    putString (.ndp .ifaceStr) msg.ndp_iface,
    putU32 (.ndp .responseCode) msg.rsp_code] ++
  putAppInfo msg.app_info ++ putConfig msg.ndp_cfg ++ putCipher msg.cipher_type ++
  putKey msg.key_info ++ putServiceName msg.service_name msg.service_name_len

def endCalls (id : UInt16) (msg : NanDataPathEndRequest) : Calls :=
  [putU32 (.ndp .subcmd) ndpEndRequest, putU16 (.ndp .transactionId) id,
    putBytes (.ndp .instanceIdArray) msg.ndp_instance_id (msg.num_ndp_instances.toNat * 4)]

/-- The common course of the five functions, after their check for a null pointer. -/
def ndpRequest (env : RequestEnv) (rejected : Bool) (calls : Calls) : RequestResult :=
  match nanInitializeVendorCmd env with
  | .error error => { ret := mapKernelErrortoWifiHalError error.code }
  | .ok message =>
      if rejected then { ret := .invalidArgs }
      else
        match build env.refused 3
          (.attrStart (.nl80211 .vendorData) :: (calls ++ [.attrEnd])) message with
        -- `goto cleanup`: `ret` is still the success of the initialization
        | .error _ => { ret := .success }
        | .ok built => requestEvent env built

def nanDataInterfaceCreate (id : UInt16) (iface_name : Option (List UInt8)) (env : RequestEnv) :
    RequestResult :=
  match iface_name with
  | none => { ret := .invalidArgs }
  | some name => ndpRequest env false (interfaceCalls ndpInterfaceCreate id name)

def nanDataInterfaceDelete (id : UInt16) (iface_name : Option (List UInt8)) (env : RequestEnv) :
    RequestResult :=
  match iface_name with
  | none => { ret := .invalidArgs }
  | some name => ndpRequest env false (interfaceCalls ndpInterfaceDelete id name)

def nanDataRequestInitiator (id : UInt16) (msg : Option NanDataPathInitiatorRequest)
    (env : RequestEnv) : RequestResult :=
  match msg with
  | none => { ret := .invalidArgs }
  | some msg =>
      ndpRequest env (missingKey msg.cipher_type msg.key_info || missingServiceName msg)
        (initiatorCalls id msg)

def nanDataIndicationResponse (id : UInt16) (msg : Option NanDataPathIndicationResponse)
    (env : RequestEnv) : RequestResult :=
  match msg with
  | none => { ret := .invalidArgs }
  | some msg => ndpRequest env (missingKey msg.cipher_type msg.key_info) (responseCalls id msg)

def nanDataEnd (id : UInt16) (msg : Option NanDataPathEndRequest) (env : RequestEnv) :
    RequestResult :=
  match msg with
  | none => { ret := .invalidArgs }
  | some msg => ndpRequest env false (endCalls id msg)

/-- A call of one of the five functions. -/
inductive NdpRequest where
  | interfaceCreate (id : UInt16) (iface_name : Option (List UInt8))
  | interfaceDelete (id : UInt16) (iface_name : Option (List UInt8))
  | requestInitiator (id : UInt16) (msg : Option NanDataPathInitiatorRequest)
  | indicationResponse (id : UInt16) (msg : Option NanDataPathIndicationResponse)
  | endRequest (id : UInt16) (msg : Option NanDataPathEndRequest)

def NdpRequest.run : NdpRequest → RequestEnv → RequestResult
  | .interfaceCreate id iface_name => nanDataInterfaceCreate id iface_name
  | .interfaceDelete id iface_name => nanDataInterfaceDelete id iface_name
  | .requestInitiator id msg => nanDataRequestInitiator id msg
  | .indicationResponse id msg => nanDataIndicationResponse id msg
  | .endRequest id msg => nanDataEnd id msg

end HardwareMediatek.Wifi
