import HardwareMediatek.Wifi.NdpReporting

/-!
# Key material of secured data paths

A message that carries the cipher-suite attribute is to carry one key attribute of a usable length.
The early check of the two functions looks at the length alone, the encoder at the type and at the
exact length range; the requests between the two ask for security without a key.
-/

namespace HardwareMediatek.Wifi

open Foundation

/-- The attributes under the vendor data of a message. -/
def vendorAttrs (message : Message) : Attrs :=
  message.attrs.flatMap fun attr ↦
    match attr with
    | .nest (.nl80211 .vendorData) attrs => attrs
    | _ => []

def isKeyAttr (attr : NlAttr AttrType) : Bool :=
  attr.type = .ndp .pmk ∨ attr.type = .ndp .passphrase

/-- A length the attribute is specified with. -/
def ValidKeyLength (type : AttrType) (length : ℕ) : Prop :=
  (type = .ndp .pmk ∧ length = 32) ∨ (type = .ndp .passphrase ∧ 8 ≤ length ∧ length ≤ 63)

/-- If the message has the cipher-suite attribute, it has exactly one key attribute, and that one
has a valid length. -/
def CarriesKey (message : Message) : Prop :=
  (∃ attr ∈ vendorAttrs message, attr.type = .ndp .csid) →
    ∃ type data, (vendorAttrs message).filter isKeyAttr = [.payload type data] ∧
      ValidKeyLength type data.length

theorem vendorAttrs_vendorMessage (env : RequestEnv) (attrs : Attrs) :
    vendorAttrs (vendorMessage env attrs) = attrs := by
  simp [vendorAttrs, vendorMessage, initialMessage, NlMessage.add]

/-! ## The key attributes of a request are those of its key -/

@[simp]
theorem filter_isKeyAttr_headAttrs (subcmd : UInt32) (id : UInt16) :
    (headAttrs subcmd id).filter isKeyAttr = [] := by
  simp [headAttrs, isKeyAttr, u32Attr, NlAttr.type]

@[simp]
theorem filter_isKeyAttr_channelAttrs (channel_request_type channel : UInt32) :
    (channelAttrs channel_request_type channel).filter isKeyAttr = [] := by
  unfold channelAttrs
  split <;> simp [isKeyAttr, u32Attr, NlAttr.type]

@[simp]
theorem filter_isKeyAttr_appInfoAttrs (app_info : NanDataPathAppInfo) :
    (appInfoAttrs app_info).filter isKeyAttr = [] := by
  unfold appInfoAttrs
  split <;> simp [isKeyAttr, NlAttr.type]

@[simp]
theorem filter_isKeyAttr_configAttrs (ndp_cfg : NanDataPathCfg) :
    (configAttrs ndp_cfg).filter isKeyAttr = [] := by
  unfold configAttrs
  split_ifs <;> simp [isKeyAttr, NlAttr.type]

@[simp]
theorem filter_isKeyAttr_cipherAttrs (cipher_type : UInt32) :
    (cipherAttrs cipher_type).filter isKeyAttr = [] := by
  unfold cipherAttrs
  split <;> simp [isKeyAttr, u32Attr, NlAttr.type]

@[simp]
theorem filter_isKeyAttr_serviceNameAttrs (service_name : ℕ → UInt8) (service_name_len : UInt32) :
    (serviceNameAttrs service_name service_name_len).filter isKeyAttr = [] := by
  unfold serviceNameAttrs
  split <;> simp [isKeyAttr, NlAttr.type]

@[simp]
theorem filter_isKeyAttr_keyAttrs (key_info : NanSecurityKeyInfo) :
    (keyAttrs key_info).filter isKeyAttr = keyAttrs key_info := by
  unfold keyAttrs
  split_ifs <;> simp [isKeyAttr, NlAttr.type]

/-- The type tag and the exact length select one of the two key attributes. -/
def NanSecurityKeyInfo.usable (info : NanSecurityKeyInfo) : Bool :=
  (info.key_type = nanSecurityKeyInputPmk ∧ info.pmk_len = nanPmkInfoLen) ∨
    (info.key_type = nanSecurityKeyInputPassphrase ∧
      nanSecurityMinPassphraseLen ≤ info.passphrase_len ∧
      info.passphrase_len ≤ nanSecurityMaxPassphraseLen)

theorem keyAttrs_of_usable {key_info : NanSecurityKeyInfo} (husable : key_info.usable = true) :
    ∃ type data, keyAttrs key_info = [.payload type data] ∧ ValidKeyLength type data.length := by
  unfold keyAttrs
  by_cases hpmk : key_info.key_type = nanSecurityKeyInputPmk ∧ key_info.pmk_len = nanPmkInfoLen
  · rw [if_pos hpmk]
    apply Exists.intro (.ndp .pmk)
    apply Exists.intro (bytesAt key_info.key key_info.pmk_len.toNat)
    apply And.intro rfl
    apply Or.inl
    apply And.intro rfl
    rw [length_bytesAt, hpmk.2]
    rfl
  · have hpassphrase : key_info.key_type = nanSecurityKeyInputPassphrase ∧
        nanSecurityMinPassphraseLen ≤ key_info.passphrase_len ∧
        key_info.passphrase_len ≤ nanSecurityMaxPassphraseLen := by
      have hcases : _ ∨ _ := of_decide_eq_true husable
      exact hcases.resolve_left hpmk
    rw [if_neg hpmk, if_pos hpassphrase]
    apply Exists.intro (.ndp .passphrase)
    apply Exists.intro (bytesAt key_info.key key_info.passphrase_len.toNat)
    apply And.intro rfl
    apply Or.inr
    apply And.intro rfl
    rw [length_bytesAt]
    exact ⟨UInt32.le_iff_toNat_le.mp hpassphrase.2.1, UInt32.le_iff_toNat_le.mp hpassphrase.2.2⟩

theorem keyAttrs_of_not_usable {key_info : NanSecurityKeyInfo}
    (husable : ¬ key_info.usable = true) : keyAttrs key_info = [] := by
  have hcases := mt (decide_eq_true (p := _ ∨ _)) husable
  unfold keyAttrs
  rw [if_neg fun hpmk ↦ hcases (Or.inl hpmk), if_neg fun hpassphrase ↦ hcases (Or.inr hpassphrase)]

/-! ## The two requests with a cipher suite -/

/-- A call of one of the two functions that may ask for a cipher suite. -/
inductive SecurableRequest where
  | initiator (msg : NanDataPathInitiatorRequest)
  | response (msg : NanDataPathIndicationResponse)

namespace SecurableRequest

def cipher_type : SecurableRequest → UInt32
  | initiator msg => msg.cipher_type
  | response msg => msg.cipher_type

def key_info : SecurableRequest → NanSecurityKeyInfo
  | initiator msg => msg.key_info
  | response msg => msg.key_info

/-- The early checks of the function reject the arguments. -/
def rejected : SecurableRequest → Bool
  | initiator msg => missingKey msg.cipher_type msg.key_info || missingServiceName msg
  | response msg => missingKey msg.cipher_type msg.key_info

def run (id : UInt16) (env : RequestEnv) : SecurableRequest → RequestResult
  | initiator msg => nanDataRequestInitiator id (some msg) env
  | response msg => nanDataIndicationResponse id (some msg) env

def attrs (id : UInt16) : SecurableRequest → Attrs
  | initiator msg => initiatorAttrs id msg
  | response msg => responseAttrs id msg

variable (request : SecurableRequest) (id : UInt16)

theorem run_eq (env : RequestEnv) :
    request.run id env = ndpRequest env request.rejected (NlAttr.callsOf (request.attrs id)) := by
  cases request with
  | initiator msg => simp [run, nanDataRequestInitiator, rejected, attrs]
  | response msg => simp [run, nanDataIndicationResponse, rejected, attrs]

theorem filter_isKeyAttr_attrs :
    (request.attrs id).filter isKeyAttr = keyAttrs request.key_info := by
  cases request with
  | initiator msg => simp [attrs, initiatorAttrs, key_info, isKeyAttr, u32Attr, NlAttr.type]
  | response msg => simp [attrs, responseAttrs, key_info, isKeyAttr, u32Attr, NlAttr.type]

theorem csid_mem_attrs (hcipher : request.cipher_type ≠ nanCipherSuiteSharedKeyNone) :
    ∃ attr ∈ request.attrs id, attr.type = .ndp .csid := by
  apply Exists.intro (u32Attr (.ndp .csid) request.cipher_type)
  apply And.intro
  · cases request with
    | initiator msg =>
      have : msg.cipher_type ≠ nanCipherSuiteSharedKeyNone := hcipher
      simp [attrs, initiatorAttrs, cipherAttrs, this, cipher_type]
    | response msg =>
      have : msg.cipher_type ≠ nanCipherSuiteSharedKeyNone := hcipher
      simp [attrs, responseAttrs, cipherAttrs, this, cipher_type]
  · rfl

/-- With a cipher suite, every message the request sends, whatever the kernel answers, carries a
key whenever it carries the cipher suite. -/
def CarriesKeys : Prop :=
  request.cipher_type ≠ nanCipherSuiteSharedKeyNone →
    ∀ env message, (request.run id env).sent = some message → CarriesKey message

/-- The kernel accepts every call. -/
def acceptingEnv : RequestEnv where
  msgAlloc := true
  refused _ := none
  ifindex := 4
  cbAlloc := true
  cmdSock := true
  sendStatus := 0
  answer := 0
  answer_le := acknowledgement_le

theorem sent_acceptingEnv (haccepted : request.rejected = false) :
    (request.run id acceptingEnv).sent = some (vendorMessage acceptingEnv (request.attrs id)) := by
  have hinit : acceptingEnv.Initialises := ⟨rfl, fun _ _ ↦ rfl⟩
  have hbuilds : acceptingEnv.Builds (request.attrs id) := fun _ _ ↦ rfl
  rw [run_eq, haccepted, ndpRequest_of_builds acceptingEnv _ hinit hbuilds]
  rfl

theorem carriesKeys_iff :
    request.CarriesKeys id ↔
      (request.cipher_type = nanCipherSuiteSharedKeyNone ∨ request.rejected = true ∨
        request.key_info.usable = true) := by
  constructor
  · intro hcarries
    by_contra hcondition
    have ⟨hcipher, hrest⟩ := not_or.mp hcondition
    have ⟨hrejected, husable⟩ := not_or.mp hrest
    have hsent := request.sent_acceptingEnv id (Bool.eq_false_iff.mpr hrejected)
    have hkey := hcarries hcipher acceptingEnv _ hsent
    rw [CarriesKey, vendorAttrs_vendorMessage, filter_isKeyAttr_attrs,
      keyAttrs_of_not_usable husable] at hkey
    have ⟨type, data, hnil, _⟩ := hkey (request.csid_mem_attrs id hcipher)
    exact absurd hnil (by simp)
  · intro hcondition hcipher env message hsent _
    rw [run_eq] at hsent
    have ⟨haccepted, hmessage⟩ := ndpRequest_sent env request.rejected (request.attrs id) hsent
    have husable : request.key_info.usable = true := by
      apply (hcondition.resolve_left hcipher).resolve_left
      rw [haccepted]
      exact Bool.false_ne_true
    rw [hmessage, vendorAttrs_vendorMessage, filter_isKeyAttr_attrs]
    exact keyAttrs_of_usable husable

end SecurableRequest

/-- A response with cipher suite 1 and a PMK of sixteen bytes. -/
def shortPmkResponse : NanDataPathIndicationResponse where
  ndp_instance_id := 1
  ndp_iface := [110, 97, 110, 48]
  ndp_cfg := { security_cfg := 1, qos_cfg := 0 }
  app_info := { ndp_app_info_len := 0, ndp_app_info := fun _ ↦ 0 }
  rsp_code := 0
  cipher_type := 1
  key_info := { key_type := 1, len := 16, key := fun _ ↦ 0 }
  service_name_len := 0
  service_name := fun _ ↦ 0

theorem not_carriesKeys_shortPmk :
    ¬ (SecurableRequest.response shortPmkResponse).CarriesKeys 1 := by
  intro hcarries
  have hcipher : (SecurableRequest.response shortPmkResponse).cipher_type ≠
      nanCipherSuiteSharedKeyNone := by decide
  have hsent := (SecurableRequest.response shortPmkResponse).sent_acceptingEnv 1 (by decide)
  have hkey := hcarries hcipher SecurableRequest.acceptingEnv _ hsent
  rw [CarriesKey, vendorAttrs_vendorMessage, SecurableRequest.filter_isKeyAttr_attrs,
    keyAttrs_of_not_usable (by decide)] at hkey
  have ⟨type, data, hnil, _⟩ :=
    hkey ((SecurableRequest.response shortPmkResponse).csid_mem_attrs 1 hcipher)
  exact absurd hnil (by simp)

end HardwareMediatek.Wifi
