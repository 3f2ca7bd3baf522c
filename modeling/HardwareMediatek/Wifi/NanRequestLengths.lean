import HardwareMediatek.Wifi.NanRequestEncoding

/-!
# The two lists of conditions of a NAN request agree

What a list of statements writes is the sum of what each of them writes. That sum is compared with
`message_len` for every request, and both are bounded by the number of statements, so that a length
always fits the 16 bits of the header.
-/

namespace HardwareMediatek.Wifi

open Foundation

section Sizes

/-- The bytes that a statement appends, which is a term of the sum. -/
def TlvWrite.size : TlvWrite → ℕ
  | .add present _ length _ => tlvLen present length
  | .postDiscovery pTxDisc => sizeofTlvHdr + calcNanTransmitPostDiscoverySize pTxDisc
  | .furtherAvailabilityMap present pFam =>
      if present ∧ calcNanFurtherAvailabilityMapSize pFam ≠ 0 then
        sizeofTlvHdr + calcNanFurtherAvailabilityMapSize pFam
      else 0

def writtenLen (writes : List TlvWrite) : ℕ := (writes.map TlvWrite.size).sum

variable (write : TlvWrite) (writes left right : List TlvWrite)

@[simp]
theorem TlvWrite.size_add (present : Bool) (type length : ℕ) (value : Bytes) :
    (TlvWrite.add present type length value).size = tlvLen present length := rfl

@[simp]
theorem writtenLen_nil : writtenLen [] = 0 := rfl

@[simp]
theorem writtenLen_cons : writtenLen (write :: writes) = write.size + writtenLen writes :=
  List.sum_cons

@[simp]
theorem writtenLen_append : writtenLen (left ++ right) = writtenLen left + writtenLen right := by
  unfold writtenLen
  rw [List.map_append, List.sum_append]

theorem length_encodeTlvs_ite (condition : Prop) [Decidable condition] (entry : TlvEntry) :
    (encodeTlvs (if condition then [entry] else [])).length =
      if condition then sizeofTlvHdr + entry.value.length else 0 := by
  by_cases hcondition : condition
  · rw [if_pos hcondition, if_pos hcondition, encodeTlvs_cons, encodeTlvs_nil, List.append_nil,
      length_encode]
  · rw [if_neg hcondition, if_neg hcondition, encodeTlvs_nil, List.length_nil]

theorem TlvWrite.length_entries : (encodeTlvs write.entries).length = write.size := by
  cases write with
  | add present type length value =>
    have hentries := length_encodeTlvs_ite (present = true)
      ⟨type, bytesAt value length⟩
    rw [length_bytesAt] at hentries
    exact hentries
  | postDiscovery pTxDisc =>
    change (encodeTlvs [_]).length = _
    rw [encodeTlvs_cons, encodeTlvs_nil, List.append_nil, length_encode, length_postDiscoveryValue]
    rfl
  | furtherAvailabilityMap present pFam =>
    change (encodeTlvs (if _ then _ else _)).length = if _ then _ else _
    rw [length_encodeTlvs_ite]
    by_cases hwritten : present = true ∧ calcNanFurtherAvailabilityMapSize pFam ≠ 0
    · rw [if_pos hwritten, if_pos hwritten, length_furtherAvailabilityValue hwritten.2]
    · rw [if_neg hwritten, if_neg hwritten]

theorem length_encodeTlvs_tlvEntries :
    (encodeTlvs (tlvEntries writes)).length = writtenLen writes := by
  induction writes with
  | nil => rfl
  | cons write writes ih =>
    rw [tlvEntries_cons, encodeTlvs_append, List.length_append, write.length_entries, ih,
      writtenLen_cons]

end Sizes

section Bounds

/-- Lengths that fit their fields, with at most 1024 bytes in an array. -/
structure TlvWrite.Within (write : TlvWrite) : Prop where
  fits : write.Fits
  size : write.size ≤ sizeofTlvHdr + 1024

/-- A TLV of a type of 16 bits and a length of at most 20 bytes, whatever its condition. -/
def TlvWrite.isSmall : TlvWrite → Bool
  | .add _ type length _ => decide (type < 65536 ∧ length ≤ 20)
  | _ => false

theorem tlvLen_le (present : Bool) (size : ℕ) : tlvLen present size ≤ sizeofTlvHdr + size := by
  cases present
  · exact Nat.zero_le _
  · exact Nat.le_refl _

theorem within_add {present : Bool} {type length : ℕ} {value : Bytes} (htype : type < 65536)
    (hlength : length ≤ 1024) : (TlvWrite.add present type length value).Within := by
  have hle := tlvLen_le present length
  apply TlvWrite.Within.mk
  · intro _
    apply And.intro htype
    unfold sizeofTlvHdr
    omega
  · change tlvLen present length ≤ _
    omega

theorem within_of_all_isSmall {writes : List TlvWrite} (hsmall : writes.all TlvWrite.isSmall = true) :
    ∀ write ∈ writes, write.Within := by
  intro write hwrite
  have hall := List.all_eq_true.mp hsmall write hwrite
  cases write with
  | add present type length value =>
    have hadd := of_decide_eq_true hall
    exact within_add hadd.1 (by omega)
  | postDiscovery pTxDisc => exact absurd hall Bool.false_ne_true
  | furtherAvailabilityMap present pFam => exact absurd hall Bool.false_ne_true

theorem within_postDiscovery {pTxDisc : NanTransmitPostDiscovery}
    (hssid : pTxDisc.infrastructure_ssid_len.toNat ≤ nanMaxInfraSsidLen) :
    (TlvWrite.postDiscovery pTxDisc).Within where
  fits := hssid
  size := by
    have hle := calcNanTransmitPostDiscoverySize_le pTxDisc hssid
    change sizeofTlvHdr + calcNanTransmitPostDiscoverySize pTxDisc ≤ _
    omega

theorem within_furtherAvailabilityMap (present : Bool) (pFam : NanFurtherAvailabilityMap) :
    (TlvWrite.furtherAvailabilityMap present pFam).Within where
  fits := trivial
  size := by
    have hle := calcNanFurtherAvailabilityMapSize_le pFam
    dsimp only [TlvWrite.size]
    split_ifs
    · exact Nat.add_le_add_left (by omega) sizeofTlvHdr
    · exact Nat.zero_le _

theorem within_arrayTlv {type : ℕ} {len : UInt16} {data : Bytes} (htype : type < 65536)
    (hlen : len.toNat ≤ 1024) : (arrayTlv type len data).Within :=
  within_add htype hlen

theorem writtenLen_le {writes : List TlvWrite} (hwithin : ∀ write ∈ writes, write.Within) :
    writtenLen writes ≤ writes.length * (sizeofTlvHdr + 1024) := by
  induction writes with
  | nil => exact Nat.zero_le _
  | cons write writes ih =>
    rw [List.forall_mem_cons] at hwithin
    have hfirst := hwithin.1.size
    have hrest := ih hwithin.2
    rw [writtenLen_cons, List.length_cons, Nat.add_mul, Nat.one_mul]
    omega

end Bounds

section Requests

theorem putMessage_exact_of_within {env : PutEnv} {message_len msgId : ℕ} {handle id : UInt16}
    {params : List UInt8} {writes : List TlvWrite} {message : NanMessage}
    (hput : putMessage env message_len (nanMsgHeader msgId message_len handle id ++ params) writes =
      .ok message)
    (hparams : params.length ≤ 8)
    (hlen : sizeofNanMsgHeader + params.length + writtenLen writes = message_len)
    (hcount : writes.length ≤ 63) (hwithin : ∀ write ∈ writes, write.Within) :
    message.Exact (sizeofNanMsgHeader + params.length) (tlvEntries writes) := by
  have hle := Nat.le_trans (writtenLen_le hwithin) (Nat.mul_le_mul_right _ hcount)
  apply putMessage_exact hput
  · rw [length_encodeTlvs_tlvEntries]
    exact hlen
  · unfold sizeofNanMsgHeader sizeofTlvHdr at *
    omega
  · intro write hwrite
    exact (hwithin write hwrite).fits

theorem writtenLen_socialChannelTlvs (config_scan_params : UInt8)
    (scan_params_val : NanSocialChannelScanParams) :
    writtenLen (socialChannelTlvs config_scan_params scan_params_val) =
      if isSet config_scan_params then nanMaxSocialChannels * (sizeofTlvHdr + 4) else 0 := by
  change tlvLen _ 4 + (tlvLen _ 4 + (tlvLen _ 4 + 0)) = _
  unfold tlvLen
  split_ifs <;> rfl

theorem enable_messageLen (pReq : NanEnableRequest) :
    sizeofNanMsgHeader + writtenLen pReq.tlvs = pReq.messageLen := by
  unfold NanEnableRequest.tlvs NanEnableRequest.messageLen NanEnableRequest.firstTlvs
    NanEnableRequest.lastTlvs nanMaxEnableReqSize
  simp only [writtenLen_append, writtenLen_socialChannelTlvs, writtenLen_cons, writtenLen_nil,
    TlvWrite.size_add, List.sum_cons, List.sum_nil]
  generalize (if isSet pReq.config_scan_params then _ else _ : ℕ) = social
  have htrue (size : ℕ) : tlvLen true size = sizeofTlvHdr + size := rfl
  simp only [htrue]
  omega

theorem enable_within (pReq : NanEnableRequest) : ∀ write ∈ pReq.tlvs, write.Within :=
  within_of_all_isSmall rfl

theorem length_enable_tlvs (pReq : NanEnableRequest) : pReq.tlvs.length ≤ 63 := by
  have hlength : pReq.tlvs.length = 38 := rfl
  omega

theorem writtenLen_map_postDiscovery (attrs : List NanTransmitPostDiscovery) (message_len : ℕ) :
    message_len + writtenLen (attrs.map TlvWrite.postDiscovery) =
      attrs.foldl
        (fun message_len attr ↦
          message_len + (sizeofTlvHdr + calcNanTransmitPostDiscoverySize attr))
        message_len := by
  induction attrs generalizing message_len with
  | nil => rfl
  | cons attr attrs ih =>
    rw [List.map_cons, writtenLen_cons, List.foldl_cons, ← ih, ← Nat.add_assoc]
    rfl

theorem config_messageLen (pReq : NanConfigRequest) :
    sizeofNanMsgHeader + writtenLen pReq.tlvs = pReq.messageLen := by
  have htrue (size : ℕ) : tlvLen true size = sizeofTlvHdr + size := rfl
  have hfixed : writtenLen pReq.firstTlvs +
      writtenLen (socialChannelTlvs pReq.config_scan_params pReq.scan_params_val) +
      writtenLen pReq.forceTlvs + writtenLen pReq.lastTlvs =
      pReq.fixedLens + (TlvWrite.furtherAvailabilityMap (isSet pReq.config_fam) pReq.fam_val).size := by
    unfold NanConfigRequest.firstTlvs NanConfigRequest.forceTlvs NanConfigRequest.lastTlvs
      NanConfigRequest.fixedLens
    rw [writtenLen_socialChannelTlvs]
    generalize (if isSet pReq.config_scan_params then _ else _ : ℕ) = social
    generalize hfam : TlvWrite.furtherAvailabilityMap (isSet pReq.config_fam) pReq.fam_val = fam
    simp only [writtenLen_cons, writtenLen_nil, List.sum_cons, List.sum_nil]
    generalize fam.size = famLen
    simp only [TlvWrite.size_add, htrue]
    omega
  have htlvs : writtenLen pReq.tlvs =
      writtenLen pReq.firstTlvs +
        writtenLen (socialChannelTlvs pReq.config_scan_params pReq.scan_params_val) +
        writtenLen pReq.forceTlvs +
        writtenLen (pReq.discoveryAttrs.map TlvWrite.postDiscovery) +
        writtenLen pReq.lastTlvs := by
    unfold NanConfigRequest.tlvs
    simp only [writtenLen_append]
  unfold NanConfigRequest.messageLen
  dsimp only
  rw [← writtenLen_map_postDiscovery]
  dsimp only [TlvWrite.size] at hfixed
  split_ifs at hfixed ⊢ <;> omega

theorem config_within (pReq : NanConfigRequest)
    (hssid : ∀ attr ∈ pReq.discoveryAttrs,
      attr.infrastructure_ssid_len.toNat ≤ nanMaxInfraSsidLen) :
    ∀ write ∈ pReq.tlvs, write.Within := by
  have hfirst : ∀ write ∈ pReq.firstTlvs ++
      socialChannelTlvs pReq.config_scan_params pReq.scan_params_val ++ pReq.forceTlvs,
      write.Within := within_of_all_isSmall rfl
  have hattrs : ∀ write ∈ pReq.discoveryAttrs.map TlvWrite.postDiscovery, write.Within := by
    rw [List.forall_mem_map]
    intro attr hattr
    exact within_postDiscovery (hssid attr hattr)
  have hlast : ∀ write ∈ pReq.lastTlvs, write.Within := by
    unfold NanConfigRequest.lastTlvs
    rw [List.forall_mem_cons]
    apply And.intro (within_furtherAvailabilityMap _ _)
    exact within_of_all_isSmall rfl
  unfold NanConfigRequest.tlvs
  rw [List.forall_mem_append, List.forall_mem_append]
  exact ⟨⟨hfirst, hattrs⟩, hlast⟩

theorem length_config_tlvs (pReq : NanConfigRequest)
    (hcount : pReq.num_config_discovery_attr.toNat ≤ nanMaxPostdiscoveryLen) :
    pReq.tlvs.length ≤ 63 := by
  have hattrs : pReq.discoveryAttrs.length = pReq.num_config_discovery_attr.toNat := by
    unfold NanConfigRequest.discoveryAttrs
    rw [List.length_map, List.length_range]
  have hlength : pReq.tlvs.length = 6 + 3 + 3 + pReq.discoveryAttrs.length + 11 := by
    unfold NanConfigRequest.tlvs
    simp only [List.length_append, List.length_map]
    rfl
  unfold nanMaxPostdiscoveryLen at hcount
  omega

theorem arrayTlv_size (type : ℕ) (len : UInt16) (data : Bytes) :
    (arrayTlv type len data).size = arrayLen len := rfl

theorem writtenLen_keyInfoTlvs (key_info : NanSecurityKeyInfo) :
    writtenLen (keyInfoTlvs key_info) = keyInfoLen key_info := by
  unfold keyInfoTlvs keyInfoLen
  split_ifs with hpmk hpassphrase
  · rw [hpmk.2]
    rfl
  · rfl
  · rfl

theorem keyInfoTlvs_within (key_info : NanSecurityKeyInfo) :
    ∀ write ∈ keyInfoTlvs key_info, write.Within := by
  unfold keyInfoTlvs
  split_ifs with hpmk hpassphrase
  · rw [List.forall_mem_singleton, hpmk.2]
    exact within_add (by decide) (by decide)
  · rw [List.forall_mem_singleton]
    apply within_add (by decide)
    have hmax : key_info.passphrase_len.toNat ≤ nanSecurityMaxPassphraseLen.toNat :=
      hpassphrase.2.2
    have hvalue : nanSecurityMaxPassphraseLen.toNat = 63 := rfl
    omega
  · exact List.forall_mem_nil _

theorem length_keyInfoTlvs (key_info : NanSecurityKeyInfo) :
    (keyInfoTlvs key_info).length ≤ 1 := by
  unfold keyInfoTlvs
  split_ifs
  · exact Nat.le_refl 1
  · exact Nat.le_refl 1
  · exact Nat.zero_le 1

/-- The arrays of a service request are as long as its length fields say. -/
structure NanServiceRequest.FitsArrays (pReq : NanServiceRequest) : Prop where
  service_name : pReq.service_name_len.toNat ≤ nanMaxServiceNameLen
  service_specific_info : pReq.service_specific_info_len.toNat ≤ nanMaxServiceSpecificInfoLen
  rx_match_filter : pReq.rx_match_filter_len.toNat ≤ nanMaxMatchFilterLen
  tx_match_filter : pReq.tx_match_filter_len.toNat ≤ nanMaxMatchFilterLen
  sdea_service_specific_info :
    pReq.sdea_service_specific_info_len.toNat ≤ nanMaxSdeaServiceSpecificInfoLen

theorem serviceTlvs_within {pReq : NanServiceRequest} (hfits : pReq.FitsArrays) :
    ∀ write ∈ serviceTlvs pReq, write.Within := by
  have hname : pReq.service_name_len.toNat ≤ 255 := hfits.service_name
  have hrx : pReq.rx_match_filter_len.toNat ≤ 255 := hfits.rx_match_filter
  have htx : pReq.tx_match_filter_len.toNat ≤ 255 := hfits.tx_match_filter
  unfold serviceTlvs
  simp only [List.forall_mem_cons]
  apply And.intro (within_arrayTlv (by decide) (by omega))
  apply And.intro (within_arrayTlv (by decide) hfits.service_specific_info)
  apply And.intro (within_arrayTlv (by decide) (by omega))
  apply And.intro (within_arrayTlv (by decide) (by omega))
  exact List.forall_mem_nil _

theorem extendedTlvs_within {pReq : NanServiceRequest} (hfits : pReq.FitsArrays)
    (range_report : ℕ) : ∀ write ∈ extendedTlvs pReq range_report, write.Within := by
  unfold extendedTlvs
  simp only [List.forall_mem_cons]
  apply And.intro (within_add (by decide) (by decide))
  apply And.intro (within_add (by decide) (by decide))
  apply And.intro (within_arrayTlv (by decide) hfits.sdea_service_specific_info)
  exact List.forall_mem_nil _

theorem writtenLen_serviceTlvs (pReq : NanServiceRequest) :
    writtenLen (serviceTlvs pReq) =
      arrayLen pReq.service_name_len + arrayLen pReq.service_specific_info_len +
        arrayLen pReq.rx_match_filter_len + arrayLen pReq.tx_match_filter_len := by
  unfold serviceTlvs
  simp only [writtenLen_cons, writtenLen_nil, arrayTlv_size]
  omega

theorem writtenLen_extendedTlvs (pReq : NanServiceRequest) (range_report : ℕ) :
    writtenLen (extendedTlvs pReq range_report) =
      tlvLen pReq.sdea_params.present 4 + tlvLen pReq.ranging_cfg.present 20 +
        arrayLen pReq.sdea_service_specific_info_len := by
  unfold extendedTlvs
  simp only [writtenLen_cons, writtenLen_nil, arrayTlv_size, TlvWrite.size_add]
  omega

theorem publish_messageLen (pReq : NanPublishRequest) :
    sizeofNanMsgHeader + 8 + writtenLen pReq.tlvs = pReq.messageLen := by
  unfold NanPublishRequest.tlvs NanPublishRequest.messageLen csidTlv
  simp only [writtenLen_append, writtenLen_serviceTlvs, writtenLen_keyInfoTlvs,
    writtenLen_extendedTlvs, writtenLen_cons, writtenLen_nil, TlvWrite.size_add]
  have htrue : tlvLen true 4 = sizeofTlvHdr + 4 := rfl
  omega

theorem publish_within {pReq : NanPublishRequest} (hfits : pReq.toNanServiceRequest.FitsArrays) :
    ∀ write ∈ pReq.tlvs, write.Within := by
  unfold NanPublishRequest.tlvs
  simp only [List.forall_mem_append]
  apply And.intro
  · apply And.intro
    · apply And.intro
      · apply And.intro (serviceTlvs_within hfits)
        exact within_of_all_isSmall rfl
      · exact keyInfoTlvs_within pReq.key_info
    · exact extendedTlvs_within hfits _
  · exact within_of_all_isSmall rfl

theorem length_publish_tlvs (pReq : NanPublishRequest) : pReq.tlvs.length ≤ 63 := by
  have hkey := length_keyInfoTlvs pReq.key_info
  have hlength : pReq.tlvs.length = 4 + 2 + (keyInfoTlvs pReq.key_info).length + 3 + 1 := by
    unfold NanPublishRequest.tlvs
    simp only [List.length_append]
    rfl
  omega

/-- The two conditions on the ranging response, which are written differently. -/
theorem ranging_response_ne_zero_iff (ranging_response : UInt16) :
    ranging_response ≠ 0 ↔ nanRangeRequestAccept ≤ ranging_response := by
  rw [Ne, ← UInt16.toNat_inj, UInt16.le_iff_toNat_le]
  have haccept : nanRangeRequestAccept.toNat = 1 := rfl
  have hzero : (0 : UInt16).toNat = 0 := rfl
  omega

theorem writtenLen_addressTlvs (pReq : NanSubscribeRequest) :
    writtenLen pReq.addressTlvs =
      pReq.num_intf_addr_present.toNat * (sizeofTlvHdr + nanMacAddrLen) := by
  unfold NanSubscribeRequest.addressTlvs
  generalize pReq.num_intf_addr_present.toNat = count
  induction count with
  | zero => rw [Nat.zero_mul]; rfl
  | succ count ih =>
    rw [List.range_succ, List.map_append, writtenLen_append, ih, Nat.add_mul, Nat.one_mul]
    rfl

theorem subscribe_messageLen (pReq : NanSubscribeRequest) :
    sizeofNanMsgHeader + 8 + writtenLen pReq.tlvs = pReq.messageLen := by
  unfold NanSubscribeRequest.tlvs NanSubscribeRequest.messageLen csidTlv
  simp only [writtenLen_append, writtenLen_serviceTlvs, writtenLen_keyInfoTlvs,
    writtenLen_extendedTlvs, writtenLen_addressTlvs, writtenLen_cons, writtenLen_nil,
    TlvWrite.size_add, ranging_response_ne_zero_iff]
  omega

theorem subscribe_within {pReq : NanSubscribeRequest}
    (hfits : pReq.toNanServiceRequest.FitsArrays) : ∀ write ∈ pReq.tlvs, write.Within := by
  have haddresses : ∀ write ∈ pReq.addressTlvs, write.Within := by
    unfold NanSubscribeRequest.addressTlvs
    rw [List.forall_mem_map]
    intro i _
    exact within_add (by decide) (by decide)
  unfold NanSubscribeRequest.tlvs
  simp only [List.forall_mem_append]
  apply And.intro
  · apply And.intro
    · apply And.intro
      · apply And.intro (And.intro (serviceTlvs_within hfits) haddresses)
        exact within_of_all_isSmall rfl
      · exact keyInfoTlvs_within pReq.key_info
    · exact extendedTlvs_within hfits _
  · exact within_of_all_isSmall rfl

theorem length_subscribe_tlvs (pReq : NanSubscribeRequest)
    (hcount : pReq.num_intf_addr_present.toNat ≤ nanMaxSubscribeMaxAddress) :
    pReq.tlvs.length ≤ 63 := by
  have hkey := length_keyInfoTlvs pReq.key_info
  have haddresses : pReq.addressTlvs.length = pReq.num_intf_addr_present.toNat := by
    unfold NanSubscribeRequest.addressTlvs
    rw [List.length_map, List.length_range]
  have hlength : pReq.tlvs.length =
      4 + pReq.addressTlvs.length + 1 + (keyInfoTlvs pReq.key_info).length + 3 + 1 := by
    unfold NanSubscribeRequest.tlvs
    simp only [List.length_append]
    rfl
  unfold nanMaxSubscribeMaxAddress at hcount
  omega

theorem transmitFollowup_messageLen (pReq : NanTransmitFollowupRequest) :
    sizeofNanMsgHeader + 8 + writtenLen pReq.tlvs = pReq.messageLen := by
  unfold NanTransmitFollowupRequest.tlvs NanTransmitFollowupRequest.messageLen
  simp only [writtenLen_cons, writtenLen_nil, arrayTlv_size, TlvWrite.size_add]
  have htrue : tlvLen true nanMacAddrLen = sizeofTlvHdr + nanMacAddrLen := rfl
  omega

theorem transmitFollowup_within {pReq : NanTransmitFollowupRequest}
    (hinfo : pReq.service_specific_info_len.toNat ≤ nanMaxServiceSpecificInfoLen)
    (hsdea : pReq.sdea_service_specific_info_len.toNat ≤ nanMaxSdeaServiceSpecificInfoLen) :
    ∀ write ∈ pReq.tlvs, write.Within := by
  unfold NanTransmitFollowupRequest.tlvs
  simp only [List.forall_mem_cons]
  apply And.intro (within_add (by decide) (by decide))
  apply And.intro (within_arrayTlv (by decide) hinfo)
  apply And.intro (within_arrayTlv (by decide) hsdea)
  exact List.forall_mem_nil _

theorem length_transmitFollowup_tlvs (pReq : NanTransmitFollowupRequest) :
    pReq.tlvs.length ≤ 63 := by
  have hlength : pReq.tlvs.length = 3 := rfl
  omega

end Requests

section Exact

/-- The requests that are written with TLVs. -/
inductive NanRequest where
  | enable (pReq : NanEnableRequest)
  | config (pReq : NanConfigRequest)
  | publish (pReq : NanPublishRequest)
  | subscribe (pReq : NanSubscribeRequest)
  | transmitFollowup (pReq : NanTransmitFollowupRequest)

namespace NanRequest

def put (env : PutEnv) (id : UInt16) : NanRequest → Except WifiError NanMessage
  | .enable pReq => putNanEnable env id (some pReq)
  | .config pReq => putNanConfig env id (some pReq)
  | .publish pReq => putNanPublish env id (some pReq)
  | .subscribe pReq => putNanSubscribe env id (some pReq)
  | .transmitFollowup pReq => putNanTransmitFollowup env id (some pReq)

/-- `fwHeader` and the parameters, up to `ptlv`. -/
def fixedLen : NanRequest → ℕ
  | .enable _ => sizeofNanMsgHeader
  | .config _ => sizeofNanMsgHeader
  | .publish pReq => sizeofNanMsgHeader + pReq.params.length
  | .subscribe pReq => sizeofNanMsgHeader + pReq.params.length
  | .transmitFollowup pReq => sizeofNanMsgHeader + pReq.params.length

def tlvs : NanRequest → List TlvWrite
  | .enable pReq => pReq.tlvs
  | .config pReq => pReq.tlvs
  | .publish pReq => pReq.tlvs
  | .subscribe pReq => pReq.tlvs
  | .transmitFollowup pReq => pReq.tlvs

/-- The lengths and counts of a request do not exceed the arrays they belong to. -/
def FitsArrays : NanRequest → Prop
  | .enable _ => True
  | .config pReq =>
      pReq.num_config_discovery_attr.toNat ≤ nanMaxPostdiscoveryLen ∧
        ∀ attr ∈ pReq.discoveryAttrs,
          attr.mesh_id_len.toNat ≤ nanMaxMeshDataLen ∧
            attr.infrastructure_ssid_len.toNat ≤ nanMaxInfraSsidLen
  | .publish pReq => pReq.toNanServiceRequest.FitsArrays
  | .subscribe pReq =>
      pReq.toNanServiceRequest.FitsArrays ∧
        pReq.num_intf_addr_present.toNat ≤ nanMaxSubscribeMaxAddress
  | .transmitFollowup pReq =>
      pReq.service_specific_info_len.toNat ≤ nanMaxServiceSpecificInfoLen ∧
        pReq.sdea_service_specific_info_len.toNat ≤ nanMaxSdeaServiceSpecificInfoLen

/-- What is accepted of a request that fits its arrays went through `putMessage` in order: the message
length is the one that the header and the TLVs take. -/
structure PutInOrder (env : PutEnv) (id : UInt16) (request : NanRequest) (message : NanMessage)
    (message_len msgId : ℕ) (handle : UInt16) (params : List UInt8) : Prop where
  put : putMessage env message_len (nanMsgHeader msgId message_len handle id ++ params) request.tlvs =
    .ok message
  params_le : params.length ≤ 8
  fixedLen : sizeofNanMsgHeader + params.length = request.fixedLen
  messageLen : sizeofNanMsgHeader + params.length + writtenLen request.tlvs = message_len
  tlvs_le : request.tlvs.length ≤ 63
  within : ∀ write ∈ request.tlvs, write.Within

theorem PutInOrder.exact {env : PutEnv} {id : UInt16} {request : NanRequest} {message : NanMessage}
    {message_len msgId : ℕ} {handle : UInt16} {params : List UInt8}
    (h : PutInOrder env id request message message_len msgId handle params) :
    message.Exact request.fixedLen (tlvEntries request.tlvs) := by
  rw [← h.fixedLen]
  exact putMessage_exact_of_within h.put h.params_le h.messageLen h.tlvs_le h.within

theorem putInOrder {env : PutEnv} {id : UInt16} {request : NanRequest} {message : NanMessage}
    (hfits : request.FitsArrays) (hput : request.put env id = .ok message) :
    ∃ message_len msgId handle params,
      PutInOrder env id request message message_len msgId handle params := by
  cases request with
  | enable pReq =>
    have henable : putMessage env pReq.messageLen
        (nanMsgHeader nanMsgIdEnableReq pReq.messageLen 0 id ++ []) pReq.tlvs = .ok message := by
      rw [List.append_nil]
      exact hput
    exact ⟨_, _, _, _, henable, Nat.zero_le 8, rfl, enable_messageLen pReq, length_enable_tlvs pReq,
      enable_within pReq⟩
  | config pReq =>
    have hconfig : putMessage env pReq.messageLen
        (nanMsgHeader nanMsgIdConfigurationReq pReq.messageLen 0 id ++ []) pReq.tlvs =
          .ok message := by
      have hcount : ¬ nanMaxPostdiscoveryLen < pReq.num_config_discovery_attr.toNat :=
        Nat.not_lt.mpr hfits.1
      rw [List.append_nil]
      change (if _ then _ else _) = _ at hput
      rw [if_neg hcount] at hput
      exact hput
    exact ⟨_, _, _, _, hconfig, Nat.zero_le 8, rfl, config_messageLen pReq,
      length_config_tlvs pReq hfits.1, config_within pReq fun attr hattr ↦ (hfits.2 attr hattr).2⟩
  | publish pReq =>
    exact ⟨_, _, _, _, hput, Nat.le_refl 8, rfl, publish_messageLen pReq, length_publish_tlvs pReq,
      publish_within hfits⟩
  | subscribe pReq =>
    exact ⟨_, _, _, _, hput, Nat.le_refl 8, rfl, subscribe_messageLen pReq,
      length_subscribe_tlvs pReq hfits.2, subscribe_within hfits.1⟩
  | transmitFollowup pReq =>
    exact ⟨_, _, _, _, hput, Nat.le_refl 8, rfl, transmitFollowup_messageLen pReq,
      length_transmitFollowup_tlvs pReq, transmitFollowup_within hfits.1 hfits.2⟩

/-- Whatever is accepted of a request that fits its arrays is encoded exactly. -/
theorem put_exact {env : PutEnv} {id : UInt16} {request : NanRequest} {message : NanMessage}
    (hfits : request.FitsArrays) (hput : request.put env id = .ok message) :
    message.Exact request.fixedLen (tlvEntries request.tlvs) := by
  obtain ⟨_, _, _, _, hinOrder⟩ := putInOrder hfits hput
  exact hinOrder.exact

/-- A mesh attribute and a map of one channel, both of which are filled in place. -/
def meshConfigRequest : NanConfigRequest :=
  { (default : NanConfigRequest) with
    num_config_discovery_attr := 1
    discovery_attr_val := fun _ ↦
      { (default : NanTransmitPostDiscovery) with type := nanConnWlanMesh, mesh_id_len := 2 }
    config_fam := 1
    fam_val := { (default : NanFurtherAvailabilityMap) with numchans := 1 } }

theorem fitsArrays_meshConfigRequest : (config meshConfigRequest).FitsArrays := by
  apply And.intro (by decide)
  intro attr hattr
  rw [List.mem_singleton.mp hattr]
  decide

theorem put_exact_meshConfigRequest :
    ∃ message, (config meshConfigRequest).put ⟨true, fun _ ↦ 0, .success⟩ 7 = .ok message ∧
      message.Exact sizeofNanMsgHeader (tlvEntries meshConfigRequest.tlvs) := by
  have hput : (config meshConfigRequest).put ⟨true, fun _ ↦ 0, .success⟩ 7 =
      .ok ⟨meshConfigRequest.messageLen, _⟩ := rfl
  exact ⟨_, hput, put_exact fitsArrays_meshConfigRequest hput⟩

end NanRequest

end Exact

end HardwareMediatek.Wifi
