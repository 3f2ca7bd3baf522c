import HardwareMediatek.Wifi.NanRequestLengths

/-!
# Parameters that publish and subscribe requests share

The two put functions are copies of each other where they encode the service name, the match filters,
the cipher suites, the key, the control parameters and the ranging configuration. The TLVs of these
parameters are picked out by their type, once from the statements and once from the message as the TLV
reader finds them, and compared. The copies differ in the bit that the range report is taken from.
-/

namespace HardwareMediatek.Wifi

open Foundation

section Common

/-- The types that the common parameters are sent under. -/
def commonTlvTypes : List ℕ :=
  [nanTlvTypeServiceName, nanTlvTypeRxMatchFilter, nanTlvTypeTxMatchFilter, nanTlvTypeNanCsid,
    nanTlvTypeNanPmk, nanTlvTypeNanPassphrase, nanTlvTypeSdeaCtrlParams, nanTlvTypeNanRangingCfg]

def commonEntries (entries : List TlvEntry) : List TlvEntry :=
  entries.filter fun entry ↦ entry.type ∈ commonTlvTypes

/-- The TLVs of a message, as its receiver reads them behind the fixed part. -/
def NanMessage.readBack (message : NanMessage) (fixed : ℕ) : List TlvEntry :=
  readTlvs message.buffer.bytes fixed (message.message_len - fixed : ℤ)

/-- `range_report` of `NanFWSdeaCtrlParams`: bit 16 of the word. -/
def rangeReportBit (value : List UInt8) : ℕ := (value.getD 2 0).toNat % 2

/-- The same setting of every common parameter. Arrays count up to the length beside them. -/
structure SameParameters (left right : NanServiceRequest) : Prop where
  service_name :
    bytesAt left.service_name left.service_name_len.toNat =
      bytesAt right.service_name right.service_name_len.toNat
  rx_match_filter :
    bytesAt left.rx_match_filter left.rx_match_filter_len.toNat =
      bytesAt right.rx_match_filter right.rx_match_filter_len.toNat
  tx_match_filter :
    bytesAt left.tx_match_filter left.tx_match_filter_len.toNat =
      bytesAt right.tx_match_filter right.tx_match_filter_len.toNat
  cipher_type : left.cipher_type = right.cipher_type
  key_info : left.key_info = right.key_info
  sdea_params : left.sdea_params = right.sdea_params
  ranging_cfg : left.ranging_cfg = right.ranging_cfg

/-- Both requests send the common parameters alike, and the range report as its flag says. -/
structure EncodedAlike (pub : NanPublishRequest) (sub : NanSubscribeRequest) : Prop where
  statements : commonEntries (tlvEntries pub.tlvs) = commonEntries (tlvEntries sub.tlvs)
  messages : ∀ (env env' : PutEnv) (id id' : UInt16) (message message' : NanMessage),
    (NanRequest.publish pub).FitsArrays → (NanRequest.subscribe sub).FitsArrays →
    putNanPublish env id (some pub) = .ok message →
    putNanSubscribe env' id' (some sub) = .ok message' →
      commonEntries (message.readBack (NanRequest.publish pub).fixedLen) =
        commonEntries (message'.readBack (NanRequest.subscribe sub).fixedLen)
  rangeReport : ∀ entry ∈ tlvEntries pub.tlvs ++ tlvEntries sub.tlvs,
    entry.type = nanTlvTypeSdeaCtrlParams →
      (rangeReportBit entry.value = 1 ↔
        pub.sdea_params.range_report &&& nanEnableRangeReport ≠ 0)

end Common

section Entries

variable (pReq : NanServiceRequest)

theorem commonEntries_append (left right : List TlvEntry) :
    commonEntries (left ++ right) = commonEntries left ++ commonEntries right :=
  List.filter_append left right

/-- A statement writes only TLVs of its own type. -/
theorem type_of_mem_add {present : Bool} {type length : ℕ} {value : Bytes} {entry : TlvEntry}
    (hentry : entry ∈ (TlvWrite.add present type length value).entries) : entry.type = type := by
  cases present with
  | false => exact absurd hentry List.not_mem_nil
  | true => rw [List.mem_singleton.mp hentry]

theorem commonEntries_add_of_mem {present : Bool} {type length : ℕ} {value : Bytes}
    (htype : type ∈ commonTlvTypes) :
    commonEntries (TlvWrite.add present type length value).entries =
      (TlvWrite.add present type length value).entries := by
  apply List.filter_eq_self.mpr
  intro entry hentry
  rw [type_of_mem_add hentry]
  exact decide_eq_true htype

theorem commonEntries_add_of_not_mem {present : Bool} {type length : ℕ} {value : Bytes}
    (htype : type ∉ commonTlvTypes) :
    commonEntries (TlvWrite.add present type length value).entries = [] := by
  apply List.filter_eq_nil_iff.mpr
  intro entry hentry
  rw [type_of_mem_add hentry, decide_eq_true_eq]
  exact htype

/-- The entry of an array depends on the bytes it holds only. -/
theorem entries_arrayTlv (type : ℕ) (len : UInt16) (data : Bytes) :
    (arrayTlv type len data).entries =
      if bytesAt data len.toNat = [] then [] else [⟨type, bytesAt data len.toNat⟩] := by
  have hempty : bytesAt data len.toNat = [] ↔ len = 0 := by
    rw [← List.length_eq_zero_iff, length_bytesAt, ← UInt16.toNat_inj]
    rfl
  unfold arrayTlv TlvWrite.entries
  simp [hempty]

/-- What both requests write of the common parameters, with the bit of the range report left open. -/
def commonServiceEntries (range_report : ℕ) : List TlvEntry :=
  (arrayTlv nanTlvTypeServiceName pReq.service_name_len pReq.service_name).entries ++
    (arrayTlv nanTlvTypeRxMatchFilter pReq.rx_match_filter_len pReq.rx_match_filter).entries ++
    (arrayTlv nanTlvTypeTxMatchFilter pReq.tx_match_filter_len pReq.tx_match_filter).entries ++
    (csidTlv pReq).entries ++
    tlvEntries (keyInfoTlvs pReq.key_info) ++
    (if pReq.sdea_params.present then
      [⟨nanTlvTypeSdeaCtrlParams, nanFWSdeaCtrlParams pReq.sdea_params range_report⟩] else []) ++
    (if pReq.ranging_cfg.present then
      [⟨nanTlvTypeNanRangingCfg, nanFWRangeConfigParams pReq.ranging_cfg⟩] else [])

theorem commonEntries_keyInfoTlvs (key_info : NanSecurityKeyInfo) :
    commonEntries (tlvEntries (keyInfoTlvs key_info)) = tlvEntries (keyInfoTlvs key_info) := by
  unfold keyInfoTlvs
  split_ifs
  · simp only [tlvEntries_cons, tlvEntries_nil, List.append_nil]
    exact commonEntries_add_of_mem (by decide)
  · simp only [tlvEntries_cons, tlvEntries_nil, List.append_nil]
    exact commonEntries_add_of_mem (by decide)
  · rfl

theorem commonEntries_serviceTlvs :
    commonEntries (tlvEntries (serviceTlvs pReq)) =
      (arrayTlv nanTlvTypeServiceName pReq.service_name_len pReq.service_name).entries ++
        (arrayTlv nanTlvTypeRxMatchFilter pReq.rx_match_filter_len pReq.rx_match_filter).entries ++
        (arrayTlv nanTlvTypeTxMatchFilter pReq.tx_match_filter_len
          pReq.tx_match_filter).entries := by
  unfold serviceTlvs arrayTlv
  simp only [tlvEntries_cons, tlvEntries_nil, List.append_nil, commonEntries_append]
  rw [commonEntries_add_of_mem (by decide), commonEntries_add_of_not_mem (by decide),
    commonEntries_add_of_mem (by decide), commonEntries_add_of_mem (by decide)]
  simp only [List.nil_append, List.append_assoc]

theorem commonEntries_extendedTlvs (range_report : ℕ) :
    commonEntries (tlvEntries (extendedTlvs pReq range_report)) =
      (if pReq.sdea_params.present then
        [⟨nanTlvTypeSdeaCtrlParams, nanFWSdeaCtrlParams pReq.sdea_params range_report⟩] else []) ++
      (if pReq.ranging_cfg.present then
        [⟨nanTlvTypeNanRangingCfg, nanFWRangeConfigParams pReq.ranging_cfg⟩] else []) := by
  unfold extendedTlvs arrayTlv
  simp only [tlvEntries_cons, tlvEntries_nil, List.append_nil, commonEntries_append]
  rw [commonEntries_add_of_mem (by decide), commonEntries_add_of_mem (by decide),
    commonEntries_add_of_not_mem (by decide), List.append_nil]
  rfl

theorem commonEntries_csidTlv : commonEntries (csidTlv pReq).entries = (csidTlv pReq).entries :=
  commonEntries_add_of_mem (by decide)

theorem commonEntries_publish (pub : NanPublishRequest) :
    commonEntries (tlvEntries pub.tlvs) =
      commonServiceEntries pub.toNanServiceRequest
        (bitIf pub.sdea_params.range_report.toNat nanEnableRangeReport.toNat) := by
  unfold NanPublishRequest.tlvs commonServiceEntries
  simp only [tlvEntries_append, tlvEntries_cons, tlvEntries_nil, commonEntries_append,
    List.append_nil]
  rw [commonEntries_serviceTlvs, commonEntries_csidTlv, commonEntries_keyInfoTlvs,
    commonEntries_extendedTlvs, commonEntries_add_of_not_mem (by decide),
    commonEntries_add_of_not_mem (by decide)]
  simp only [List.nil_append, List.append_nil, List.append_assoc]

theorem commonEntries_addressTlvs (sub : NanSubscribeRequest) :
    commonEntries (tlvEntries sub.addressTlvs) = [] := by
  apply List.filter_eq_nil_iff.mpr
  intro entry hentry
  unfold tlvEntries NanSubscribeRequest.addressTlvs at hentry
  simp only [List.mem_flatMap, List.mem_map] at hentry
  obtain ⟨_, ⟨i, _, rfl⟩, hwritten⟩ := hentry
  rw [type_of_mem_add hwritten]
  decide

theorem commonEntries_subscribe (sub : NanSubscribeRequest) :
    commonEntries (tlvEntries sub.tlvs) =
      commonServiceEntries sub.toNanServiceRequest
        (bitIf sub.sdea_params.range_report.toNat (nanEnableRangeReport >>> 1).toNat) := by
  unfold NanSubscribeRequest.tlvs commonServiceEntries
  simp only [tlvEntries_append, tlvEntries_cons, tlvEntries_nil, commonEntries_append,
    List.append_nil]
  rw [commonEntries_serviceTlvs, commonEntries_addressTlvs, commonEntries_csidTlv,
    commonEntries_keyInfoTlvs, commonEntries_extendedTlvs,
    commonEntries_add_of_not_mem (by decide)]
  simp only [List.append_nil, List.append_assoc]

/-- The same parameters and the same bit make the same entries. -/
theorem commonServiceEntries_congr {left right : NanServiceRequest}
    (hsame : SameParameters left right) (range_report : ℕ) :
    commonServiceEntries left range_report = commonServiceEntries right range_report := by
  unfold commonServiceEntries csidTlv
  simp only [entries_arrayTlv]
  rw [hsame.service_name, hsame.rx_match_filter, hsame.tx_match_filter, hsame.cipher_type,
    hsame.key_info, hsame.sdea_params, hsame.ranging_cfg]

end Entries

section RangeReport

variable {sdea_params : NanSdeaCtrlParams} {range_report : ℕ}

/-- The bits in front of the range report take up two bytes. -/
theorem rangeReportBit_nanFWSdeaCtrlParams (hbit : range_report ≤ 1) :
    rangeReportBit (nanFWSdeaCtrlParams sdea_params range_report) = range_report := by
  unfold nanFWSdeaCtrlParams rangeReportBit
  generalize (if isSet sdea_params.config_nan_data_path then bitIf sdea_params.ndp_type.toNat 1
    else 0) = data_path_type
  simp only [packBits, le32, le16, List.cons_append, List.nil_append, List.getD_cons_succ,
    List.getD_cons_zero, UInt8.toNat_ofNat']
  omega

theorem bitIf_le (x mask : ℕ) : bitIf x mask ≤ 1 := by
  unfold bitIf
  split_ifs
  · exact Nat.le_refl 1
  · exact Nat.zero_le 1

theorem bitIf_eq_one_iff (x mask : UInt32) : bitIf x.toNat mask.toNat = 1 ↔ x &&& mask ≠ 0 := by
  have hand : x &&& mask ≠ 0 ↔ x.toNat &&& mask.toNat ≠ 0 := by
    rw [ne_eq, ← UInt32.toNat_inj, UInt32.toNat_and]
    rfl
  rw [hand]
  unfold bitIf
  split_ifs with hbits
  · exact iff_of_true rfl hbits
  · exact iff_of_false (by decide) hbits

/-- The entries that carry the bit are those of the common parameters. -/
theorem mem_commonEntries_iff {entries : List TlvEntry} {entry : TlvEntry}
    (htype : entry.type = nanTlvTypeSdeaCtrlParams) :
    entry ∈ commonEntries entries ↔ entry ∈ entries := by
  have hcommon : entry.type ∈ commonTlvTypes := by
    rw [htype]
    decide
  unfold commonEntries
  rw [List.mem_filter, decide_eq_true_eq]
  exact and_iff_left hcommon

theorem type_keyInfoTlvs {key_info : NanSecurityKeyInfo} {entry : TlvEntry}
    (hentry : entry ∈ tlvEntries (keyInfoTlvs key_info)) :
    entry.type ≠ nanTlvTypeSdeaCtrlParams := by
  unfold keyInfoTlvs at hentry
  split_ifs at hentry
  · rw [tlvEntries_cons, tlvEntries_nil, List.append_nil] at hentry
    rw [type_of_mem_add hentry]
    decide
  · rw [tlvEntries_cons, tlvEntries_nil, List.append_nil] at hentry
    rw [type_of_mem_add hentry]
    decide
  · exact absurd hentry List.not_mem_nil

/-- There is one such entry at most, and it is the word of the control parameters. -/
theorem mem_commonServiceEntries_iff {pReq : NanServiceRequest} {entry : TlvEntry}
    (htype : entry.type = nanTlvTypeSdeaCtrlParams) :
    entry ∈ commonServiceEntries pReq range_report ↔
      pReq.sdea_params.present = true ∧
        entry = ⟨nanTlvTypeSdeaCtrlParams, nanFWSdeaCtrlParams pReq.sdea_params range_report⟩ := by
  have hother {present : Bool} {type length : ℕ} {value : Bytes}
      (hne : type ≠ nanTlvTypeSdeaCtrlParams) :
      entry ∉ (TlvWrite.add present type length value).entries := fun hentry ↦
    hne ((type_of_mem_add hentry).symm.trans htype)
  have hranging : entry ∉ (if pReq.ranging_cfg.present then
      [(⟨nanTlvTypeNanRangingCfg, nanFWRangeConfigParams pReq.ranging_cfg⟩ : TlvEntry)] else []) := by
    intro hentry
    split_ifs at hentry
    · rw [List.mem_singleton.mp hentry] at htype
      exact absurd htype (show nanTlvTypeNanRangingCfg ≠ nanTlvTypeSdeaCtrlParams by decide)
    · exact absurd hentry List.not_mem_nil
  have hkey : entry ∉ tlvEntries (keyInfoTlvs pReq.key_info) := fun hentry ↦
    type_keyInfoTlvs hentry htype
  unfold commonServiceEntries arrayTlv csidTlv
  simp only [List.mem_append, hranging, hkey, hother (by decide : nanTlvTypeServiceName ≠ _),
    hother (by decide : nanTlvTypeRxMatchFilter ≠ _),
    hother (by decide : nanTlvTypeTxMatchFilter ≠ _),
    hother (by decide : nanTlvTypeNanCsid ≠ _), false_or, or_false]
  split_ifs with hpresent
  · simp [hpresent]
  · simp [hpresent]

end RangeReport

section Alike

variable {pub : NanPublishRequest} {sub : NanSubscribeRequest}

/-- The word that a publish request sends has the bit of the flag. -/
theorem publish_rangeReport {entry : TlvEntry} (hentry : entry ∈ tlvEntries pub.tlvs)
    (htype : entry.type = nanTlvTypeSdeaCtrlParams) :
    rangeReportBit entry.value = 1 ↔ pub.sdea_params.range_report &&& nanEnableRangeReport ≠ 0 := by
  rw [← mem_commonEntries_iff htype, commonEntries_publish, mem_commonServiceEntries_iff htype]
    at hentry
  rw [hentry.2, rangeReportBit_nanFWSdeaCtrlParams (bitIf_le _ _)]
  exact bitIf_eq_one_iff _ _

/-- That of a subscribe request has the bit below: the shift binds the mask and not the result. -/
theorem subscribe_rangeReport {entry : TlvEntry} (hentry : entry ∈ tlvEntries sub.tlvs)
    (htype : entry.type = nanTlvTypeSdeaCtrlParams) :
    rangeReportBit entry.value = 1 ↔
      sub.sdea_params.range_report &&& (nanEnableRangeReport >>> 1) ≠ 0 := by
  rw [← mem_commonEntries_iff htype, commonEntries_subscribe, mem_commonServiceEntries_iff htype]
    at hentry
  rw [hentry.2, rangeReportBit_nanFWSdeaCtrlParams (bitIf_le _ _)]
  exact bitIf_eq_one_iff _ _

theorem bitIf_congr {x mask mask' : UInt32} (hiff : x &&& mask ≠ 0 ↔ x &&& mask' ≠ 0) :
    bitIf x.toNat mask.toNat = bitIf x.toNat mask'.toNat := by
  rw [← bitIf_eq_one_iff, ← bitIf_eq_one_iff] at hiff
  have hle := bitIf_le x.toNat mask.toNat
  have hle' := bitIf_le x.toNat mask'.toNat
  omega

/-- A request without control parameters has no range report either. -/
theorem present_of_range_report {sdea_params : NanSdeaCtrlParams}
    (hreport : sdea_params.range_report ≠ 0) : sdea_params.present = true := by
  unfold NanSdeaCtrlParams.present
  simp [hreport]

theorem commonEntries_readBack {env : PutEnv} {id : UInt16} {request : NanRequest}
    {message : NanMessage} (hfits : request.FitsArrays) (hput : request.put env id = .ok message) :
    commonEntries (message.readBack request.fixedLen) = commonEntries (tlvEntries request.tlvs) := by
  obtain ⟨_, _, _, _, hinOrder⟩ := NanRequest.putInOrder hfits hput
  exact congrArg commonEntries hinOrder.exact.readBack

/-- The two requests agree exactly when both bits of the range report do. -/
theorem encodedAlike_iff (hsame : SameParameters pub.toNanServiceRequest sub.toNanServiceRequest) :
    EncodedAlike pub sub ↔
      (pub.sdea_params.range_report &&& 2 ≠ 0 ↔ pub.sdea_params.range_report &&& 1 ≠ 0) := by
  have hreport : sub.sdea_params.range_report = pub.sdea_params.range_report :=
    congrArg NanSdeaCtrlParams.range_report hsame.sdea_params.symm
  apply Iff.intro
  · intro halike
    by_cases hpresent : sub.sdea_params.present = true
    · let entry : TlvEntry :=
        ⟨nanTlvTypeSdeaCtrlParams, nanFWSdeaCtrlParams sub.sdea_params
          (bitIf sub.sdea_params.range_report.toNat (nanEnableRangeReport >>> 1).toNat)⟩
      have hentry : entry ∈ tlvEntries sub.tlvs := by
        rw [← mem_commonEntries_iff rfl, commonEntries_subscribe]
        exact (mem_commonServiceEntries_iff rfl).mpr ⟨hpresent, rfl⟩
      have hflag := halike.rangeReport entry (List.mem_append_right _ hentry) rfl
      rw [subscribe_rangeReport hentry rfl, hreport] at hflag
      exact hflag.symm
    · have hzero : pub.sdea_params.range_report = 0 := by
        by_contra hne
        rw [← hreport] at hne
        exact hpresent (present_of_range_report hne)
      rw [hzero]
      decide
  · intro hbits
    have hbit : bitIf pub.sdea_params.range_report.toNat nanEnableRangeReport.toNat =
        bitIf pub.sdea_params.range_report.toNat (nanEnableRangeReport >>> 1).toNat :=
      bitIf_congr hbits
    have hstatements : commonEntries (tlvEntries pub.tlvs) = commonEntries (tlvEntries sub.tlvs) := by
      rw [commonEntries_publish, commonEntries_subscribe, hreport,
        hbit]
      exact commonServiceEntries_congr hsame _
    apply EncodedAlike.mk hstatements
    · intro env env' id id' message message' hpub hsub hput hput'
      calc commonEntries (message.readBack (NanRequest.publish pub).fixedLen)
          = commonEntries (tlvEntries pub.tlvs) := commonEntries_readBack hpub hput
        _ = commonEntries (tlvEntries sub.tlvs) := hstatements
        _ = commonEntries (message'.readBack (NanRequest.subscribe sub).fixedLen) :=
            (commonEntries_readBack hsub hput').symm
    · intro entry hentry htype
      rcases List.mem_append.mp hentry with hpub | hsub
      · exact publish_rangeReport hpub htype
      · rw [subscribe_rangeReport hsub htype, hreport]
        exact hbits.symm

/-- A service with a name of one letter that asks for range reports. -/
def rangeService (range_report : UInt32) : NanServiceRequest where
  ttl := 0
  period := 1
  rssi_threshold_flag := 0
  connmap := 0
  recv_indication_cfg := 0
  service_name_len := 1
  service_name := fun _ ↦ 110
  service_specific_info_len := 0
  service_specific_info := fun _ ↦ 0
  rx_match_filter_len := 0
  rx_match_filter := fun _ ↦ 0
  tx_match_filter_len := 0
  tx_match_filter := fun _ ↦ 0
  cipher_type := 0
  key_info := ⟨0, 0, fun _ ↦ 0⟩
  sdea_params := ⟨0, 0, 0, 0, range_report, 0⟩
  ranging_cfg := ⟨0, 0, 0, 0⟩
  range_response_cfg := ⟨0, 0, fun _ ↦ 0, 0⟩
  sdea_service_specific_info_len := 0
  sdea_service_specific_info := fun _ ↦ 0

def rangePublish (range_report : UInt32) : NanPublishRequest :=
  { rangeService range_report with
    publish_id := 0
    publish_type := 0
    tx_type := 0
    publish_count := 0
    publish_match_indicator := 0
    service_responder_policy := 0 }

def rangeSubscribe (range_report : UInt32) : NanSubscribeRequest :=
  { rangeService range_report with
    subscribe_id := 0
    subscribe_type := 0
    serviceResponseFilter := 0
    serviceResponseInclude := 0
    useServiceResponseFilter := 0
    ssiRequiredForMatchIndication := 0
    subscribe_match_indicator := 0
    subscribe_count := 0
    num_intf_addr_present := 0
    intf_addr := fun _ _ ↦ 0 }

theorem sameParameters_range (range_report : UInt32) :
    SameParameters (rangePublish range_report).toNanServiceRequest
      (rangeSubscribe range_report).toNanServiceRequest :=
  ⟨rfl, rfl, rfl, rfl, rfl, rfl, rfl⟩

/-- With both bits set the requests agree. -/
theorem encodedAlike_bothBits : EncodedAlike (rangePublish 3) (rangeSubscribe 3) :=
  (encodedAlike_iff (sameParameters_range 3)).mpr (by decide)

/-- With the flag alone the subscribe request does not ask for range reports. -/
theorem range_report_lost :
    SameParameters (rangePublish 2).toNanServiceRequest (rangeSubscribe 2).toNanServiceRequest ∧
      (NanRequest.publish (rangePublish 2)).FitsArrays ∧
      (NanRequest.subscribe (rangeSubscribe 2)).FitsArrays ∧
      ¬ EncodedAlike (rangePublish 2) (rangeSubscribe 2) := by
  have hpub : commonEntries (tlvEntries (rangePublish 2).tlvs) =
      [⟨nanTlvTypeServiceName, [110]⟩, ⟨nanTlvTypeSdeaCtrlParams, [0, 0, 1, 0]⟩] := rfl
  have hsub : commonEntries (tlvEntries (rangeSubscribe 2).tlvs) =
      [⟨nanTlvTypeServiceName, [110]⟩, ⟨nanTlvTypeSdeaCtrlParams, [0, 0, 0, 0]⟩] := rfl
  have hfits : (rangeService 2).FitsArrays :=
    ⟨by decide, by decide, by decide, by decide, by decide⟩
  apply And.intro (sameParameters_range 2)
  apply And.intro hfits
  apply And.intro ⟨hfits, by decide⟩
  intro halike
  have hequal := halike.statements
  rw [hpub, hsub] at hequal
  simp at hequal

end Alike

end HardwareMediatek.Wifi
