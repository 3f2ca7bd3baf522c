import HardwareMediatek.Foundation.CStrings
import HardwareMediatek.Wifi.NanErrorCodes
import HardwareMediatek.Wifi.NanEvents

/-!
# Translation of NAN errors

Responses and indications translate the firmware's status with one table, in loops of their own; the
confirmation of a data path has a switch. A TLV type that the firmware refuses is looked up in a second
table, but its name is read with the index of the first.
-/

namespace HardwareMediatek.Wifi

open Foundation

section Translation

/-- Size of a text of the framework. -/
def nanErrorStrLen : ℕ := 255

/-- The status and the text of a response, or the reason and the text of an indication. -/
structure ErrorReport where
  status : UInt32
  nan_error : Buffer

/-- What is appended to the text: the name of a TLV type. -/
def tlvInfo (firmwareErrorRecvd valueRcvd : UInt32) (i : ℕ) : List UInt8 :=
  if firmwareErrorRecvd = nanIStatusInvalidTlvType ∧
      tlvToStr.any (fun row ↦ row.tlvType = valueRcvd.toNat) then
    match tlvToStr[i]? with
    | some row => (Foundation.bytesOf row.strTlv).take (nanErrorStrLen - 1)
    | none => []
  else []

/-- The loop for a response. -/
def translateResponse (firmwareErrorRecvd valueRcvd : UInt32) (pRsp : ErrorReport) : ErrorReport :=
  let i := errorCodeTranslation.findIdx fun row ↦ row.firmwareError = firmwareErrorRecvd
  match errorCodeTranslation[i]? with
  | some row =>
    { status := row.frameworkError
      nan_error := (pRsp.nan_error.strlcpy 0 (Foundation.bytesOf row.nan_error) nanErrorStrLen).strlcat 0
        (tlvInfo firmwareErrorRecvd valueRcvd i) nanErrorStrLen }
  | none =>
    { status := nanStatusInternalFailure
      nan_error := pRsp.nan_error.strlcpy 0 (Foundation.bytesOf "NAN Discovery engine failure") nanErrorStrLen }

/-- The loop for an indication. -/
def translateReason (firmwareErrorRecvd : UInt32) (pRspInd : ErrorReport) : ErrorReport :=
  match errorCodeTranslation.find? fun row ↦ row.firmwareError = firmwareErrorRecvd with
  | some row =>
    { status := row.frameworkError
      nan_error := pRspInd.nan_error.strlcpy 0 (Foundation.bytesOf row.nan_error) nanErrorStrLen }
  | none =>
    { status := nanStatusInternalFailure
      nan_error := pRspInd.nan_error.strlcpy 0 (Foundation.bytesOf "NAN Discovery engine failure") nanErrorStrLen }

def nanErrorTranslation (event : NanEvent) (firmwareErrorRecvd valueRcvd : UInt32) (is_ndp_rsp : Bool)
    (report : ErrorReport) : ErrorReport :=
  if is_ndp_rsp = true ∨ isNanResponse event = true then
    translateResponse firmwareErrorRecvd valueRcvd report
  else
    match getIndicationType event with
    | .publishTerminated | .subscribeTerminated | .selfTransmitFollowup =>
      translateReason firmwareErrorRecvd report
    | .disabled => translateReason firmwareErrorRecvd report
    | _ => report

/-- The reason code that `getNdpConfirm` makes of the driver's return value. -/
def ndpConfirmReason (drv_reason_code : UInt32) : UInt32 :=
  if drv_reason_code = ndpIMgmtFrameRequestFailed ∨ drv_reason_code = ndpIMgmtFrameResponseFailed ∨
      drv_reason_code = ndpIMgmtFrameConfirmFailed ∨
      drv_reason_code = ndpIMgmtFrameSecurityInstallFailed then
    nanStatusProtocolFailure
  else drv_reason_code

end Translation

/-! ## Statuses -/

section Statuses

/-- Indications that carry a reason. -/
def NanIndicationType.HasReason (type : NanIndicationType) : Prop :=
  type = .publishTerminated ∨ type = .subscribeTerminated ∨ type = .selfTransmitFollowup ∨
    type = .disabled

/-- Responses, NDP responses and indications all report this status. -/
structure TranslatesTo (code status : UInt32) : Prop where
  response : ∀ event value report, isNanResponse event = true →
    (nanErrorTranslation event code value false report).status = status
  ndpResponse : ∀ event value report, (nanErrorTranslation event code value true report).status = status
  indication : ∀ event value report, isNanResponse event = false → (getIndicationType event).HasReason →
    (nanErrorTranslation event code value false report).status = status

/-- The status of the table, or a failure. -/
def translatedStatus (code : UInt32) : UInt32 :=
  ((errorCodeTranslation.find? fun row ↦ row.firmwareError = code).map ErrorCode.frameworkError).getD
    nanStatusInternalFailure

theorem translateResponse_status (code value : UInt32) (report : ErrorReport) :
    (translateResponse code value report).status = translatedStatus code := by
  unfold translateResponse translatedStatus
  dsimp only
  rw [← List.find?_eq_getElem?_findIdx]
  cases errorCodeTranslation.find? fun row ↦ row.firmwareError = code with
  | some row => rfl
  | none => rfl

theorem translateReason_status (code : UInt32) (report : ErrorReport) :
    (translateReason code report).status = translatedStatus code := by
  unfold translateReason translatedStatus
  cases errorCodeTranslation.find? fun row ↦ row.firmwareError = code with
  | some row => rfl
  | none => rfl

/-- Wherever a code arrives in a message, it is translated by the table. -/
theorem translatesTo_translatedStatus (code : UInt32) : TranslatesTo code (translatedStatus code) where
  response := by
    intro event value report hresponse
    unfold nanErrorTranslation
    rw [if_pos (Or.inr hresponse), translateResponse_status]
  ndpResponse := by
    intro event value report
    unfold nanErrorTranslation
    rw [if_pos (Or.inl rfl), translateResponse_status]
  indication := by
    intro event value report hindication hreason
    unfold nanErrorTranslation
    rw [hindication, if_neg (by decide)]
    rcases hreason with htype | htype | htype | htype
    all_goals
      rw [htype]
      exact translateReason_status code report

/-- An NDP response is enough to tell the status. -/
theorem TranslatesTo.eq_translatedStatus {code status : UInt32} (h : TranslatesTo code status) :
    status = translatedStatus code := by
  have hstatus := h.ndpResponse ⟨fun _ ↦ 0, 0⟩ 0 ⟨0, ⟨fun _ ↦ 0, []⟩⟩
  rw [← hstatus]
  exact (translatesTo_translatedStatus code).ndpResponse _ _ _

/-- The codes that mean the same to the switch and to the table. -/
def commonCodes : List UInt32 :=
  [nanIStatusSuccess, nanIStatusTimeout, nanIStatusInvalidMsgId, ndpIMgmtFrameRequestFailed,
    ndpIMgmtFrameResponseFailed, ndpIMgmtFrameConfirmFailed]

theorem translatedStatus_of_mem {row : ErrorCode} (hrow : row ∈ errorCodeTranslation) :
    translatedStatus row.firmwareError = row.frameworkError := by
  unfold translatedStatus
  rw [find?_errorCodeTranslation hrow]
  rfl

theorem ndpConfirmReason_eq_iff (code : UInt32) :
    ndpConfirmReason code = translatedStatus code ↔ code ∈ commonCodes := by
  by_cases hrow : ∃ row ∈ errorCodeTranslation, row.firmwareError = code
  · obtain ⟨row, hrow, rfl⟩ := hrow
    rw [translatedStatus_of_mem hrow]
    revert row
    decide +kernel
  · have hnone : errorCodeTranslation.find? (fun row ↦ row.firmwareError = code) = none := by
      apply List.find?_eq_none.mpr
      intro row hmem hcode
      exact hrow ⟨row, hmem, of_decide_eq_true hcode⟩
    have hcodes : commonCodes.all (fun known ↦
        known = nanIStatusTimeout || errorCodeTranslation.any (fun row ↦ row.firmwareError = known)) = true := by
      decide +kernel
    unfold translatedStatus
    rw [hnone]
    change ndpConfirmReason code = nanStatusInternalFailure ↔ _
    apply Iff.intro
    · intro hconfirm
      unfold ndpConfirmReason at hconfirm
      split at hconfirm
      · exact absurd hconfirm (by decide)
      · rw [hconfirm]
        decide
    · intro hcommon
      have htimeout : code = nanIStatusTimeout := by
        rcases Bool.or_eq_true _ _ ▸ List.all_eq_true.mp hcodes code hcommon with htimeout | hknown
        · exact of_decide_eq_true htimeout
        · obtain ⟨row, hmem, hcode⟩ := List.any_eq_true.mp hknown
          exact absurd ⟨row, hmem, of_decide_eq_true hcode⟩ hrow
      rw [htimeout]
      decide

end Statuses

/-! ## The text for a TLV type -/

section Texts

/-- The name of a TLV type, if it has one. -/
def tlvName (valueRcvd : UInt32) : List UInt8 :=
  ((tlvToStr.find? fun row ↦ row.tlvType = valueRcvd.toNat).map fun row ↦ Foundation.bytesOf row.strTlv).getD []

/-- Every response to a TLV type that is refused has the text of the table and the name of the type. -/
def NamesTlv (valueRcvd : UInt32) : Prop :=
  ∀ event is_ndp_rsp report, is_ndp_rsp = true ∨ isNanResponse event = true →
    report.nan_error.Within nanErrorStrLen →
      (nanErrorTranslation event nanIStatusInvalidTlvType valueRcvd is_ndp_rsp report).nan_error.HoldsText 0
          nanErrorStrLen (Foundation.bytesOf "Invalid TLV type" ++ tlvName valueRcvd) ∧
        (nanErrorTranslation event nanIStatusInvalidTlvType valueRcvd is_ndp_rsp
          report).nan_error.Within nanErrorStrLen

/-- What is appended instead. -/
def appendedName (valueRcvd : UInt32) : List UInt8 :=
  if tlvToStr.any (fun row ↦ row.tlvType = valueRcvd.toNat) then Foundation.bytesOf " 2.4G support" else []

theorem bytesOf_ofList (chars : List Char) :
    Foundation.bytesOf (String.ofList chars) = chars.map fun char ↦ char.toNat.toUInt8 := by
  unfold Foundation.bytesOf
  rw [String.toList_ofList]

def supportChars : List Char := [' ', '2', '.', '4', 'G', ' ', 's', 'u', 'p', 'p', 'o', 'r', 't']

theorem bytesOf_support :
    Foundation.bytesOf " 2.4G support" = supportChars.map fun char ↦ char.toNat.toUInt8 :=
  bytesOf_ofList supportChars

theorem bytesOf_invalidTlvType :
    Foundation.bytesOf "Invalid TLV type" =
      [73, 110, 118, 97, 108, 105, 100, 32, 84, 76, 86, 32, 116, 121, 112, 101] :=
  bytesOf_ofList ['I', 'n', 'v', 'a', 'l', 'i', 'd', ' ', 'T', 'L', 'V', ' ', 't', 'y', 'p', 'e']

theorem translateResponse_invalidTlvType (valueRcvd : UInt32) (report : ErrorReport) :
    (translateResponse nanIStatusInvalidTlvType valueRcvd report).nan_error =
      (report.nan_error.strlcpy 0 (Foundation.bytesOf "Invalid TLV type") nanErrorStrLen).strlcat 0
        (appendedName valueRcvd) nanErrorStrLen := by
  have hindex : errorCodeTranslation.findIdx (fun row ↦ row.firmwareError = nanIStatusInvalidTlvType) = 11 := by
    decide +kernel
  have hinfo : tlvInfo nanIStatusInvalidTlvType valueRcvd 11 = appendedName valueRcvd := by
    unfold tlvInfo appendedName
    apply if_congr
    · exact and_iff_right rfl
    · decide +kernel
    · rfl
  unfold translateResponse
  dsimp only
  rw [hindex, hinfo]
  rfl

theorem nul_not_mem_appendedName (valueRcvd : UInt32) : 0 ∉ appendedName valueRcvd := by
  unfold appendedName
  split
  · rw [bytesOf_support]
    decide
  · exact List.not_mem_nil

theorem length_appendedName_le (valueRcvd : UInt32) : (appendedName valueRcvd).length ≤ 13 := by
  unfold appendedName
  split
  · rw [bytesOf_support]
    decide
  · exact Nat.zero_le 13

theorem translateResponse_holdsText (valueRcvd : UInt32) (report : ErrorReport) :
    (translateResponse nanIStatusInvalidTlvType valueRcvd report).nan_error.HoldsText 0 nanErrorStrLen
      (Foundation.bytesOf "Invalid TLV type" ++ appendedName valueRcvd) := by
  have hlength := length_appendedName_le valueRcvd
  rw [translateResponse_invalidTlvType, bytesOf_invalidTlvType]
  apply Buffer.HoldsText.strlcat
  · exact Buffer.holdsText_strlcpy report.nan_error 0 (by decide)
  · decide
  · rw [List.length_append]
    change 16 + _ < 255
    omega

/-- What is asked of the bytes of a name is read off its characters. -/
theorem chars_tlvToStr : ∀ row ∈ tlvToStr, ∃ chars, row.strTlv = String.ofList chars ∧
    (chars.map fun char ↦ char.toNat.toUInt8).all (· != 0) = true ∧
    ((chars.map fun char ↦ char.toNat.toUInt8) = supportChars.map (fun char ↦ char.toNat.toUInt8) →
      row.tlvType = 4096) := by
  unfold tlvToStr
  simp only [List.forall_mem_cons]
  repeat' apply And.intro
  all_goals first
    | exact fun row hrow ↦ absurd hrow List.not_mem_nil
    | exact ⟨_, rfl, by decide⟩

/-- No row before another one with its number has the name that is appended. -/
theorem tlvName_ne {valueRcvd : UInt32} (hknown : ∃ row ∈ tlvToStr, row.tlvType = valueRcvd.toNat) :
    tlvName valueRcvd ≠ Foundation.bytesOf " 2.4G support" := by
  have hrows : ∀ row ∈ tlvToStr, Foundation.bytesOf row.strTlv = Foundation.bytesOf " 2.4G support" →
      row.tlvType = 4096 := by
    intro row hrow hname
    obtain ⟨chars, hchars, -, hfirst⟩ := chars_tlvToStr row hrow
    rw [hchars, bytesOf_ofList, bytesOf_support] at hname
    exact hfirst hname
  have hfirst : (tlvToStr.find? fun row ↦ row.tlvType = 4096) = some ⟨4096, " Config first"⟩ := by
    decide +kernel
  have hdistinct : Foundation.bytesOf " Config first" ≠ Foundation.bytesOf " 2.4G support" := by
    decide +kernel
  unfold tlvName
  cases hfind : tlvToStr.find? fun row ↦ row.tlvType = valueRcvd.toNat with
  | none =>
    apply Exists.elim hknown
    exact fun row hrow ↦ absurd (decide_eq_true hrow.2) (List.find?_eq_none.mp hfind row hrow.1)
  | some row =>
    intro hname
    have hrow := hrows row (List.mem_of_find?_eq_some hfind) hname
    have htype := List.find?_some hfind
    simp only [decide_eq_true_eq] at htype
    rw [← htype, hrow, hfirst, Option.some_inj] at hfind
    rw [← hfind] at hname
    exact hdistinct hname

theorem nul_not_mem_tlvName (valueRcvd : UInt32) : 0 ∉ tlvName valueRcvd := by
  have hrows : ∀ row ∈ tlvToStr, 0 ∉ Foundation.bytesOf row.strTlv := by
    intro row hrow hnul
    obtain ⟨chars, hchars, hall, -⟩ := chars_tlvToStr row hrow
    rw [hchars, bytesOf_ofList] at hnul
    exact absurd (List.all_eq_true.mp hall 0 hnul) (by decide)
  unfold tlvName
  cases hfind : tlvToStr.find? fun row ↦ row.tlvType = valueRcvd.toNat with
  | none => exact List.not_mem_nil
  | some row => exact hrows row (List.mem_of_find?_eq_some hfind)

/-- The type is named if and only if the text ends with what is appended. -/
theorem namesTlv_iff_eq (valueRcvd : UInt32) : NamesTlv valueRcvd ↔ tlvName valueRcvd = appendedName valueRcvd := by
  have hresponse : ∀ event is_ndp_rsp report, is_ndp_rsp = true ∨ isNanResponse event = true →
      nanErrorTranslation event nanIStatusInvalidTlvType valueRcvd is_ndp_rsp report =
        translateResponse nanIStatusInvalidTlvType valueRcvd report := by
    intro event is_ndp_rsp report hkind
    exact if_pos hkind
  have hnul : 0 ∉ Foundation.bytesOf "Invalid TLV type" := by
    rw [bytesOf_invalidTlvType]
    decide
  apply Iff.intro
  · intro hnames
    have hfresh : Buffer.Within ⟨fun _ ↦ 0, []⟩ nanErrorStrLen := fun write hnil ↦ absurd hnil List.not_mem_nil
    have htext := (hnames ⟨fun _ ↦ 0, 0⟩ true ⟨0, ⟨fun _ ↦ 0, []⟩⟩ (Or.inl rfl) hfresh).1
    rw [hresponse _ _ _ (Or.inl rfl)] at htext
    apply List.append_cancel_left
    apply htext.inj (translateResponse_holdsText valueRcvd _)
    · rw [List.mem_append, not_or]
      exact ⟨hnul, nul_not_mem_tlvName valueRcvd⟩
    · rw [List.mem_append, not_or]
      exact ⟨hnul, nul_not_mem_appendedName valueRcvd⟩
  · intro hsame event is_ndp_rsp report hkind hwithin
    rw [hresponse _ _ _ hkind, hsame]
    apply And.intro (translateResponse_holdsText valueRcvd report)
    rw [translateResponse_invalidTlvType]
    apply Buffer.within_strlcat (by decide)
    exact Buffer.within_snprintf (by decide) hwithin

theorem namesTlv_iff (valueRcvd : UInt32) :
    NamesTlv valueRcvd ↔ ∀ row ∈ tlvToStr, row.tlvType ≠ valueRcvd.toNat := by
  rw [namesTlv_iff_eq]
  by_cases hknown : ∃ row ∈ tlvToStr, row.tlvType = valueRcvd.toNat
  · have happended : appendedName valueRcvd = Foundation.bytesOf " 2.4G support" := by
      apply if_pos
      rw [List.any_eq_true]
      apply Exists.elim hknown
      exact fun row hrow ↦ ⟨row, hrow.1, decide_eq_true hrow.2⟩
    rw [happended]
    apply iff_of_false (tlvName_ne hknown)
    intro hnone
    apply Exists.elim hknown
    exact fun row hrow ↦ hnone row hrow.1 hrow.2
  · have hnone : ∀ row ∈ tlvToStr, row.tlvType ≠ valueRcvd.toNat := fun row hrow htype ↦ hknown ⟨row, hrow, htype⟩
    apply iff_of_true _ hnone
    have hfind : tlvToStr.find? (fun row ↦ row.tlvType = valueRcvd.toNat) = none := by
      apply List.find?_eq_none.mpr
      exact fun row hrow htype ↦ hnone row hrow (of_decide_eq_true htype)
    have hany : ¬ tlvToStr.any (fun row ↦ row.tlvType = valueRcvd.toNat) = true := by
      rw [List.any_eq_true]
      rintro ⟨row, hrow, htype⟩
      exact hnone row hrow (of_decide_eq_true htype)
    unfold tlvName appendedName
    rw [hfind, if_neg hany]
    rfl

/-- Every message translates a code alike. The confirmation of a data path agrees for six codes only, and
a TLV type is named only if it has no name. -/
theorem errorTranslation_iff (code valueRcvd : UInt32) :
    (∃ status, TranslatesTo code status) ∧
      (TranslatesTo code (ndpConfirmReason code) ↔ code ∈ commonCodes) ∧
      (NamesTlv valueRcvd ↔ ∀ row ∈ tlvToStr, row.tlvType ≠ valueRcvd.toNat) := by
  refine ⟨⟨_, translatesTo_translatedStatus code⟩, ?_, namesTlv_iff valueRcvd⟩
  rw [← ndpConfirmReason_eq_iff]
  apply Iff.intro
  · exact TranslatesTo.eq_translatedStatus
  · intro hsame
    rw [hsame]
    exact translatesTo_translatedStatus code

/-- A transmit match filter that is refused is reported as 2.4G support. -/
theorem errorTranslation_differs :
    ¬ ((∀ code, ∃ status, TranslatesTo code status ∧ ndpConfirmReason code = status) ∧
        ∀ valueRcvd, NamesTlv valueRcvd) := by
  intro hclaim
  have hnone := (namesTlv_iff 2).mp (hclaim.2 2)
  exact hnone ⟨nanTlvTypeTxMatchFilter, " Tx match filter"⟩ (by decide) rfl

end Texts

end HardwareMediatek.Wifi
