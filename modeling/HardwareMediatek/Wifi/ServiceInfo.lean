import HardwareMediatek.Wifi.CommonParameters
import HardwareMediatek.Wifi.NanEventBounds
import Mathlib.Data.List.TakeDrop

/-!
# Service specific information

Three requests carry information of a service in a TLV, and two events report it. Each event keeps the last
such TLV, cut to a limit of its own: that of a match event is the length of a service name.
-/

namespace HardwareMediatek.Wifi

open Foundation

section Decoders

/-- `service_specific_info_len` and the array `service_specific_info` of an event. -/
structure ServiceInfo where
  service_specific_info_len : ℕ
  service_specific_info : Bytes

/-- The event starts out as zeros. -/
def ServiceInfo.zero : ServiceInfo := ⟨0, fun _ ↦ 0⟩

/-- A value is cut to the limit, and copied over the front of the array. -/
def ServiceInfo.copy (event : ServiceInfo) (limit : ℕ) (value : List UInt8) : ServiceInfo where
  service_specific_info_len := min value.length limit
  service_specific_info i := (value.take limit).getD i (event.service_specific_info i)

/-- What a `switch` does that copies the values of the types. -/
def ServiceInfo.onTlv (types : List ℕ) (limit : ℕ) (event : ServiceInfo) (outputTlv : TlvEntry) : ServiceInfo :=
  if outputTlv.type ∈ types then event.copy limit outputTlv.value else event

/-- The TLV at a place. -/
def tlvAt (bytes : Bytes) (pInputTlv : ℕ) : TlvEntry :=
  let outputTlv := nantlvReadTlv bytes pInputTlv
  ⟨outputTlv.type, bytesAt (fun i ↦ bytes (outputTlv.value + i)) outputTlv.length⟩

/-- The loop of a decoder, for this field. -/
def serviceInfoLoop (types : List ℕ) (limit : ℕ) (bytes : Bytes) : RecordLoop ServiceInfo where
  size pos := (nantlvReadTlv bytes pos).readLen
  peek _ event := event
  body pos event := event.onTlv types limit (tlvAt bytes pos)

def matchInfoTypes : List ℕ := [nanTlvTypeServiceSpecificInfo]

def followupInfoTypes : List ℕ := [nanTlvTypeServiceSpecificInfo, nanTlvTypeExtServiceSpecificInfo]

variable (sizes : FrameworkSizes) (event : NanEvent)

/-- The information of a match event. The limit is that of a service name. -/
def NanEvent.matchInfo : ServiceInfo :=
  (serviceInfoLoop matchInfoTypes sizes.nanMaxServiceNameLen event.bytes).run 16
    (event.remainingLen (sizeofNanMsgHeader + sizeofNanMatchIndParams)) ServiceInfo.zero

/-- The information of a followup event. Extended information goes to the same field. -/
def NanEvent.followupInfo : ServiceInfo :=
  (serviceInfoLoop followupInfoTypes sizes.nanMaxServiceSpecificInfoLen event.bytes).run 16
    (event.remainingLen (sizeofNanMsgHeader + sizeofNanFollowupIndParams)) ServiceInfo.zero

/-- The event has these TLVs behind its parameters, and nothing else. -/
structure NanEvent.Carries (tlvs : List TlvEntry) : Prop where
  fits : ∀ tlv ∈ tlvs, tlv.Fits
  holds : Holds event.bytes 16 (encodeTlvs tlvs)
  length : event.mNanDataLen = 16 + (encodeTlvs tlvs).length

/-- The information is reported with its length. -/
structure ServiceInfo.Reports (event : ServiceInfo) (info : List UInt8) : Prop where
  length : event.service_specific_info_len = info.length
  bytes : bytesAt event.service_specific_info event.service_specific_info_len = info

end Decoders

/-! ## What is reported -/

section Reports

variable {types : List ℕ} {limit : ℕ}

theorem readTlvs_eq_map (bytes : Bytes) (pInputTlv : ℕ) (remainingLen : ℤ) :
    readTlvs bytes pInputTlv remainingLen =
      (RecordLoop.positions (fun pos ↦ (nantlvReadTlv bytes pos).readLen) pInputTlv remainingLen).map
        (tlvAt bytes) := by
  calc
    _ = (RecordLoop.positions (tlvReader bytes).size pInputTlv remainingLen).foldl
          (fun entries pos ↦ (tlvReader bytes).body pos entries) [] :=
      RecordLoop.run_eq_foldl (tlvReader bytes) (fun _ _ ↦ rfl) pInputTlv remainingLen []
    _ = [] ++ ((RecordLoop.positions (fun pos ↦ (nantlvReadTlv bytes pos).readLen) pInputTlv
          remainingLen).map fun pos ↦ [tlvAt bytes pos]).flatten :=
      List.foldl_append_eq_append
    _ = _ := by rw [List.nil_append, ← List.flatMap_def, ← List.map_eq_flatMap]

/-- The loop handles the TLVs one after the other. -/
theorem run_serviceInfoLoop (bytes : Bytes) (pInputTlv : ℕ) (remainingLen : ℤ) (event : ServiceInfo) :
    (serviceInfoLoop types limit bytes).run pInputTlv remainingLen event =
      (readTlvs bytes pInputTlv remainingLen).foldl (ServiceInfo.onTlv types limit) event := by
  rw [readTlvs_eq_map, List.foldl_map]
  exact RecordLoop.run_eq_foldl (serviceInfoLoop types limit bytes) (fun _ _ ↦ rfl) pInputTlv remainingLen event

theorem ServiceInfo.reports_copy (event : ServiceInfo) (value info : List UInt8) :
    (event.copy limit value).Reports info ↔ value.take limit = info := by
  have hbytes : bytesAt (event.copy limit value).service_specific_info
      (event.copy limit value).service_specific_info_len = value.take limit := by
    apply List.ext_getElem
    · rw [length_bytesAt, List.length_take, Nat.min_comm]
      rfl
    · intro i hi hi'
      simp only [bytesAt, List.getElem_map, List.getElem_range]
      exact List.getD_eq_getElem _ _ hi'
  apply Iff.intro
  · intro hreports
    rw [← hbytes]
    exact hreports.bytes
  · intro htake
    apply ServiceInfo.Reports.mk
    · rw [← htake, List.length_take, Nat.min_comm]
      rfl
    · rw [hbytes, htake]

/-- The value of the last TLV of the types. -/
def lastInfo (types : List ℕ) (tlvs : List TlvEntry) : Option (List UInt8) :=
  ((tlvs.filter fun tlv ↦ tlv.type ∈ types).getLast?).map TlvEntry.value

theorem lastInfo_append (left right : List TlvEntry) :
    lastInfo types (left ++ right) = (lastInfo types right).or (lastInfo types left) := by
  unfold lastInfo
  rw [List.filter_append, List.getLast?_append, Option.map_or]

theorem lastInfo_singleton (tlv : TlvEntry) :
    lastInfo types [tlv] = if tlv.type ∈ types then some tlv.value else none := by
  unfold lastInfo
  by_cases htype : tlv.type ∈ types
  · rw [if_pos htype, List.filter_singleton]
    simp [htype]
  · rw [if_neg htype, List.filter_singleton]
    simp [htype]

/-- The last TLV of the types, cut to the limit, is what is reported. -/
theorem reports_foldl_iff (event : ServiceInfo) (info : List UInt8) (tlvs : List TlvEntry) :
    (tlvs.foldl (ServiceInfo.onTlv types limit) event).Reports info ↔
      match lastInfo types tlvs with
      | some value => value.take limit = info
      | none => event.Reports info := by
  induction tlvs using List.reverseRecOn with
  | nil => rfl
  | append_singleton tlvs tlv ih =>
    rw [List.foldl_concat, lastInfo_append, lastInfo_singleton]
    unfold ServiceInfo.onTlv
    by_cases htype : tlv.type ∈ types
    · rw [if_pos htype, if_pos htype]
      exact ServiceInfo.reports_copy _ tlv.value info
    · rw [if_neg htype, if_neg htype]
      exact ih

/-- With information among the TLVs, it is reported unless it is too long or another one follows. -/
theorem reports_among_iff (event : ServiceInfo) {type : ℕ} (htype : type ∈ types) (info : List UInt8)
    (before after : List TlvEntry) :
    ((before ++ ⟨type, info⟩ :: after).foldl (ServiceInfo.onTlv types limit) event).Reports info ↔
      info.length ≤ limit ∧ ∀ later ∈ lastInfo types after, later.take limit = info := by
  have hlast : lastInfo types (before ++ ⟨type, info⟩ :: after) = (lastInfo types after).or (some info) := by
    rw [← List.singleton_append, lastInfo_append, lastInfo_append, lastInfo_singleton, if_pos htype]
    cases lastInfo types after with
    | none => rfl
    | some later => rfl
  rw [reports_foldl_iff, hlast]
  cases lastInfo types after with
  | none =>
    simp
  | some later =>
    simp only [Option.some_or, Option.mem_some_iff, forall_eq']
    rw [iff_and_self]
    intro htake
    rw [← htake]
    exact List.length_take_le limit later

theorem run_of_carries (types : List ℕ) (limit : ℕ) {event : NanEvent} {tlvs : List TlvEntry}
    (hcarries : event.Carries tlvs) :
    (serviceInfoLoop types limit event.bytes).run 16 (event.remainingLen 16) ServiceInfo.zero =
      tlvs.foldl (ServiceInfo.onTlv types limit) ServiceInfo.zero := by
  have hremaining : event.remainingLen 16 = (encodeTlvs tlvs).length := by
    unfold NanEvent.remainingLen
    rw [hcarries.length]
    omega
  rw [run_serviceInfoLoop, hremaining, readTlvs_of_holds hcarries.fits hcarries.holds]

theorem matchInfo_reports_iff (sizes : FrameworkSizes) {event : NanEvent} {info : List UInt8}
    (before after : List TlvEntry)
    (hcarries : event.Carries (before ++ ⟨nanTlvTypeServiceSpecificInfo, info⟩ :: after)) :
    (event.matchInfo sizes).Reports info ↔
      info.length ≤ sizes.nanMaxServiceNameLen ∧
        ∀ later ∈ lastInfo matchInfoTypes after, later.take sizes.nanMaxServiceNameLen = info := by
  have hrun := run_of_carries matchInfoTypes sizes.nanMaxServiceNameLen hcarries
  unfold NanEvent.matchInfo sizeofNanMsgHeader sizeofNanMatchIndParams
  rw [hrun]
  exact reports_among_iff ServiceInfo.zero (List.mem_singleton_self _) info before after

theorem followupInfo_reports_iff (sizes : FrameworkSizes) {event : NanEvent} {info : List UInt8}
    (before after : List TlvEntry)
    (hcarries : event.Carries (before ++ ⟨nanTlvTypeServiceSpecificInfo, info⟩ :: after)) :
    (event.followupInfo sizes).Reports info ↔
      info.length ≤ sizes.nanMaxServiceSpecificInfoLen ∧
        ∀ later ∈ lastInfo followupInfoTypes after, later.take sizes.nanMaxServiceSpecificInfoLen = info := by
  have hrun := run_of_carries followupInfoTypes sizes.nanMaxServiceSpecificInfoLen hcarries
  unfold NanEvent.followupInfo sizeofNanMsgHeader sizeofNanFollowupIndParams
  rw [hrun]
  exact reports_among_iff ServiceInfo.zero List.mem_cons_self info before after

/-- Both events report the information if and only if it is no longer than a service name, and what
follows of its kind is the same. -/
theorem serviceSpecificInfo_iff (sizes : FrameworkSizes) (matched followup : NanEvent) (info : List UInt8)
    (before after : List TlvEntry) (hlength : info.length ≤ sizes.nanMaxServiceSpecificInfoLen)
    (hmatched : matched.Carries (before ++ ⟨nanTlvTypeServiceSpecificInfo, info⟩ :: after))
    (hfollowup : followup.Carries (before ++ ⟨nanTlvTypeServiceSpecificInfo, info⟩ :: after)) :
    (matched.matchInfo sizes).Reports info ∧ (followup.followupInfo sizes).Reports info ↔
      info.length ≤ sizes.nanMaxServiceNameLen ∧
        (∀ later ∈ lastInfo matchInfoTypes after, later.take sizes.nanMaxServiceNameLen = info) ∧
        ∀ later ∈ lastInfo followupInfoTypes after, later.take sizes.nanMaxServiceSpecificInfoLen = info := by
  rw [matchInfo_reports_iff sizes before after hmatched,
    followupInfo_reports_iff sizes before after hfollowup, and_assoc]
  apply and_congr_right
  intro _
  apply and_congr_right
  intro _
  exact and_iff_right hlength

/-- An event with these TLVs, and zeros before them. -/
def NanEvent.ofTlvs (tlvs : List TlvEntry) : NanEvent where
  bytes pos := (encodeTlvs tlvs).getD (pos - 16) 0
  mNanDataLen := 16 + (encodeTlvs tlvs).length

theorem carries_ofTlvs {tlvs : List TlvEntry} (hfits : ∀ tlv ∈ tlvs, tlv.Fits) :
    (NanEvent.ofTlvs tlvs).Carries tlvs := by
  apply NanEvent.Carries.mk hfits
  · intro k hk
    change (encodeTlvs tlvs).getD (16 + k - 16) 0 = _
    rw [Nat.add_sub_cancel_left]
    exact List.getD_eq_getElem _ _ hk
  · rfl

/-- A match filter, the information, an address and a signal strength. -/
def infoAmongTlvs : List TlvEntry :=
  [⟨nanTlvTypeSdfMatchFilter, [2, 0x51, 0x52]⟩, ⟨nanTlvTypeServiceSpecificInfo, [0xca, 0xfe, 0x07]⟩,
    ⟨nanTlvTypeMacAddress, [2, 0, 0, 0, 0, 1]⟩, ⟨nanTlvTypeReceivedRssiValue, [0xc4]⟩]

theorem serviceSpecificInfo_iff_among :
    ((NanEvent.ofTlvs infoAmongTlvs).matchInfo frameworkSizes).Reports [0xca, 0xfe, 0x07] ∧
      ((NanEvent.ofTlvs infoAmongTlvs).followupInfo frameworkSizes).Reports [0xca, 0xfe, 0x07] := by
  have hfits : ∀ tlv ∈ infoAmongTlvs, tlv.Fits := by
    have hsmall : ∀ tlv ∈ infoAmongTlvs, tlv.type < 65536 ∧ sizeofTlvHdr + tlv.value.length < 65536 := by
      decide
    exact fun tlv htlv ↦ ⟨(hsmall tlv htlv).1, (hsmall tlv htlv).2⟩
  have hcarries := carries_ofTlvs hfits
  apply (serviceSpecificInfo_iff frameworkSizes _ _ [0xca, 0xfe, 0x07] (infoAmongTlvs.take 1)
    (infoAmongTlvs.drop 2) (by decide) hcarries hcarries).mpr
  have hmatched : lastInfo matchInfoTypes (infoAmongTlvs.drop 2) = none := by decide
  have hfollowup : lastInfo followupInfoTypes (infoAmongTlvs.drop 2) = none := by decide
  rw [hmatched, hfollowup]
  exact ⟨by decide, fun _ hlater ↦ absurd hlater (Option.not_mem_none _),
    fun _ hlater ↦ absurd hlater (Option.not_mem_none _)⟩

/-- 256 bytes are cut to 255 in a match event. -/
theorem serviceSpecificInfo_cut :
    ¬ ∀ (event : NanEvent) (info : List UInt8) (before after : List TlvEntry),
        info.length ≤ frameworkSizes.nanMaxServiceSpecificInfoLen →
        event.Carries (before ++ ⟨nanTlvTypeServiceSpecificInfo, info⟩ :: after) →
          (event.matchInfo frameworkSizes).Reports info ∧ (event.followupInfo frameworkSizes).Reports info := by
  intro hclaim
  have hlength : (List.replicate 256 (0 : UInt8)).length = 256 := List.length_replicate
  have hfits : ∀ tlv ∈ [TlvEntry.mk nanTlvTypeServiceSpecificInfo (List.replicate 256 0)], tlv.Fits := by
    intro tlv htlv
    rw [List.mem_singleton.mp htlv]
    apply TlvEntry.Fits.mk
    · decide
    · rw [hlength]
      decide
  have hcarries := carries_ofTlvs hfits
  have hreports := (hclaim _ (List.replicate 256 0) [] [] (by rw [hlength]; decide) hcarries).1
  rw [matchInfo_reports_iff frameworkSizes [] [] hcarries, hlength] at hreports
  exact absurd hreports.1 (by decide)

end Reports

end HardwareMediatek.Wifi
