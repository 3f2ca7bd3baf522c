import HardwareMediatek.Wifi.NanEvents

/-!
# NAN events and the bytes they have

When the decoders of NAN events stay inside the event. None of them compares a length with what is
left before it reads, so each stays inside exactly when the event has the fixed part that is read and
when every TLV that its loop reaches has a header, and as much of its value as is used, inside.
-/

namespace HardwareMediatek.Wifi

open Foundation

def Decoding.Inside (decoding : Decoding) (limit : ℕ) : Prop :=
  ∀ read ∈ decoding.reads, read.region.EndsBy limit

/-- No loop over TLVs in these bytes goes on for ever, wherever it starts. -/
def TlvLoopsEnd (bytes : Bytes) : Prop :=
  WellFounded fun after before : LoopPoint ℕ ↦
    RecordLoop.Round (fun pos ↦ (nantlvReadTlv bytes pos).readLen) (fun _ count ↦ count) before after

/-- The decoding of an event ends and reads only bytes of the event. -/
structure NanEvent.DecodedInside (event : NanEvent) (sizes : FrameworkSizes) : Prop where
  loopsEnd : TlvLoopsEnd event.bytes
  inside : (handleNanEvent sizes event).Inside event.mNanDataLen

section Uses

variable (sizes : FrameworkSizes)

/-- The first `used` bytes of the value are inside. -/
def NanTlv.UsesInside (tlv : NanTlv) (used limit : ℕ) : Prop :=
  used = 0 ∨ tlv.value + used ≤ limit

/-- Every TLV that the loop reaches has its header inside, and its value as far as it is used. -/
def TlvsInside (bytes : Bytes) (limit : ℕ) (use : NanTlv → ℕ → Prop) (next : NanTlv → ℕ → ℕ)
    (pos : ℕ) (remaining : ℤ) (count : ℕ) : Prop :=
  ∀ point : LoopPoint ℕ,
    RecordLoop.Reaches (fun pos ↦ (nantlvReadTlv bytes pos).readLen)
      (fun pos ↦ next (nantlvReadTlv bytes pos)) ⟨pos, remaining, count⟩ point →
    0 < point.remaining →
      point.pos + sizeofTlvHdr ≤ limit ∧
        ((nantlvReadTlv bytes point.pos).readLen ≠ 0 →
          use (nantlvReadTlv bytes point.pos) point.count)

/-- The same for a decoder that uses bytes of each value by its type and length alone. -/
def ValuesInside (bytes : Bytes) (limit : ℕ) (used : NanTlv → ℕ) (pos : ℕ) (remaining : ℤ)
    (count : ℕ) : Prop :=
  TlvsInside bytes limit (fun tlv _ ↦ tlv.UsesInside (used tlv) limit) (fun _ count ↦ count) pos
    remaining count

/-- As much of a value as is copied. -/
def copiedLength (copies : List TlvCopy) (tlv : NanTlv) : ℕ :=
  match copies.find? fun copy ↦ copy.type = tlv.type with
  | some copy => min tlv.length copy.capacity
  | none => 0

def furtherAvailabilityUse (bytes : Bytes) (tlv : NanTlv) : ℕ :=
  if tlv.length = 0 then 0
  else 1 + famChannels sizes bytes tlv * sizeofNanFurtherAvailabilityChan

def matchUse (bytes : Bytes) (tlv : NanTlv) : ℕ :=
  if tlv.type = nanTlvTypePostNanConnectivityCapabilitiesReceive then
    if tlv.length ≠ 4 then 0 else 1
  else if tlv.type = nanTlvTypeFurtherAvailabilityMap then furtherAvailabilityUse sizes bytes tlv
  else if tlv.type = nanTlvTypeSdeaCtrlParams then if tlv.length ≠ 4 then 0 else 1
  else copiedLength (matchCopies sizes) tlv

/-- Of the discovery attributes of a match, only the first few that are accepted are read. -/
def MatchUseInside (bytes : Bytes) (limit : ℕ) (tlv : NanTlv) (count : ℕ) : Prop :=
  if tlv.type = nanTlvTypePostNanDiscoveryAttributeReceive then
    count < sizes.nanMaxPostdiscoveryLen → postDiscoveryAccepted tlv = true →
      tlv.value + 8 ≤ limit ∧
        ValuesInside bytes limit (copiedLength (postDiscoveryCopies sizes)) (tlv.value + 8)
          (tlv.length - 8 : ℤ) count
  else tlv.UsesInside (matchUse sizes bytes tlv) limit

def nextDiscoveryAttr (tlv : NanTlv) (count : ℕ) : ℕ :=
  if tlv.type = nanTlvTypePostNanDiscoveryAttributeReceive ∧
      count < sizes.nanMaxPostdiscoveryLen ∧ postDiscoveryAccepted tlv = true then count + 1
  else count

def tcaUse (tlv : NanTlv) : ℕ :=
  if tlv.type = nanTlvTypeClusterSizeRsp ∧ tlv.length = 8 then 8 else 0

def beaconSdfUse (tlv : NanTlv) : ℕ :=
  if tlv.type = nanTlvTypeVendorSpecificAttributeReceive then
    if tlv.length < 4 then 0 else 4 + min (tlv.length - 4) sizes.nanMaxVsaDataLen
  else copiedLength (beaconSdfCopies sizes) tlv

end Uses

section Conditions

variable (event : NanEvent) (sizes : FrameworkSizes)

/-- How many bytes the decoder of the message reads before any TLV. -/
def NanEvent.fixedPart : ℕ :=
  if isNanResponse event then
    if event.msgId ∈ statusValueIds ∨ event.msgId ∈ statusValueHandleIds then 12
    else if event.msgId ∈ statusIds then 10
    else if event.msgId = nanMsgIdStatsRsp then 13
    else if event.msgId = nanMsgIdCapabilitiesRsp then 8 + 4 * capabilitiesWords
    else 2
  else
    match getIndicationType event with
    | .publishReplied => 12
    | .publishTerminated => 10
    | .matched => 16
    | .matchExpired => 12
    | .subscribeTerminated => 10
    | .followup => 16
    | .disabled => 10
    | .selfTransmitFollowup => 12
    | _ => 2

/-- The statistics TLV, when there are bytes for one, has its header inside, and the statistics if its
length is the one expected. -/
def NanEvent.StatsInside : Prop :=
  14 < event.mNanDataLen →
    18 ≤ event.mNanDataLen ∧
      ∀ expected fwSize, statsSizes sizes (event.bytes 12).toNat = some (expected, fwSize) →
        expected ≤ sizes.statsResponseData → u16At event.bytes 16 = expected →
          18 + fwSize ≤ event.mNanDataLen

/-- The TLVs of the message are inside as far as its decoder uses them. -/
def NanEvent.TlvsInside : Prop :=
  if isNanResponse event then event.msgId = nanMsgIdStatsRsp → event.StatsInside sizes
  else
    match getIndicationType event with
    | .publishReplied =>
        ValuesInside event.bytes event.mNanDataLen (copiedLength (publishRepliedCopies sizes)) 12
          (event.mNanDataLen - 8 : ℤ) 0
    | .matched =>
        HardwareMediatek.Wifi.TlvsInside event.bytes event.mNanDataLen
          (MatchUseInside sizes event.bytes event.mNanDataLen) (nextDiscoveryAttr sizes) 16
          (event.mNanDataLen - 16 : ℤ) 0
    | .followup =>
        ValuesInside event.bytes event.mNanDataLen (copiedLength (followupCopies sizes)) 16
          (event.mNanDataLen - 16 : ℤ) 0
    | .deEvent =>
        ValuesInside event.bytes event.mNanDataLen (copiedLength discEngCopies) 8
          (event.mNanDataLen - 8 : ℤ) 0
    | .tca => ValuesInside event.bytes event.mNanDataLen tcaUse 8 (event.mNanDataLen - 8 : ℤ) 0
    | .beaconSdfPayload =>
        ValuesInside event.bytes event.mNanDataLen (beaconSdfUse sizes) 8
          (event.mNanDataLen - 8 : ℤ) 0
    | .rangingRequestReceived =>
        ValuesInside event.bytes event.mNanDataLen (copiedLength rangeRequestCopies) 8
          (event.mNanDataLen - 8 : ℤ) 0
    | .rangingResult =>
        ValuesInside event.bytes event.mNanDataLen (copiedLength rangeReportCopies) 8
          (event.mNanDataLen - 8 : ℤ) 0
    | _ => True

end Conditions

section Reading

variable {decoding : Decoding} {limit : ℕ} {bytes : Bytes} {tlv : NanTlv}

@[simp]
theorem num_read (field : NanField) (start size : ℕ) :
    (decoding.read field start size).num_rx_discovery_attr = decoding.num_rx_discovery_attr := rfl

theorem inside_read (field : NanField) (start size : ℕ) :
    (decoding.read field start size).Inside limit ↔
      decoding.Inside limit ∧ (size = 0 ∨ start + size ≤ limit) := by
  unfold Decoding.Inside Decoding.read Region.EndsBy
  rw [List.forall_mem_append, List.forall_mem_singleton]

theorem inside_copyUpTo (field : NanField) (capacity : ℕ) :
    (decoding.copyUpTo field tlv capacity).Inside limit ↔
      decoding.Inside limit ∧ tlv.UsesInside (min tlv.length capacity) limit :=
  inside_read field tlv.value (min tlv.length capacity)

theorem inside_copyUpTo_zero : decoding.Inside limit ↔
    decoding.Inside limit ∧ tlv.UsesInside 0 limit :=
  ⟨fun h ↦ ⟨h, Or.inl rfl⟩, And.left⟩

/-- What a decoder does for one TLV decides what its loop needs. -/
theorem tlvLoop_inside_iff {onTlv : NanTlv → Decoding → Decoding} {use : NanTlv → ℕ → Prop}
    (next : NanTlv → ℕ → ℕ)
    (huse : ∀ tlv decoding, (onTlv tlv decoding).Inside limit ↔
      decoding.Inside limit ∧ use tlv decoding.num_rx_discovery_attr)
    (hnext : ∀ tlv decoding, (onTlv tlv decoding).num_rx_discovery_attr =
      next tlv decoding.num_rx_discovery_attr)
    (pos : ℕ) (remaining : ℤ) :
    ((tlvLoop bytes onTlv).run pos remaining decoding).Inside limit ↔
      decoding.Inside limit ∧
        TlvsInside bytes limit use next pos remaining decoding.num_rx_discovery_attr := by
  apply RecordLoop.run_keeps_iff (tlvLoop bytes onTlv) (fun decoding ↦ decoding.Inside limit)
    (fun pos ↦ pos + sizeofTlvHdr ≤ limit) (fun pos ↦ use (nantlvReadTlv bytes pos))
    Decoding.num_rx_discovery_attr (fun pos ↦ next (nantlvReadTlv bytes pos))
  · intro pos decoding
    have hnonempty : ¬ sizeofTlvHdr = 0 := by decide
    change (decoding.read .outputTlv pos sizeofTlvHdr).Inside limit ↔ _
    rw [inside_read, or_iff_right hnonempty]
  · intro pos decoding
    exact huse (nantlvReadTlv bytes pos) decoding
  · intro pos decoding
    rfl
  · intro pos decoding
    exact hnext (nantlvReadTlv bytes pos) decoding

/-- A decoder that counts nothing. -/
theorem tlvLoop_valuesInside_iff {onTlv : NanTlv → Decoding → Decoding} {used : NanTlv → ℕ}
    (huse : ∀ tlv decoding, (onTlv tlv decoding).Inside limit ↔
      decoding.Inside limit ∧ tlv.UsesInside (used tlv) limit)
    (hnum : ∀ tlv decoding, (onTlv tlv decoding).num_rx_discovery_attr =
      decoding.num_rx_discovery_attr)
    (pos : ℕ) (remaining : ℤ) :
    ((tlvLoop bytes onTlv).run pos remaining decoding).Inside limit ↔
      decoding.Inside limit ∧
        ValuesInside bytes limit used pos remaining decoding.num_rx_discovery_attr :=
  tlvLoop_inside_iff (fun _ count ↦ count) huse hnum pos remaining

end Reading

section Decoders

variable (sizes : FrameworkSizes) (bytes : Bytes) (limit : ℕ) (tlv : NanTlv) (decoding : Decoding)

theorem copyTlv_inside_iff (copies : List TlvCopy) :
    (copyTlv copies tlv decoding).Inside limit ↔
      decoding.Inside limit ∧ tlv.UsesInside (copiedLength copies tlv) limit := by
  unfold copyTlv copiedLength
  cases copies.find? fun copy ↦ copy.type = tlv.type with
  | some copy => exact inside_copyUpTo copy.field copy.capacity
  | none => exact inside_copyUpTo_zero

theorem copyTlv_num (copies : List TlvCopy) :
    (copyTlv copies tlv decoding).num_rx_discovery_attr = decoding.num_rx_discovery_attr := by
  unfold copyTlv
  cases copies.find? fun copy ↦ copy.type = tlv.type with
  | some copy => rfl
  | none => rfl

/-- The loop of a decoder that does nothing but copy. -/
theorem copyLoop_inside_iff (copies : List TlvCopy) (pos : ℕ) (remaining : ℤ) :
    ((tlvLoop bytes (copyTlv copies)).run pos remaining decoding).Inside limit ↔
      decoding.Inside limit ∧
        ValuesInside bytes limit (copiedLength copies) pos remaining
          decoding.num_rx_discovery_attr :=
  tlvLoop_valuesInside_iff (fun tlv decoding ↦ copyTlv_inside_iff limit tlv decoding copies)
    (fun tlv decoding ↦ copyTlv_num tlv decoding copies) pos remaining

theorem onTcaTlv_inside_iff :
    (onTcaTlv tlv decoding).Inside limit ↔
      decoding.Inside limit ∧ tlv.UsesInside (tcaUse tlv) limit := by
  unfold onTcaTlv tcaUse
  by_cases htype : tlv.type = nanTlvTypeClusterSizeRsp
  · rw [if_pos htype]
    by_cases hlength : tlv.length = 8
    · rw [if_neg (not_not.mpr hlength), if_pos ⟨htype, hlength⟩, inside_read, inside_read,
        and_assoc]
      apply and_congr_right
      intro _
      unfold NanTlv.UsesInside
      omega
    · rw [if_pos hlength, if_neg (fun h ↦ hlength h.2)]
      exact inside_copyUpTo_zero
  · rw [if_neg htype, if_neg (fun h ↦ htype h.1)]
    exact inside_copyUpTo_zero

theorem onTcaTlv_num :
    (onTcaTlv tlv decoding).num_rx_discovery_attr = decoding.num_rx_discovery_attr := by
  unfold onTcaTlv
  split_ifs <;> rfl

theorem onBeaconSdfTlv_inside_iff :
    (onBeaconSdfTlv sizes tlv decoding).Inside limit ↔
      decoding.Inside limit ∧ tlv.UsesInside (beaconSdfUse sizes tlv) limit := by
  unfold onBeaconSdfTlv beaconSdfUse
  split_ifs
  · exact inside_copyUpTo_zero
  · rw [inside_read, inside_read, inside_read, and_assoc, and_assoc]
    apply and_congr_right
    intro _
    unfold NanTlv.UsesInside
    omega
  · exact copyTlv_inside_iff limit tlv decoding (beaconSdfCopies sizes)

theorem onBeaconSdfTlv_num :
    (onBeaconSdfTlv sizes tlv decoding).num_rx_discovery_attr =
      decoding.num_rx_discovery_attr := by
  unfold onBeaconSdfTlv
  split_ifs
  · rfl
  · rfl
  · exact copyTlv_num tlv decoding (beaconSdfCopies sizes)

end Decoders

section Matches

variable (sizes : FrameworkSizes) (bytes : Bytes) (limit : ℕ) (tlv : NanTlv) (decoding : Decoding)

theorem num_foldl_read {α : Type} (entries : List α) (field : NanField) (start size : α → ℕ) :
    (entries.foldl (fun decoding entry ↦ decoding.read field (start entry) (size entry))
      decoding).num_rx_discovery_attr = decoding.num_rx_discovery_attr := by
  induction entries generalizing decoding with
  | nil => rfl
  | cons entry entries ih =>
    rw [List.foldl_cons, ih, num_read]

/-- Entries of one size that follow each other are inside when the last one is. -/
theorem inside_foldl_read_range (count : ℕ) (field : NanField) (start size : ℕ) (hsize : 0 < size) :
    ((List.range count).foldl
        (fun decoding idx ↦ decoding.read field (start + idx * size) size) decoding).Inside limit ↔
      decoding.Inside limit ∧ (count = 0 ∨ start + count * size ≤ limit) := by
  induction count with
  | zero => simp
  | succ count ih =>
    rw [List.range_succ, List.foldl_concat, inside_read, ih,
      and_assoc, Nat.add_mul]
    apply and_congr_right
    intro _
    rcases Nat.eq_zero_or_pos count with hzero | hpos
    · rw [hzero]
      omega
    · omega

theorem getNanFurtherAvailabilityMap_inside_iff :
    (getNanFurtherAvailabilityMap sizes bytes tlv decoding).Inside limit ↔
      decoding.Inside limit ∧ tlv.UsesInside (furtherAvailabilityUse sizes bytes tlv) limit := by
  unfold getNanFurtherAvailabilityMap furtherAvailabilityUse
  by_cases hlength : tlv.length = 0
  · rw [if_pos hlength, if_pos hlength]
    exact inside_copyUpTo_zero
  · rw [if_neg hlength, if_neg hlength,
      inside_foldl_read_range limit _ _ _ _ sizeofNanFurtherAvailabilityChan (by decide),
      inside_read, and_assoc]
    apply and_congr_right
    intro _
    unfold NanTlv.UsesInside sizeofNanFurtherAvailabilityChan
    omega

theorem getNanFurtherAvailabilityMap_num :
    (getNanFurtherAvailabilityMap sizes bytes tlv decoding).num_rx_discovery_attr =
      decoding.num_rx_discovery_attr := by
  unfold getNanFurtherAvailabilityMap
  split_ifs
  · rfl
  · rw [num_foldl_read, num_read]

theorem getNanReceivePostDiscoveryVal_inside_iff :
    (getNanReceivePostDiscoveryVal sizes bytes tlv decoding).Inside limit ↔
      decoding.Inside limit ∧
        (postDiscoveryAccepted tlv = true →
          tlv.value + 8 ≤ limit ∧
            ValuesInside bytes limit (copiedLength (postDiscoveryCopies sizes)) (tlv.value + 8)
              (tlv.length - 8 : ℤ) decoding.num_rx_discovery_attr) := by
  unfold getNanReceivePostDiscoveryVal
  by_cases haccepted : postDiscoveryAccepted tlv = true
  · rw [if_pos haccepted,
      copyLoop_inside_iff, inside_read, inside_read, num_read, num_read, and_assoc, and_assoc]
    apply and_congr_right
    intro _
    constructor
    · rintro ⟨_, hfixed, htlvs⟩ _
      exact ⟨by omega, htlvs⟩
    · intro hall
      have hparts := hall haccepted
      exact ⟨by omega, by omega, hparts.2⟩
  · rw [if_neg haccepted, iff_self_and]
    exact fun _ h ↦ absurd h haccepted

/-- The branch of a match that looks at discovery attributes. -/
theorem onMatchTlv_of_discoveryAttr
    (hattr : tlv.type = nanTlvTypePostNanDiscoveryAttributeReceive) :
    onMatchTlv sizes bytes tlv decoding =
      if sizes.nanMaxPostdiscoveryLen ≤ decoding.num_rx_discovery_attr then decoding
      else
        { getNanReceivePostDiscoveryVal sizes bytes tlv decoding with
          num_rx_discovery_attr :=
            if postDiscoveryAccepted tlv then decoding.num_rx_discovery_attr + 1
            else decoding.num_rx_discovery_attr } := by
  unfold onMatchTlv
  rw [if_neg (by rw [hattr]; decide), if_pos hattr]

theorem onMatchTlv_inside_iff :
    (onMatchTlv sizes bytes tlv decoding).Inside limit ↔
      decoding.Inside limit ∧
        MatchUseInside sizes bytes limit tlv decoding.num_rx_discovery_attr := by
  unfold MatchUseInside
  by_cases hattr : tlv.type = nanTlvTypePostNanDiscoveryAttributeReceive
  · rw [if_pos hattr, onMatchTlv_of_discoveryAttr sizes bytes tlv decoding hattr]
    by_cases hfull : sizes.nanMaxPostdiscoveryLen ≤ decoding.num_rx_discovery_attr
    · rw [if_pos hfull, iff_self_and]
      exact fun _ h ↦ absurd h (Nat.not_lt.mpr hfull)
    · rw [if_neg hfull]
      have hread := getNanReceivePostDiscoveryVal_inside_iff sizes bytes limit tlv decoding
      rw [imp_iff_right (Nat.lt_of_not_le hfull)]
      exact hread
  · rw [if_neg hattr]
    unfold onMatchTlv matchUse
    rw [if_neg hattr]
    split_ifs
    · exact inside_copyUpTo_zero
    · exact inside_read .conn_capability tlv.value 1
    · exact getNanFurtherAvailabilityMap_inside_iff sizes bytes limit tlv decoding
    · exact inside_copyUpTo_zero
    · exact inside_read .peer_sdea_params tlv.value 1
    · exact copyTlv_inside_iff limit tlv decoding (matchCopies sizes)

theorem onMatchTlv_num :
    (onMatchTlv sizes bytes tlv decoding).num_rx_discovery_attr =
      nextDiscoveryAttr sizes tlv decoding.num_rx_discovery_attr := by
  unfold nextDiscoveryAttr
  by_cases hattr : tlv.type = nanTlvTypePostNanDiscoveryAttributeReceive
  · rw [onMatchTlv_of_discoveryAttr sizes bytes tlv decoding hattr]
    by_cases hfull : sizes.nanMaxPostdiscoveryLen ≤ decoding.num_rx_discovery_attr
    · rw [if_pos hfull, if_neg (fun h ↦ absurd h.2.1 (Nat.not_lt.mpr hfull))]
    · rw [if_neg hfull]
      change (if postDiscoveryAccepted tlv = true then _ else _) = _
      by_cases haccepted : postDiscoveryAccepted tlv = true
      · rw [if_pos haccepted, if_pos ⟨hattr, Nat.lt_of_not_le hfull, haccepted⟩]
      · rw [if_neg haccepted, if_neg (fun h ↦ haccepted h.2.2)]
  · rw [if_neg (fun h ↦ hattr h.1)]
    unfold onMatchTlv
    rw [if_neg hattr]
    split_ifs
    · rfl
    · rfl
    · exact getNanFurtherAvailabilityMap_num sizes bytes tlv decoding
    · rfl
    · rfl
    · exact copyTlv_num tlv decoding (matchCopies sizes)

end Matches

section Events

variable (event : NanEvent) (sizes : FrameworkSizes) (limit : ℕ) (decoding : Decoding)

/-- Every loop ends: each round takes a positive number of bytes off what is left. -/
theorem tlvLoopsEnd (bytes : Bytes) : TlvLoopsEnd bytes :=
  RecordLoop.wellFounded_round _ _

theorem NanEvent.two_le_fixedPart : 2 ≤ event.fixedPart := by
  unfold NanEvent.fixedPart
  cases isNanResponse event with
  | true =>
    rw [if_pos rfl]
    split_ifs <;> omega
  | false =>
    rw [if_neg (by decide)]
    cases getIndicationType event <;> exact (by decide)

theorem getNanStats_inside_iff :
    (getNanStats sizes event decoding).Inside event.mNanDataLen ↔
      decoding.Inside event.mNanDataLen ∧ event.StatsInside sizes := by
  have hremaining : 0 < event.remainingLen (sizeofNanMsgHeader + sizeofNanStatsRspParams) ↔
      14 < event.mNanDataLen := by
    unfold NanEvent.remainingLen sizeofNanMsgHeader sizeofNanStatsRspParams
    omega
  unfold getNanStats NanEvent.StatsInside
  by_cases hleft : 14 < event.mNanDataLen
  · rw [if_pos (hremaining.mpr hleft), imp_iff_right hleft]
    dsimp only
    have hlength : (nantlvReadTlv event.bytes 14).length = u16At event.bytes 16 := rfl
    have hheader : (decoding.read .outputTlv 14 sizeofTlvHdr).Inside event.mNanDataLen ↔
        decoding.Inside event.mNanDataLen ∧ 18 ≤ event.mNanDataLen := by
      rw [inside_read]
      apply and_congr_right
      intro _
      unfold sizeofTlvHdr
      omega
    rw [hlength]
    unfold handleNanStatsResponse
    cases hsizes : statsSizes sizes (event.bytes 12).toNat with
    | none =>
      rw [ite_self, hheader]
      simp
    | some pair =>
      by_cases hfits : u16At event.bytes 16 ≤ sizes.statsResponseData
      · rw [if_pos hfits]
        by_cases hexpected : u16At event.bytes 16 = pair.1
        · dsimp only
          rw [if_neg (not_not.mpr (hlength.trans hexpected)), inside_read, hheader, and_assoc]
          apply and_congr_right
          intro _
          apply and_congr_right
          intro hinside
          have hvalue : (nantlvReadTlv event.bytes 14).value = 18 := rfl
          rw [hvalue]
          constructor
          · intro hstats expected fwSize heq _ _
            cases heq
            dsimp only at hstats
            omega
          · intro hall
            exact Or.inr (hall pair.1 pair.2 rfl (hexpected ▸ hfits) hexpected)
        · dsimp only
          rw [if_pos (fun h ↦ hexpected (hlength.symm.trans h)), hheader]
          apply and_congr_right
          intro _
          rw [iff_self_and]
          intro _ expected fwSize heq _ hthis
          cases heq
          exact absurd hthis hexpected
      · rw [if_neg hfits, hheader]
        apply and_congr_right
        intro _
        rw [iff_self_and]
        intro _ expected fwSize _ hcapacity hthis
        exact absurd (hthis ▸ hcapacity) hfits
  · rw [if_neg (fun h ↦ hleft (hremaining.mp h)), iff_self_and]
    exact fun _ h ↦ absurd h hleft

theorem getNanResponse_inside_iff (hresponse : isNanResponse event = true) :
    (getNanResponse sizes event decoding).Inside event.mNanDataLen ↔
      decoding.Inside event.mNanDataLen ∧ event.fixedPart ≤ event.mNanDataLen ∧
        event.TlvsInside sizes := by
  unfold getNanResponse NanEvent.fixedPart NanEvent.TlvsInside
  rw [if_pos hresponse, if_pos hresponse]
  by_cases hvalue : event.msgId ∈ statusValueIds
  · have hstats : event.msgId ≠ nanMsgIdStatsRsp := fun h ↦ absurd (h ▸ hvalue) (by decide)
    rw [if_pos hvalue, if_pos (Or.inl hvalue)]
    simp only [inside_read, and_assoc, hstats, false_implies, and_true]
    apply and_congr_right
    intro _
    omega
  · by_cases hhandle : event.msgId ∈ statusValueHandleIds
    · have hstats : event.msgId ≠ nanMsgIdStatsRsp := fun h ↦ absurd (h ▸ hhandle) (by decide)
      rw [if_neg hvalue, if_pos hhandle, if_pos (Or.inr hhandle)]
      simp only [inside_read, and_assoc, hstats, false_implies, and_true]
      apply and_congr_right
      intro _
      omega
    · rw [if_neg hvalue, if_neg hhandle, if_neg (not_or.mpr ⟨hvalue, hhandle⟩)]
      by_cases hstatus : event.msgId ∈ statusIds
      · have hstats : event.msgId ≠ nanMsgIdStatsRsp := fun h ↦ absurd (h ▸ hstatus) (by decide)
        rw [if_pos hstatus, if_pos hstatus]
        simp only [inside_read, and_assoc, hstats, false_implies, and_true]
        apply and_congr_right
        intro _
        omega
      · rw [if_neg hstatus, if_neg hstatus]
        by_cases hstats : event.msgId = nanMsgIdStatsRsp
        · rw [if_pos hstats, if_pos hstats, getNanStats_inside_iff, imp_iff_right hstats]
          simp only [inside_read, and_assoc]
          apply and_congr_right
          intro _
          rw [← and_assoc, ← and_assoc, ← and_assoc, ← and_assoc]
          apply and_congr_left
          intro _
          omega
        · rw [if_neg hstats, if_neg hstats]
          by_cases hcapabilities : event.msgId = nanMsgIdCapabilitiesRsp
          · rw [if_pos hcapabilities, if_pos hcapabilities]
            simp only [inside_read, and_assoc, hstats, false_implies, and_true]
            apply and_congr_right
            intro _
            unfold capabilitiesWords
            omega
          · rw [if_neg hcapabilities, if_neg hcapabilities]
            simp only [inside_read, hstats, false_implies, and_true]
            apply and_congr_right
            intro _
            omega

theorem onMatchLoop_inside_iff (pos : ℕ) (remaining : ℤ) :
    ((tlvLoop event.bytes (onMatchTlv sizes event.bytes)).run pos remaining decoding).Inside limit ↔
      decoding.Inside limit ∧
        TlvsInside event.bytes limit (MatchUseInside sizes event.bytes limit)
          (nextDiscoveryAttr sizes) pos remaining decoding.num_rx_discovery_attr :=
  tlvLoop_inside_iff (nextDiscoveryAttr sizes)
    (fun tlv decoding ↦ onMatchTlv_inside_iff sizes event.bytes limit tlv decoding)
    (fun tlv decoding ↦ onMatchTlv_num sizes event.bytes tlv decoding) pos remaining

theorem onTcaLoop_inside_iff (pos : ℕ) (remaining : ℤ) :
    ((tlvLoop event.bytes onTcaTlv).run pos remaining decoding).Inside limit ↔
      decoding.Inside limit ∧
        ValuesInside event.bytes limit tcaUse pos remaining decoding.num_rx_discovery_attr :=
  tlvLoop_valuesInside_iff (fun tlv decoding ↦ onTcaTlv_inside_iff limit tlv decoding)
    (fun tlv decoding ↦ onTcaTlv_num tlv decoding) pos remaining

theorem onBeaconSdfLoop_inside_iff (pos : ℕ) (remaining : ℤ) :
    ((tlvLoop event.bytes (onBeaconSdfTlv sizes)).run pos remaining decoding).Inside limit ↔
      decoding.Inside limit ∧
        ValuesInside event.bytes limit (beaconSdfUse sizes) pos remaining
          decoding.num_rx_discovery_attr :=
  tlvLoop_valuesInside_iff (fun tlv decoding ↦ onBeaconSdfTlv_inside_iff sizes limit tlv decoding)
    (fun tlv decoding ↦ onBeaconSdfTlv_num sizes tlv decoding) pos remaining

variable {limit decoding} in
/-- The message id is read again, and is inside the fixed part of every message. -/
theorem read_msgId_inside_iff {fixed : ℕ} (hfixed : 2 ≤ fixed) :
    (decoding.read .msgId 0 2).Inside limit ∧ fixed ≤ limit ↔
      decoding.Inside limit ∧ fixed ≤ limit := by
  rw [inside_read, and_assoc]
  apply and_congr_right
  intro _
  omega

theorem getNanPublishTerminated_inside_iff :
    (getNanPublishTerminated decoding).Inside limit ↔ decoding.Inside limit ∧ 10 ≤ limit := by
  unfold getNanPublishTerminated
  simp only [inside_read, and_assoc]
  apply and_congr_right
  intro _
  omega

theorem getNanMatchExpired_inside_iff :
    (getNanMatchExpired decoding).Inside limit ↔ decoding.Inside limit ∧ 12 ≤ limit := by
  unfold getNanMatchExpired
  simp only [inside_read, and_assoc]
  apply and_congr_right
  intro _
  omega

theorem getNanSubscribeTerminated_inside_iff :
    (getNanSubscribeTerminated decoding).Inside limit ↔ decoding.Inside limit ∧ 10 ≤ limit :=
  getNanPublishTerminated_inside_iff limit decoding

theorem getNanDisabled_inside_iff :
    (getNanDisabled decoding).Inside limit ↔ decoding.Inside limit ∧ 10 ≤ limit := by
  unfold getNanDisabled
  rw [inside_read]
  apply and_congr_right
  intro _
  omega

theorem getNanTransmitFollowupInd_inside_iff :
    (getNanTransmitFollowupInd decoding).Inside limit ↔ decoding.Inside limit ∧ 12 ≤ limit := by
  unfold getNanTransmitFollowupInd
  simp only [inside_read, and_assoc]
  apply and_congr_right
  intro _
  omega

theorem getNanPublishReplied_inside_iff :
    (getNanPublishReplied sizes event decoding).Inside limit ↔
      (decoding.Inside limit ∧ 12 ≤ limit) ∧
        ValuesInside event.bytes limit (copiedLength (publishRepliedCopies sizes)) 12
          (event.mNanDataLen - 8 : ℤ) decoding.num_rx_discovery_attr := by
  unfold getNanPublishReplied
  rw [copyLoop_inside_iff, inside_read, num_read]
  apply and_congr
  · apply and_congr_right
    intro _
    omega
  · rfl

/-- The three parameters of a match and of a followup stand in one row. -/
theorem read_params_inside_iff (field : NanField) :
    (((decoding.read .publish_subscribe_id 4 2).read .requestor_instance_id 8 4).read
      field 12 4).Inside limit ↔ decoding.Inside limit ∧ 16 ≤ limit := by
  simp only [inside_read, and_assoc]
  apply and_congr_right
  intro _
  omega

theorem getNanMatch_inside_iff :
    (getNanMatch sizes event decoding).Inside limit ↔
      (decoding.Inside limit ∧ 16 ≤ limit) ∧
        TlvsInside event.bytes limit (MatchUseInside sizes event.bytes limit)
          (nextDiscoveryAttr sizes) 16 (event.mNanDataLen - 16 : ℤ)
          decoding.num_rx_discovery_attr := by
  unfold getNanMatch
  rw [onMatchLoop_inside_iff, read_params_inside_iff]
  rfl

theorem getNanFollowup_inside_iff :
    (getNanFollowup sizes event decoding).Inside limit ↔
      (decoding.Inside limit ∧ 16 ≤ limit) ∧
        ValuesInside event.bytes limit (copiedLength (followupCopies sizes)) 16
          (event.mNanDataLen - 16 : ℤ) decoding.num_rx_discovery_attr := by
  unfold getNanFollowup
  rw [copyLoop_inside_iff, read_params_inside_iff]
  rfl

theorem getNanDiscEngEvent_inside_iff :
    (getNanDiscEngEvent event decoding).Inside limit ↔ decoding.Inside limit ∧
      ValuesInside event.bytes limit (copiedLength discEngCopies) 8 (event.mNanDataLen - 8 : ℤ)
        decoding.num_rx_discovery_attr :=
  copyLoop_inside_iff _ _ _ _ _ _

theorem getNanTca_inside_iff :
    (getNanTca event decoding).Inside limit ↔ decoding.Inside limit ∧
      ValuesInside event.bytes limit tcaUse 8 (event.mNanDataLen - 8 : ℤ)
        decoding.num_rx_discovery_attr :=
  onTcaLoop_inside_iff _ _ _ _ _

theorem getNanBeaconSdfPayload_inside_iff :
    (getNanBeaconSdfPayload sizes event decoding).Inside limit ↔ decoding.Inside limit ∧
      ValuesInside event.bytes limit (beaconSdfUse sizes) 8 (event.mNanDataLen - 8 : ℤ)
        decoding.num_rx_discovery_attr :=
  onBeaconSdfLoop_inside_iff _ _ _ _ _ _

theorem getNanRangeRequestReceivedInd_inside_iff :
    (getNanRangeRequestReceivedInd event decoding).Inside limit ↔ decoding.Inside limit ∧
      ValuesInside event.bytes limit (copiedLength rangeRequestCopies) 8
        (event.mNanDataLen - 8 : ℤ) decoding.num_rx_discovery_attr :=
  copyLoop_inside_iff _ _ _ _ _ _

theorem getNanRangeReportInd_inside_iff :
    (getNanRangeReportInd event decoding).Inside limit ↔ decoding.Inside limit ∧
      ValuesInside event.bytes limit (copiedLength rangeReportCopies) 8
        (event.mNanDataLen - 8 : ℤ) decoding.num_rx_discovery_attr :=
  copyLoop_inside_iff _ _ _ _ _ _

theorem handleNanIndication_inside_iff (hindication : isNanResponse event = false)
    (hcount : decoding.num_rx_discovery_attr = 0) :
    (handleNanIndication sizes event decoding).Inside event.mNanDataLen ↔
      decoding.Inside event.mNanDataLen ∧ event.fixedPart ≤ event.mNanDataLen ∧
        event.TlvsInside sizes := by
  have hresponse : ¬ isNanResponse event = true := by
    rw [hindication]
    decide
  have hfirst : (decoding.read .msgId 0 2).Inside event.mNanDataLen ↔
      decoding.Inside event.mNanDataLen ∧ 2 ≤ event.mNanDataLen := by
    rw [inside_read]
    apply and_congr_right
    intro _
    omega
  unfold handleNanIndication NanEvent.fixedPart NanEvent.TlvsInside
  rw [if_neg hresponse, if_neg hresponse, ← and_assoc]
  cases getIndicationType event with
  | publishReplied =>
    dsimp only
    rw [getNanPublishReplied_inside_iff, num_read, hcount, read_msgId_inside_iff (by decide)]
  | publishTerminated =>
    dsimp only
    rw [getNanPublishTerminated_inside_iff, read_msgId_inside_iff (by decide), and_true]
  | matched =>
    dsimp only
    rw [getNanMatch_inside_iff, num_read, hcount, read_msgId_inside_iff (by decide)]
  | matchExpired =>
    dsimp only
    rw [getNanMatchExpired_inside_iff, read_msgId_inside_iff (by decide), and_true]
  | subscribeTerminated =>
    dsimp only
    rw [getNanSubscribeTerminated_inside_iff, read_msgId_inside_iff (by decide), and_true]
  | deEvent =>
    dsimp only
    rw [getNanDiscEngEvent_inside_iff, num_read, hcount, hfirst]
  | followup =>
    dsimp only
    rw [getNanFollowup_inside_iff, num_read, hcount, read_msgId_inside_iff (by decide)]
  | disabled =>
    dsimp only
    rw [getNanDisabled_inside_iff, read_msgId_inside_iff (by decide), and_true]
  | tca =>
    dsimp only
    rw [getNanTca_inside_iff, num_read, hcount, hfirst]
  | beaconSdfPayload =>
    dsimp only
    rw [getNanBeaconSdfPayload_inside_iff, num_read, hcount, hfirst]
  | selfTransmitFollowup =>
    dsimp only
    rw [getNanTransmitFollowupInd_inside_iff, read_msgId_inside_iff (by decide), and_true]
  | rangingRequestReceived =>
    dsimp only
    rw [getNanRangeRequestReceivedInd_inside_iff, num_read, hcount, hfirst]
  | rangingResult =>
    dsimp only
    rw [getNanRangeReportInd_inside_iff, num_read, hcount, hfirst]
  | unknown =>
    dsimp only
    rw [hfirst, and_true]

/-- An event is decoded inside its bytes exactly when the fixed part that its decoder reads is there
and its TLVs are, as far as they are used. -/
theorem NanEvent.decodedInside_iff :
    event.DecodedInside sizes ↔
      event.fixedPart ≤ event.mNanDataLen ∧ event.TlvsInside sizes := by
  have hloops := tlvLoopsEnd event.bytes
  have hfirst : ((⟨[], 0⟩ : Decoding).read .msgId 0 2).Inside event.mNanDataLen ↔
      2 ≤ event.mNanDataLen := by
    rw [inside_read]
    have hempty : (⟨[], 0⟩ : Decoding).Inside event.mNanDataLen := fun _ h ↦ absurd h List.not_mem_nil
    rw [and_iff_right hempty]
    omega
  have htwo : event.fixedPart ≤ event.mNanDataLen → 2 ≤ event.mNanDataLen :=
    fun h ↦ Nat.le_trans event.two_le_fixedPart h
  have hinside : (handleNanEvent sizes event).Inside event.mNanDataLen ↔
      event.fixedPart ≤ event.mNanDataLen ∧ event.TlvsInside sizes := by
    unfold handleNanEvent
    cases hresponse : isNanResponse event with
    | true =>
      rw [if_pos rfl, getNanResponse_inside_iff event sizes _ hresponse, hfirst]
      exact and_iff_right_of_imp fun h ↦ htwo h.1
    | false =>
      rw [if_neg (by decide), handleNanIndication_inside_iff event sizes _ hresponse rfl, hfirst]
      exact and_iff_right_of_imp fun h ↦ htwo h.1
  exact ⟨fun h ↦ hinside.mp h.inside, fun h ↦ ⟨hloops, hinside.mpr h⟩⟩

/-- Sizes of the framework's own fields and arrays. -/
def frameworkSizes : FrameworkSizes where
  rssi_value := 1
  cluster_attribute := 255
  peer_cipher_type := 4
  scid := 1024
  range_info := 8
  mesh_id := 32
  infrastructure_ssid_val := 32
  nanMaxServiceNameLen := 255
  nanMaxMatchFilterLen := 255
  nanMaxServiceSpecificInfoLen := 1024
  nanMaxSdeaServiceSpecificInfoLen := 1024
  nanMaxPostdiscoveryLen := 5
  nanMaxFamChannels := 32
  nanMaxVsaDataLen := 255
  nanMaxFrameDataLen := 1500
  statsResponseData := 192
  nanPublishStats := 68
  nanSubscribeStats := 80
  nanMacStats := 100
  nanSyncStats := 192
  nanDwStats := 80
  nanDeStats := 92

/-- A publish replied indication for match handle 1, with no TLV. -/
def publishRepliedEvent : NanEvent where
  bytes := fun pos ↦ [0x71, 0, 12, 0, 0, 0, 0, 0, 1, 0, 0, 0].getD pos 0
  mNanDataLen := 12

/-- Four bytes are taken to be left after the parameters, and a TLV header is read there. -/
theorem not_decodedInside_publishReplied :
    ¬ ∀ (event : NanEvent) (sizes : FrameworkSizes), event.DecodedInside sizes := by
  intro hall
  have hindication : isNanResponse publishRepliedEvent = false := by decide
  have hevent : handleNanEvent frameworkSizes publishRepliedEvent =
      handleNanIndication frameworkSizes publishRepliedEvent
        ((⟨[], 0⟩ : Decoding).read .msgId 0 2) := by
    unfold handleNanEvent
    rw [hindication]
    rfl
  have hinside := (hall publishRepliedEvent frameworkSizes).inside
  rw [hevent, handleNanIndication_inside_iff _ _ _ hindication rfl] at hinside
  have htlvs : ValuesInside publishRepliedEvent.bytes 12
      (copiedLength (publishRepliedCopies frameworkSizes)) 12 4 0 := hinside.2.2
  have hheader := (htlvs ⟨12, 4, 0⟩ Relation.ReflTransGen.refl (by decide)).1
  exact absurd hheader (by decide)

end Events

end HardwareMediatek.Wifi
