import HardwareMediatek.Wifi.NanPutRequests
import Mathlib.Data.List.GetD

/-!
# NAN requests are encoded exactly

For each put function: the sum that was allocated is what the statements write, the header carries it,
and the TLV reader finds the entries of the statements in their order. The argument is in three parts:
what one statement appends, what a list of statements appends, and that the two lists of conditions of
each request add up to the same length.
-/

namespace HardwareMediatek.Wifi

open Foundation

section Entries

def postDiscoveryEntries (pTxDisc : NanTransmitPostDiscovery) : List TlvEntry :=
  [⟨nanTlvTypeMacAddress, bytesAt pTxDisc.addr nanMacAddrLen⟩] ++
    (if pTxDisc.type = nanConnWlanMesh then
      [⟨nanTlvTypeWlanMeshId, bytesAt pTxDisc.mesh_id pTxDisc.mesh_id_len.toNat⟩] else []) ++
    (if pTxDisc.type = nanConnWlanInfra then
      [⟨nanTlvTypeWlanInfraSsid,
        bytesAt pTxDisc.infrastructure_ssid_val pTxDisc.infrastructure_ssid_len.toNat⟩] else [])

/-- The value of a discovery attribute: its fixed bytes, and TLVs of its own. -/
def postDiscoveryValue (pTxDisc : NanTransmitPostDiscovery) : List UInt8 :=
  [UInt8.ofNat pTxDisc.type.toNat, UInt8.ofNat pTxDisc.role.toNat,
      (if isSet pTxDisc.transmit_freq then (1 : UInt8) else 0) |||
        UInt8.ofNat ((pTxDisc.duration &&& 3) <<< 1).toNat] ++ [0] ++
    (le32 pTxDisc.avail_interval_bitmap.toNat ++ encodeTlvs (postDiscoveryEntries pTxDisc))

def furtherAvailabilityChans (pFam : NanFurtherAvailabilityMap) (count : ℕ) : List UInt8 :=
  (List.range count).flatMap fun idx ↦ furtherAvailabilityChan (pFam.famchan idx)

def furtherAvailabilityValue (pFam : NanFurtherAvailabilityMap) : List UInt8 :=
  [pFam.numchans] ++ furtherAvailabilityChans pFam pFam.numchans.toNat

/-- The TLV that a statement writes, if it does. -/
def TlvWrite.entries : TlvWrite → List TlvEntry
  | .add present type length value => if present then [⟨type, bytesAt value length⟩] else []
  | .postDiscovery pTxDisc =>
      [⟨nanTlvTypePostNanDiscoveryAttributeTransmit, postDiscoveryValue pTxDisc⟩]
  | .furtherAvailabilityMap present pFam =>
      if present ∧ calcNanFurtherAvailabilityMapSize pFam ≠ 0 then
        [⟨nanTlvTypeFurtherAvailabilityMap, furtherAvailabilityValue pFam⟩] else []

def tlvEntries (writes : List TlvWrite) : List TlvEntry := writes.flatMap TlvWrite.entries

/-- Lengths that fit the arrays they are lengths of, and with their header 16 bits. -/
def TlvWrite.Fits : TlvWrite → Prop
  | .add present type length _ =>
      present = true → type < 65536 ∧ sizeofTlvHdr + length < 65536
  | .postDiscovery pTxDisc => pTxDisc.infrastructure_ssid_len.toNat ≤ nanMaxInfraSsidLen
  | .furtherAvailabilityMap _ _ => True

end Entries

section Statements

variable {pTxDisc : NanTransmitPostDiscovery} {pFam : NanFurtherAvailabilityMap}

theorem appends_ite {condition : Prop} [Decidable condition] {before after : ByteWriter}
    {entry : TlvEntry}
    (happends : condition → ByteWriter.Appends before after entry.encode) :
    ByteWriter.Appends before (if condition then after else before)
      (encodeTlvs (if condition then [entry] else [])) := by
  by_cases hcondition : condition
  · rw [if_pos hcondition, if_pos hcondition, encodeTlvs_cons, encodeTlvs_nil, List.append_nil]
    exact happends hcondition
  · rw [if_neg hcondition, if_neg hcondition]
    exact ByteWriter.Appends.nil before

theorem length_postDiscoveryValue :
    (postDiscoveryValue pTxDisc).length = calcNanTransmitPostDiscoverySize pTxDisc := by
  unfold postDiscoveryValue postDiscoveryEntries calcNanTransmitPostDiscoverySize
  split_ifs <;> simp [sizeofTlvHdr, encodeTlvs] <;> omega

theorem fits_bytesAt {type length : ℕ} (data : Bytes) (htype : type < 65536)
    (hlength : sizeofTlvHdr + length < 65536) : TlvEntry.Fits ⟨type, bytesAt data length⟩ :=
  ⟨htype, by rw [length_bytesAt]; exact hlength⟩

/-- A writer with its pointer moved has written the same. -/
theorem writes_with_pos {before after : ByteWriter} {start : ℕ} {list : List UInt8}
    (hwrites : ByteWriter.Writes before after start list) (pos : ℕ) :
    ByteWriter.Writes before { after with pos := pos } start list :=
  ⟨hwrites.holds, hwrites.kept, hwrites.written⟩

theorem writes_of_with_pos {before after : ByteWriter} {start : ℕ} {list : List UInt8} (pos : ℕ)
    (hwrites : ByteWriter.Writes { before with pos := pos } after start list) :
    ByteWriter.Writes before after start list :=
  ⟨hwrites.holds, hwrites.kept, hwrites.written⟩

/-- The nested TLVs of a discovery attribute, from wherever they are written. -/
theorem fill_postDiscovery_entries (tlvs : ByteWriter)
    (hssid : pTxDisc.infrastructure_ssid_len.toNat ≤ nanMaxInfraSsidLen) :
    ByteWriter.Appends tlvs
      (let tlvs := addTlv nanTlvTypeMacAddress nanMacAddrLen (fun _ ↦ pTxDisc.addr) tlvs
       let tlvs :=
         if pTxDisc.type = nanConnWlanMesh then
           addTlv nanTlvTypeWlanMeshId pTxDisc.mesh_id_len.toNat (fun _ ↦ pTxDisc.mesh_id) tlvs
         else tlvs
       if pTxDisc.type = nanConnWlanInfra then
         addTlv nanTlvTypeWlanInfraSsid pTxDisc.infrastructure_ssid_len.toNat
           (fun _ ↦ pTxDisc.infrastructure_ssid_val) tlvs
       else tlvs)
      (encodeTlvs (postDiscoveryEntries pTxDisc)) := by
  have hmesh := pTxDisc.mesh_id_len.toNat_lt
  unfold postDiscoveryEntries
  rw [encodeTlvs_append, encodeTlvs_append]
  apply ByteWriter.Appends.trans
  · apply ByteWriter.Appends.trans
    · rw [encodeTlvs_cons, encodeTlvs_nil, List.append_nil]
      exact addTlv_appends_outside pTxDisc.addr tlvs (fits_bytesAt _ (by decide) (by decide))
    · apply appends_ite
      intro _
      apply addTlv_appends_outside
      exact fits_bytesAt _ (by decide) (by unfold sizeofTlvHdr; omega)
  · apply appends_ite
    intro _
    apply addTlv_appends_outside
    apply fits_bytesAt _ (by decide)
    unfold sizeofTlvHdr nanMaxInfraSsidLen at *
    omega

/-- Type, role and flags, where the flags are written twice. -/
theorem fill_postDiscovery_head (buffer : ByteWriter) (pOutValue : ℕ) (type role first second : UInt8) :
    ByteWriter.Writes buffer
      ((((buffer.store pOutValue type).store (pOutValue + 1) role).store (pOutValue + 2) first).store
        (pOutValue + 2)
        ((((buffer.store pOutValue type).store (pOutValue + 1) role).store (pOutValue + 2)
          first).bytes (pOutValue + 2) ||| second))
      pOutValue [type, role, first ||| second] := by
  have hfirst := ByteWriter.writes_store
    ((buffer.store pOutValue type).store (pOutValue + 1) role) (pOutValue + 2) first
  have hheld := ((holds_cons first []).mp hfirst.holds).1
  rw [hheld]
  have hflags := hfirst.overwrite
    (ByteWriter.writes_store _ (pOutValue + 2) (first ||| second)) rfl
  have hboth := (ByteWriter.writes_store buffer pOutValue type).trans
    (ByteWriter.writes_store _ (pOutValue + 1) role)
  exact hboth.trans hflags

theorem fill_postDiscovery_writes (buffer : ByteWriter) (pOutValue : ℕ)
    (hssid : pTxDisc.infrastructure_ssid_len.toNat ≤ nanMaxInfraSsidLen)
    (hzero : buffer.bytes (pOutValue + 3) = 0) :
    ByteWriter.Writes buffer (fillNanTransmitPostDiscoveryVal pTxDisc pOutValue buffer) pOutValue
      (postDiscoveryValue pTxDisc) := by
  have hhead := fill_postDiscovery_head buffer pOutValue (UInt8.ofNat pTxDisc.type.toNat)
    (UInt8.ofNat pTxDisc.role.toNat) (if isSet pTxDisc.transmit_freq then 1 else 0)
    (UInt8.ofNat ((pTxDisc.duration &&& 3) <<< 1).toNat)
  unfold postDiscoveryValue fillNanTransmitPostDiscoveryVal
  apply hhead.trans_gap
  · exact (holds_cons 0 []).mpr ⟨hzero, holds_nil⟩
  · apply writes_with_pos
    apply (ByteWriter.writes_storeAll _ (pOutValue + 4) _).trans
    apply writes_of_with_pos (pOutValue + 8)
    exact (fill_postDiscovery_entries _ hssid).writes
  · simp [le32, le16]

theorem fillNanTransmitPostDiscoveryVal_pos (buffer : ByteWriter) (pOutValue : ℕ) :
    (fillNanTransmitPostDiscoveryVal pTxDisc pOutValue buffer).pos = buffer.pos :=
  ByteWriter.storeAll_pos _ _ _

theorem length_furtherAvailabilityChan (pFamChan : NanFurtherAvailabilityChannel) :
    (furtherAvailabilityChan pFamChan).length = sizeofFurtherAvailabilityChan := rfl

theorem furtherAvailabilityChans_succ (count : ℕ) :
    furtherAvailabilityChans pFam (count + 1) =
      furtherAvailabilityChans pFam count ++ furtherAvailabilityChan (pFam.famchan count) := by
  unfold furtherAvailabilityChans
  rw [List.range_succ, List.flatMap_append, List.flatMap_singleton]

theorem length_furtherAvailabilityChans (count : ℕ) :
    (furtherAvailabilityChans pFam count).length = count * sizeofFurtherAvailabilityChan := by
  induction count with
  | zero => rw [Nat.zero_mul]; rfl
  | succ count ih =>
    rw [furtherAvailabilityChans_succ, List.length_append, ih, length_furtherAvailabilityChan,
      Nat.add_mul, Nat.one_mul]

theorem length_furtherAvailabilityValue
    (hsize : calcNanFurtherAvailabilityMapSize pFam ≠ 0) :
    (furtherAvailabilityValue pFam).length = calcNanFurtherAvailabilityMapSize pFam := by
  unfold furtherAvailabilityValue
  unfold calcNanFurtherAvailabilityMapSize at hsize ⊢
  by_cases hchans : pFam.numchans ≠ 0 ∧ pFam.numchans.toNat ≤ nanMaxFamChannels
  · rw [if_pos hchans, List.length_append, List.length_singleton, length_furtherAvailabilityChans]
  · rw [if_neg hchans] at hsize
    exact absurd rfl hsize

/-- The loop over the channels writes them one behind the other. -/
theorem fill_channels_writes (buffer : ByteWriter) (start count : ℕ) :
    ByteWriter.Writes buffer
      ((List.range count).foldl
        (fun buffer idx ↦
          buffer.storeAll (start + idx * sizeofFurtherAvailabilityChan)
            (furtherAvailabilityChan (pFam.famchan idx)))
        buffer)
      start (furtherAvailabilityChans pFam count) := by
  induction count with
  | zero => exact ByteWriter.Writes.nil buffer start
  | succ count ih =>
    rw [List.range_succ, List.foldl_append, furtherAvailabilityChans_succ]
    apply ih.trans
    rw [length_furtherAvailabilityChans]
    exact ByteWriter.writes_storeAll _ _ _

theorem fill_furtherAvailability_writes (buffer : ByteWriter) (pOutValue : ℕ)
    (hsize : calcNanFurtherAvailabilityMapSize pFam ≠ 0) :
    ByteWriter.Writes buffer (fillNanFurtherAvailabilityMapVal pFam pOutValue buffer) pOutValue
      (furtherAvailabilityValue pFam) := by
  unfold fillNanFurtherAvailabilityMapVal
  apply (ByteWriter.writes_storeAll buffer pOutValue _).overwrite
  · apply (ByteWriter.writes_store _ pOutValue pFam.numchans).trans
    exact fill_channels_writes _ (pOutValue + 1) pFam.numchans.toNat
  · rw [List.length_replicate]
    exact (length_furtherAvailabilityValue hsize).symm

theorem foldl_storeAll_pos {α : Type} (entries : List α) (start : α → ℕ) (list : α → List UInt8)
    (buffer : ByteWriter) :
    (entries.foldl (fun buffer entry ↦ buffer.storeAll (start entry) (list entry)) buffer).pos =
      buffer.pos := by
  induction entries generalizing buffer with
  | nil => rfl
  | cons entry entries ih => rw [List.foldl_cons, ih, ByteWriter.storeAll_pos]

theorem fillNanFurtherAvailabilityMapVal_pos (buffer : ByteWriter) (pOutValue : ℕ) :
    (fillNanFurtherAvailabilityMapVal pFam pOutValue buffer).pos = buffer.pos := by
  unfold fillNanFurtherAvailabilityMapVal
  dsimp only
  rw [foldl_storeAll_pos]
  exact ByteWriter.storeAll_pos _ _ _

end Statements

section Runs

variable (write : TlvWrite) (writes : List TlvWrite) (tlvs : ByteWriter)

theorem calcNanTransmitPostDiscoverySize_le (pTxDisc : NanTransmitPostDiscovery)
    (hssid : pTxDisc.infrastructure_ssid_len.toNat ≤ nanMaxInfraSsidLen) :
    calcNanTransmitPostDiscoverySize pTxDisc ≤ 400 := by
  have hmesh := pTxDisc.mesh_id_len.toNat_lt
  unfold calcNanTransmitPostDiscoverySize nanMaxInfraSsidLen sizeofTlvHdr nanMacAddrLen at *
  split_ifs <;> omega

theorem calcNanFurtherAvailabilityMapSize_le (pFam : NanFurtherAvailabilityMap) :
    calcNanFurtherAvailabilityMapSize pFam ≤ 225 := by
  unfold calcNanFurtherAvailabilityMapSize nanMaxFamChannels sizeofFurtherAvailabilityChan
  split_ifs <;> omega

theorem fits_postDiscovery {pTxDisc : NanTransmitPostDiscovery}
    (hssid : pTxDisc.infrastructure_ssid_len.toNat ≤ nanMaxInfraSsidLen) :
    TlvEntry.Fits ⟨nanTlvTypePostNanDiscoveryAttributeTransmit, postDiscoveryValue pTxDisc⟩ where
  type := by
    change nanTlvTypePostNanDiscoveryAttributeTransmit < 65536
    decide
  length := by
    have hle := calcNanTransmitPostDiscoverySize_le pTxDisc hssid
    rw [length_postDiscoveryValue]
    unfold sizeofTlvHdr
    omega

theorem fits_furtherAvailability {pFam : NanFurtherAvailabilityMap}
    (hsize : calcNanFurtherAvailabilityMapSize pFam ≠ 0) :
    TlvEntry.Fits ⟨nanTlvTypeFurtherAvailabilityMap, furtherAvailabilityValue pFam⟩ where
  type := by
    change nanTlvTypeFurtherAvailabilityMap < 65536
    decide
  length := by
    have hle := calcNanFurtherAvailabilityMapSize_le pFam
    rw [length_furtherAvailabilityValue hsize]
    unfold sizeofTlvHdr
    omega

theorem forall_mem_ite_singleton {condition : Prop} [Decidable condition] {entry : TlvEntry}
    (hfits : condition → entry.Fits) :
    ∀ found ∈ (if condition then [entry] else []), found.Fits := by
  intro found hfound
  by_cases hcondition : condition
  · rw [if_pos hcondition, List.mem_singleton] at hfound
    rw [hfound]
    exact hfits hcondition
  · rw [if_neg hcondition] at hfound
    exact absurd hfound List.not_mem_nil

theorem TlvWrite.fits_entries (hfits : write.Fits) : ∀ entry ∈ write.entries, entry.Fits := by
  cases write with
  | add present type length value =>
    exact forall_mem_ite_singleton fun hpresent ↦
      fits_bytesAt value (hfits hpresent).1 (hfits hpresent).2
  | postDiscovery pTxDisc => exact List.forall_mem_singleton.mpr (fits_postDiscovery hfits)
  | furtherAvailabilityMap present pFam =>
    exact forall_mem_ite_singleton fun hpresent ↦ fits_furtherAvailability hpresent.2

/-- What one statement appends. A discovery attribute keeps one zero byte of the fresh buffer. -/
theorem TlvWrite.run_appends (hfits : write.Fits)
    (hfresh : tlvs.Fresh (tlvs.pos + (encodeTlvs write.entries).length)) :
    ByteWriter.Appends tlvs (write.run tlvs) (encodeTlvs write.entries) := by
  cases write with
  | add present type length value =>
    apply appends_ite
    intro hpresent
    apply addTlv_appends_outside
    exact fits_bytesAt value (hfits hpresent).1 (hfits hpresent).2
  | postDiscovery pTxDisc =>
    have hentries : encodeTlvs (TlvWrite.postDiscovery pTxDisc).entries =
        TlvEntry.encode
          ⟨nanTlvTypePostNanDiscoveryAttributeTransmit, postDiscoveryValue pTxDisc⟩ :=
      List.append_nil _
    have hlarge : 8 ≤ calcNanTransmitPostDiscoverySize pTxDisc := by
      unfold calcNanTransmitPostDiscoverySize
      omega
    have hzero : tlvs.bytes (tlvs.pos + sizeofTlvHdr + 3) = 0 := by
      apply hfresh
      · omega
      · rw [hentries, length_encode, length_postDiscoveryValue]
        omega
    rw [hentries]
    change ByteWriter.Appends tlvs
      (addTlv nanTlvTypePostNanDiscoveryAttributeTransmit (calcNanTransmitPostDiscoverySize pTxDisc)
        (fun bytes i ↦ bytes (tlvs.pos + sizeofTlvHdr + i))
        (fillNanTransmitPostDiscoveryVal pTxDisc (tlvs.pos + sizeofTlvHdr) tlvs)) _
    rw [← length_postDiscoveryValue]
    apply addTlv_appends_inPlace
    · exact fill_postDiscovery_writes tlvs (tlvs.pos + sizeofTlvHdr) hfits hzero
    · exact fillNanTransmitPostDiscoveryVal_pos tlvs (tlvs.pos + sizeofTlvHdr)
    · exact fits_postDiscovery hfits
  | furtherAvailabilityMap present pFam =>
    apply appends_ite
    intro hpresent
    rw [← length_furtherAvailabilityValue hpresent.2]
    apply addTlv_appends_inPlace
    · exact fill_furtherAvailability_writes tlvs (tlvs.pos + sizeofTlvHdr) hpresent.2
    · exact fillNanFurtherAvailabilityMapVal_pos tlvs (tlvs.pos + sizeofTlvHdr)
    · exact fits_furtherAvailability hpresent.2

@[simp]
theorem tlvEntries_nil : tlvEntries [] = [] := rfl

@[simp]
theorem tlvEntries_cons : tlvEntries (write :: writes) = write.entries ++ tlvEntries writes := rfl

@[simp]
theorem tlvEntries_append (left right : List TlvWrite) :
    tlvEntries (left ++ right) = tlvEntries left ++ tlvEntries right :=
  List.flatMap_append

/-- What a list of statements appends, one after the other. -/
theorem foldl_run_appends (hfits : ∀ write ∈ writes, write.Fits)
    (hfresh : tlvs.Fresh (tlvs.pos + (encodeTlvs (tlvEntries writes)).length)) :
    ByteWriter.Appends tlvs (writes.foldl (fun tlvs write ↦ write.run tlvs) tlvs)
      (encodeTlvs (tlvEntries writes)) := by
  induction writes generalizing tlvs with
  | nil => exact ByteWriter.Appends.nil tlvs
  | cons write writes ih =>
    rw [List.forall_mem_cons] at hfits
    rw [tlvEntries_cons, encodeTlvs_append] at hfresh ⊢
    rw [List.length_append] at hfresh
    have hfirst := write.run_appends tlvs hfits.1
      (fun k hk hlimit ↦ hfresh k hk (by omega))
    apply hfirst.trans
    apply ih _ hfits.2
    apply hfirst.fresh
    rw [hfirst.pos]
    intro k hk hlimit
    exact hfresh k hk (by omega)

end Runs

section Messages

/-- A message is encoded exactly: what is written ends at the length that is allocated and that the
header gives, and the TLV reader finds the entries behind the fixed part. -/
structure NanMessage.Exact (message : NanMessage) (fixed : ℕ) (entries : List TlvEntry) : Prop where
  ends : message.buffer.pos = message.message_len
  written : message.buffer.written = message.message_len
  msgLen : u16At message.buffer.bytes 2 = message.message_len
  readBack : readTlvs message.buffer.bytes fixed (message.message_len - fixed : ℤ) = entries

theorem length_nanMsgHeader (msgId message_len : ℕ) (handle transactionId : UInt16) :
    (nanMsgHeader msgId message_len handle transactionId).length = sizeofNanMsgHeader := rfl

/-- The length field of a header that memory holds from its start. -/
theorem u16At_of_holds_nanMsgHeader {bytes : Bytes} {msgId message_len : ℕ}
    {handle transactionId : UInt16} {params : List UInt8} (hshort : message_len < 65536)
    (hholds : Holds bytes 0 (nanMsgHeader msgId message_len handle transactionId ++ params)) :
    u16At bytes 2 = message_len := by
  unfold nanMsgHeader at hholds
  rw [List.append_assoc, List.append_assoc, List.append_assoc, holds_append, holds_append] at hholds
  exact u16At_of_holds hshort hholds.2.1

theorem startMessage_holds (heap : Bytes) (message_len : ℕ) (fixed : List UInt8) :
    Holds (startMessage heap message_len fixed).bytes 0 fixed := by
  intro k hk
  rw [Nat.zero_add]
  unfold startMessage
  dsimp only
  rw [if_pos hk]
  exact List.getD_eq_getElem fixed 0 hk

theorem startMessage_fresh (heap : Bytes) (message_len : ℕ) (fixed : List UInt8) :
    (startMessage heap message_len fixed).Fresh message_len := by
  intro k hk hlimit
  have hnot : ¬ k < fixed.length := Nat.not_lt.mpr hk
  unfold startMessage
  dsimp only
  rw [if_neg hnot, if_pos hlimit]

theorem putMessage_exact {env : PutEnv} {message_len msgId : ℕ} {handle id : UInt16}
    {params : List UInt8} {writes : List TlvWrite} {message : NanMessage}
    (hput : putMessage env message_len (nanMsgHeader msgId message_len handle id ++ params) writes =
      .ok message)
    (hlen : sizeofNanMsgHeader + params.length + (encodeTlvs (tlvEntries writes)).length =
      message_len)
    (hshort : message_len < 65536) (hfits : ∀ write ∈ writes, write.Fits) :
    message.Exact (sizeofNanMsgHeader + params.length) (tlvEntries writes) := by
  let fixed := nanMsgHeader msgId message_len handle id ++ params
  let start := startMessage env.heap message_len fixed
  have hfixed : fixed.length = sizeofNanMsgHeader + params.length := by
    rw [List.length_append, length_nanMsgHeader]
  have hstart : start.pos = sizeofNanMsgHeader + params.length := hfixed
  have happends : ByteWriter.Appends start (writes.foldl (fun tlvs write ↦ write.run tlvs) start)
      (encodeTlvs (tlvEntries writes)) := by
    apply foldl_run_appends writes start hfits
    rw [hstart, hlen]
    exact startMessage_fresh env.heap message_len fixed
  have hmessage : message = ⟨message_len, writes.foldl (fun tlvs write ↦ write.run tlvs) start⟩ := by
    unfold putMessage at hput
    split_ifs at hput with hmalloc hsent
    exact (Except.ok.inj hput).symm
  have hheld : Holds message.buffer.bytes 0 fixed := by
    intro k hk
    rw [hmessage, happends.writes.kept (0 + k) (Or.inl (by omega))]
    exact startMessage_holds env.heap message_len fixed k hk
  have hends : message.buffer.pos = message.message_len := by
    rw [hmessage]
    change (writes.foldl (fun tlvs write ↦ write.run tlvs) start).pos = message_len
    rw [happends.pos, hstart, hlen]
  apply NanMessage.Exact.mk hends
  · rw [← hends, hmessage]
    exact happends.written_eq_pos rfl
  · have hlength : message.message_len = message_len := by rw [hmessage]
    rw [hlength]
    exact u16At_of_holds_nanMsgHeader hshort hheld
  · have hrest : (message.message_len - (sizeofNanMsgHeader + params.length : ℕ) : ℤ) =
        (encodeTlvs (tlvEntries writes)).length := by
      have hlength : message.message_len = message_len := by rw [hmessage]
      omega
    rw [hrest]
    apply readTlvs_of_holds
    · intro entry hentry
      obtain ⟨write, hparts⟩ := List.mem_flatMap.mp hentry
      exact write.fits_entries (hfits write hparts.1) entry hparts.2
    · rw [hmessage, ← hstart]
      exact happends.writes.holds

end Messages

end HardwareMediatek.Wifi
