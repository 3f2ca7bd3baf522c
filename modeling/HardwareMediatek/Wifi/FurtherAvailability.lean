import HardwareMediatek.Wifi.NanEvents
import HardwareMediatek.Wifi.NanRequestEncoding

/-!
# Further availability maps

A map is encoded into a request and decoded from a match event. What was encoded is decoded again; but a
map that is rejected has left its count in the event.
-/

namespace HardwareMediatek.Wifi

open Foundation

section Decoder

/-- A channel with its bit-fields, as it is laid out. -/
def channelAt (bytes : Bytes) (pos : ℕ) : NanFurtherAvailabilityChannel where
  entry_control := UInt32.ofNat ((bytes pos).toNat % 4)
  class_val := bytes (pos + 1)
  channel := bytes (pos + 2)
  mapid := UInt8.ofNat ((bytes pos).toNat / 4 % 16)
  avail_interval_bitmap := UInt32.ofNat (u32At bytes (pos + 3))

/-- The channels of a match event. -/
structure AnnouncedChannels where
  num_chans : UInt8
  famchan : ℕ → NanFurtherAvailabilityChannel

/-- The channel of a map that is at a place of its array. -/
def famchanAt (bytes : Bytes) (pInValue idx : ℕ) : NanFurtherAvailabilityChannel :=
  channelAt bytes (pInValue + 1 + idx * sizeofFurtherAvailabilityChan)

def AnnouncedChannels.getNanFurtherAvailabilityMap (event : AnnouncedChannels) (bytes : Bytes) :
    Option ℕ → ℕ → ℤ × AnnouncedChannels
  | none, _ => (-1, event)
  | some pInValue, length =>
    if length = 0 then (-1, event)
    else
      let event := { event with num_chans := bytes pInValue }
      if nanMaxFamChannels < event.num_chans.toNat then (-1, event)
      else if length < 1 + event.num_chans.toNat * sizeofFurtherAvailabilityChan then (-1, event)
      else
        (0, { event with
          famchan := (List.range event.num_chans.toNat).foldl
            (fun famchan idx ↦ Function.update famchan idx (famchanAt bytes pInValue idx))
            event.famchan })

/-- The value of a TLV is `NULL` where its length is zero. -/
def NanTlv.pointer (tlv : NanTlv) : Option ℕ := if tlv.length = 0 then none else some tlv.value

/-- The loop of `getNanMatch`, for the channels. -/
def furtherAvailabilityLoop (bytes : Bytes) : RecordLoop AnnouncedChannels where
  size pos := (nantlvReadTlv bytes pos).readLen
  peek _ event := event
  body pos event :=
    let tlv := nantlvReadTlv bytes pos
    if tlv.type = nanTlvTypeFurtherAvailabilityMap then
      (event.getNanFurtherAvailabilityMap bytes tlv.pointer tlv.length).2
    else event

/-- The channels that a match event announces. It starts out as zeros. -/
def NanEvent.announcedChannels (event : NanEvent) : AnnouncedChannels :=
  (furtherAvailabilityLoop event.bytes).run 16
    (event.remainingLen (sizeofNanMsgHeader + sizeofNanMatchIndParams)) ⟨0, fun _ ↦ default⟩

end Decoder

/-! ## One map -/

section Maps

variable {event : AnnouncedChannels} {bytes : Bytes} {pInValue length : ℕ}

/-- The checks of a map. -/
def AcceptsMap (bytes : Bytes) (pInValue length : ℕ) : Prop :=
  length ≠ 0 ∧ (bytes pInValue).toNat ≤ nanMaxFamChannels ∧
    1 + (bytes pInValue).toNat * sizeofFurtherAvailabilityChan ≤ length

instance (bytes : Bytes) (pInValue length : ℕ) : Decidable (AcceptsMap bytes pInValue length) :=
  inferInstanceAs (Decidable (_ ∧ _))

theorem foldl_update_range {α : Type} (g f : ℕ → α) (count idx : ℕ) :
    (List.range count).foldl (fun f idx ↦ Function.update f idx (g idx)) f idx =
      if idx < count then g idx else f idx := by
  induction count with
  | zero => rfl
  | succ count ih =>
    rw [List.range_succ, List.foldl_concat, Function.update_apply, ih]
    by_cases hlast : idx = count
    · rw [if_pos hlast, if_pos (by omega), hlast]
    · rw [if_neg hlast]
      exact if_congr (by omega) rfl rfl

theorem getNanFurtherAvailabilityMap_of_accepts (haccepts : AcceptsMap bytes pInValue length) :
    event.getNanFurtherAvailabilityMap bytes (some pInValue) length =
      (0, ⟨bytes pInValue, fun idx ↦
        if idx < (bytes pInValue).toNat then famchanAt bytes pInValue idx else event.famchan idx⟩) := by
  unfold AnnouncedChannels.getNanFurtherAvailabilityMap
  dsimp only
  rw [if_neg haccepts.1, if_neg (Nat.not_lt.mpr haccepts.2.1), if_neg (Nat.not_lt.mpr haccepts.2.2)]
  congr 2
  funext idx
  exact foldl_update_range _ _ _ _

/-- A map that is rejected leaves its count. -/
theorem getNanFurtherAvailabilityMap_of_not_accepts (hlength : length ≠ 0)
    (hrejects : ¬ AcceptsMap bytes pInValue length) :
    event.getNanFurtherAvailabilityMap bytes (some pInValue) length =
      (-1, { event with num_chans := bytes pInValue }) := by
  unfold AnnouncedChannels.getNanFurtherAvailabilityMap
  dsimp only
  rw [if_neg hlength]
  by_cases hmany : nanMaxFamChannels < (bytes pInValue).toNat
  · rw [if_pos hmany]
  · rw [if_neg hmany, if_pos]
    apply Nat.lt_of_not_le
    exact fun hfits ↦ hrejects ⟨hlength, Nat.le_of_not_lt hmany, hfits⟩

/-- An error leaves the channels of the event as they were. -/
def LeavesOnError (event : AnnouncedChannels) (bytes : Bytes) (pInValue : Option ℕ) (length : ℕ) : Prop :=
  (event.getNanFurtherAvailabilityMap bytes pInValue length).1 ≠ 0 →
    (event.getNanFurtherAvailabilityMap bytes pInValue length).2 = event

/-- A map is left alone by an error if and only if it repeats the count of the event. -/
theorem leavesOnError_iff (event : AnnouncedChannels) (bytes : Bytes) (pInValue : Option ℕ) (length : ℕ) :
    LeavesOnError event bytes pInValue length ↔
      ∀ pos ∈ pInValue, length ≠ 0 → ¬ AcceptsMap bytes pos length → bytes pos = event.num_chans := by
  unfold LeavesOnError
  cases pInValue with
  | none =>
    apply iff_of_true (fun _ ↦ rfl)
    intro pos hnone
    cases hnone
  | some pInValue =>
    simp only [Option.mem_some_iff, forall_eq']
    by_cases hlength : length = 0
    · apply iff_of_true
      · unfold AnnouncedChannels.getNanFurtherAvailabilityMap
        dsimp only
        rw [if_pos hlength]
        exact fun _ ↦ rfl
      · exact fun hne ↦ absurd hlength hne
    · by_cases haccepts : AcceptsMap bytes pInValue length
      · rw [getNanFurtherAvailabilityMap_of_accepts haccepts]
        apply iff_of_true
        · exact fun hne ↦ absurd rfl hne
        · exact fun _ hnot ↦ absurd haccepts hnot
      · rw [getNanFurtherAvailabilityMap_of_not_accepts hlength haccepts]
        apply Iff.intro
        · intro hleaves _ _
          exact congrArg AnnouncedChannels.num_chans (hleaves (show (-1 : ℤ) ≠ 0 by decide))
        · intro hcount _
          rw [hcount hlength haccepts]

end Maps

/-! ## Round trip -/

section RoundTrip

variable {bytes : Bytes} {pos : ℕ} {pFam : NanFurtherAvailabilityMap}

/-- The values fit their bit-fields. -/
structure NanFurtherAvailabilityChannel.Fits (pFamChan : NanFurtherAvailabilityChannel) : Prop where
  entry_control : pFamChan.entry_control.toNat < 4
  mapid : pFamChan.mapid.toNat < 16

/-- A channel that was written is read. -/
theorem channelAt_of_holds {pFamChan : NanFurtherAvailabilityChannel} (hfits : pFamChan.Fits)
    (hholds : Holds bytes pos (furtherAvailabilityChan pFamChan)) : channelAt bytes pos = pFamChan := by
  have hparts := (holds_append _ _).mp hholds
  have hcontrol := (holds_cons _ _).mp hparts.1
  have hclass := (holds_cons _ _).mp hcontrol.2
  have hchannel := (holds_cons _ _).mp hclass.2
  have hbitmap : u32At bytes (pos + 3) = pFamChan.avail_interval_bitmap.toNat :=
    u32At_of_holds pFamChan.avail_interval_bitmap.toNat_lt hparts.2
  have hentry := hfits.entry_control
  have hmapid := hfits.mapid
  have hbyte : (bytes pos).toNat = pFamChan.entry_control.toNat + 4 * pFamChan.mapid.toNat := by
    rw [hcontrol.1]
    simp only [packBits, UInt8.toNat_ofNat']
    omega
  have hlow : (bytes pos).toNat % 4 = pFamChan.entry_control.toNat := by omega
  have hhigh : (bytes pos).toNat / 4 % 16 = pFamChan.mapid.toNat := by omega
  unfold channelAt
  rw [hlow, hhigh, hclass.1, hchannel.1, hbitmap, UInt32.ofNat_toNat, UInt8.ofNat_toNat, UInt32.ofNat_toNat]

theorem holds_famchan {count idx : ℕ} (hidx : idx < count)
    (hholds : Holds bytes pos (furtherAvailabilityChans pFam count)) :
    Holds bytes (pos + idx * sizeofFurtherAvailabilityChan) (furtherAvailabilityChan (pFam.famchan idx)) := by
  induction count with
  | zero => exact absurd hidx (Nat.not_lt_zero idx)
  | succ count ih =>
    rw [furtherAvailabilityChans_succ, holds_append, length_furtherAvailabilityChans] at hholds
    by_cases hlast : idx = count
    · rw [hlast]
      exact hholds.2
    · exact ih (by omega) hholds.1

/-- What is filled in is decoded again, whatever the event held. -/
structure RoundTrips (pFam : NanFurtherAvailabilityMap) (pOutValue : ℕ) (buffer : ByteWriter)
    (result : ℤ × AnnouncedChannels) : Prop where
  returned : result.1 = 0
  num_chans : result.2.num_chans = pFam.numchans
  famchan : ∀ idx < pFam.numchans.toNat, result.2.famchan idx = pFam.famchan idx

/-- Maps of up to so many channels whose values fit their bit-fields are decoded again. -/
theorem roundTrips (hpositive : 1 ≤ pFam.numchans.toNat) (hmax : pFam.numchans.toNat ≤ nanMaxFamChannels)
    (hfits : ∀ idx < pFam.numchans.toNat, (pFam.famchan idx).Fits) (pOutValue : ℕ) (buffer : ByteWriter)
    (event : AnnouncedChannels) :
    RoundTrips pFam pOutValue buffer
      (event.getNanFurtherAvailabilityMap (fillNanFurtherAvailabilityMapVal pFam pOutValue buffer).bytes
        (some pOutValue) (calcNanFurtherAvailabilityMapSize pFam)) := by
  have hchans : pFam.numchans ≠ 0 ∧ pFam.numchans.toNat ≤ nanMaxFamChannels := by
    refine ⟨?_, hmax⟩
    intro hzero
    rw [hzero] at hpositive
    exact absurd hpositive (by decide)
  have hsize : calcNanFurtherAvailabilityMapSize pFam =
      1 + pFam.numchans.toNat * sizeofFurtherAvailabilityChan := if_pos hchans
  have hwrites := @fill_furtherAvailability_writes pFam buffer pOutValue (by omega)
  have hparts := (holds_append _ _).mp hwrites.holds
  have hcount := ((holds_cons _ _).mp hparts.1).1
  have haccepts : AcceptsMap (fillNanFurtherAvailabilityMapVal pFam pOutValue buffer).bytes pOutValue
      (calcNanFurtherAvailabilityMapSize pFam) := by
    unfold AcceptsMap
    rw [hcount, hsize]
    exact ⟨by omega, hmax, Nat.le_refl _⟩
  rw [getNanFurtherAvailabilityMap_of_accepts haccepts]
  refine ⟨rfl, hcount, ?_⟩
  intro idx hidx
  dsimp only
  rw [hcount, if_pos hidx]
  exact channelAt_of_holds (hfits idx hidx) (holds_famchan hidx hparts.2)

end RoundTrip

/-! ## Match events -/

section Events

/-- The further availability maps of a match event that are not empty. -/
def NanEvent.furtherAvailabilityMaps (event : NanEvent) : List NanTlv :=
  ((RecordLoop.positions (fun pos ↦ (nantlvReadTlv event.bytes pos).readLen) 16
      (event.remainingLen (sizeofNanMsgHeader + sizeofNanMatchIndParams))).map
    (nantlvReadTlv event.bytes)).filter
      fun tlv ↦ tlv.type = nanTlvTypeFurtherAvailabilityMap ∧ tlv.length ≠ 0

variable {bytes : Bytes} {maps : List NanTlv} {start : AnnouncedChannels}

/-- Channel `idx` was decoded from one of the maps. -/
def DecodedFrom (bytes : Bytes) (maps : List NanTlv) (idx : ℕ) (channel : NanFurtherAvailabilityChannel) :
    Prop :=
  ∃ tlv ∈ maps, AcceptsMap bytes tlv.value tlv.length ∧ idx < (bytes tlv.value).toNat ∧
    channel = famchanAt bytes tlv.value idx

/-- Every channel that the event announces was decoded from one of its maps. -/
def NanEvent.AnnouncesDecoded (event : NanEvent) : Prop :=
  ∀ idx < event.announcedChannels.num_chans.toNat,
    DecodedFrom event.bytes event.furtherAvailabilityMaps idx (event.announcedChannels.famchan idx)

/-- The last map is accepted, or claims no more channels than one that is. -/
def NanEvent.LastMapCovered (event : NanEvent) : Prop :=
  ∀ last ∈ event.furtherAvailabilityMaps.getLast?, ∃ tlv ∈ event.furtherAvailabilityMaps,
    AcceptsMap event.bytes tlv.value tlv.length ∧
      (event.bytes last.value).toNat ≤ (event.bytes tlv.value).toNat

/-- The channels after some maps. -/
structure ChannelsOf (bytes : Bytes) (maps : List NanTlv) (channels : AnnouncedChannels) : Prop where
  num_chans : channels.num_chans = (maps.getLast?.map fun tlv ↦ bytes tlv.value).getD 0
  famchan : ∀ tlv ∈ maps, AcceptsMap bytes tlv.value tlv.length → ∀ idx < (bytes tlv.value).toNat,
    DecodedFrom bytes maps idx (channels.famchan idx)

theorem DecodedFrom.concat {idx : ℕ} {channel : NanFurtherAvailabilityChannel}
    (h : DecodedFrom bytes maps idx channel) (tlv : NanTlv) : DecodedFrom bytes (maps ++ [tlv]) idx channel := by
  obtain ⟨decoded, hdecoded⟩ := h
  exact ⟨decoded, List.mem_append_left [tlv] hdecoded.1, hdecoded.2⟩

/-- One more map, whether it is accepted or not. -/
theorem ChannelsOf.concat {channels : AnnouncedChannels} (h : ChannelsOf bytes maps channels) {tlv : NanTlv}
    (hlength : tlv.length ≠ 0) :
    ChannelsOf bytes (maps ++ [tlv])
      (channels.getNanFurtherAvailabilityMap bytes tlv.pointer tlv.length).2 := by
  unfold NanTlv.pointer
  rw [if_neg hlength]
  by_cases haccepts : AcceptsMap bytes tlv.value tlv.length
  · rw [getNanFurtherAvailabilityMap_of_accepts haccepts]
    apply ChannelsOf.mk
    · rw [List.getLast?_concat]
      rfl
    · intro other hother hacceptsOther idx hidx
      dsimp only
      by_cases hnew : idx < (bytes tlv.value).toNat
      · rw [if_pos hnew]
        exact ⟨tlv, List.mem_append_right maps (List.mem_singleton_self tlv), haccepts, hnew, rfl⟩
      · rw [if_neg hnew]
        apply DecodedFrom.concat
        apply Or.elim (List.mem_append.mp hother)
        · exact fun hold ↦ h.famchan other hold hacceptsOther idx hidx
        · intro hsame
          rw [List.mem_singleton.mp hsame] at hidx
          exact absurd hidx hnew
  · rw [getNanFurtherAvailabilityMap_of_not_accepts hlength haccepts]
    apply ChannelsOf.mk
    · rw [List.getLast?_concat]
      rfl
    · intro other hother hacceptsOther idx hidx
      apply DecodedFrom.concat
      apply Or.elim (List.mem_append.mp hother)
      · exact fun hold ↦ h.famchan other hold hacceptsOther idx hidx
      · intro hsame
        rw [List.mem_singleton.mp hsame] at hacceptsOther
        exact absurd hacceptsOther haccepts

theorem channelsOf_foldl (hlengths : ∀ tlv ∈ maps, tlv.length ≠ 0) :
    ChannelsOf bytes maps
      (maps.foldl (fun channels tlv ↦ (channels.getNanFurtherAvailabilityMap bytes tlv.pointer tlv.length).2)
        ⟨0, fun _ ↦ default⟩) := by
  induction maps using List.reverseRecOn with
  | nil => exact ⟨rfl, fun tlv hnil ↦ absurd hnil List.not_mem_nil⟩
  | append_singleton maps tlv ih =>
    rw [List.foldl_append]
    apply ChannelsOf.concat
    · exact ih fun other hother ↦ hlengths other (List.mem_append_left [tlv] hother)
    · exact hlengths tlv (List.mem_append_right maps (List.mem_singleton_self tlv))

/-- A match event holds the channels of its maps. -/
theorem channelsOf_announcedChannels (event : NanEvent) :
    ChannelsOf event.bytes event.furtherAvailabilityMaps event.announcedChannels := by
  have hchannels : event.announcedChannels =
      event.furtherAvailabilityMaps.foldl
        (fun channels tlv ↦
          (channels.getNanFurtherAvailabilityMap event.bytes tlv.pointer tlv.length).2)
        ⟨0, fun _ ↦ default⟩ := by
    unfold NanEvent.announcedChannels NanEvent.furtherAvailabilityMaps
    rw [RecordLoop.run_eq_foldl _ fun _ _ ↦ rfl, List.foldl_filter, List.foldl_map]
    congr 1
    funext channels pos
    unfold furtherAvailabilityLoop NanTlv.pointer
    dsimp only
    by_cases hmap : (nantlvReadTlv event.bytes pos).type = nanTlvTypeFurtherAvailabilityMap
    · by_cases hlength : (nantlvReadTlv event.bytes pos).length = 0
      · simp [hmap, hlength, AnnouncedChannels.getNanFurtherAvailabilityMap]
      · simp [hmap, hlength]
    · simp [hmap]
  rw [hchannels]
  apply channelsOf_foldl
  intro tlv htlv
  exact (of_decide_eq_true (List.mem_filter.mp htlv).2).2

/-- A match event announces only channels that were decoded if and only if its last map is covered. -/
theorem announcesDecoded_iff (event : NanEvent) : event.AnnouncesDecoded ↔ event.LastMapCovered := by
  have hchannels := channelsOf_announcedChannels event
  have hcount : ∀ last ∈ event.furtherAvailabilityMaps.getLast?,
      event.announcedChannels.num_chans = event.bytes last.value := by
    intro last hlast
    rw [hchannels.num_chans, Option.mem_def.mp hlast]
    rfl
  unfold NanEvent.AnnouncesDecoded NanEvent.LastMapCovered
  apply Iff.intro
  · intro hdecoded last hlast
    by_cases hzero : (event.bytes last.value).toNat = 0
    · have hmem := List.mem_of_getLast? hlast
      have hlength := (of_decide_eq_true (List.mem_filter.mp hmem).2).2
      have haccepts : AcceptsMap event.bytes last.value last.length := by
        unfold AcceptsMap
        rw [hzero]
        omega
      exact ⟨last, hmem, haccepts, Nat.le_refl _⟩
    · have hidx : (event.bytes last.value).toNat - 1 < event.announcedChannels.num_chans.toNat := by
        rw [hcount last hlast]
        omega
      obtain ⟨tlv, htlv⟩ := hdecoded _ hidx
      exact ⟨tlv, htlv.1, htlv.2.1, by omega⟩
  · intro hcovered idx hidx
    cases hlast : event.furtherAvailabilityMaps.getLast? with
    | none =>
      rw [hchannels.num_chans, hlast] at hidx
      exact absurd hidx (Nat.not_lt_zero idx)
    | some last =>
      obtain ⟨tlv, htlv⟩ := hcovered last hlast
      rw [hcount last hlast] at hidx
      exact hchannels.famchan tlv htlv.1 htlv.2.1 idx (Nat.lt_of_lt_of_le hidx htlv.2.2)

/-- Maps are decoded as they were encoded. An error leaves the event alone if and only if the map repeats
its count, and a match event announces only decoded channels if and only if its last map is covered. -/
theorem furtherAvailability_iff {pFam : NanFurtherAvailabilityMap} (hpositive : 1 ≤ pFam.numchans.toNat)
    (hmax : pFam.numchans.toNat ≤ nanMaxFamChannels)
    (hfits : ∀ idx < pFam.numchans.toNat, (pFam.famchan idx).Fits) (pOutValue : ℕ) (buffer : ByteWriter)
    (channels : AnnouncedChannels) (bytes : Bytes) (pInValue : Option ℕ) (length : ℕ) (event : NanEvent) :
    RoundTrips pFam pOutValue buffer
        (channels.getNanFurtherAvailabilityMap (fillNanFurtherAvailabilityMapVal pFam pOutValue buffer).bytes
          (some pOutValue) (calcNanFurtherAvailabilityMapSize pFam)) ∧
      (LeavesOnError channels bytes pInValue length ↔
        ∀ pos ∈ pInValue, length ≠ 0 → ¬ AcceptsMap bytes pos length → bytes pos = channels.num_chans) ∧
      (event.AnnouncesDecoded ↔ event.LastMapCovered) :=
  ⟨roundTrips hpositive hmax hfits pOutValue buffer channels,
    leavesOnError_iff channels bytes pInValue length, announcesDecoded_iff event⟩

def twoChannelMap : NanFurtherAvailabilityMap where
  numchans := 2
  famchan := fun idx ↦ if idx = 0 then ⟨2, 81, 6, 5, 0xff⟩ else ⟨1, 115, 36, 9, 0x0f0f⟩

def freshBuffer : ByteWriter := ⟨fun _ ↦ 0, 0, 0⟩

/-- A match event with a map of two channels. -/
def twoChannelsEvent : NanEvent where
  bytes := fun pos ↦ [0xd0, 0, 35, 0, 0, 0, 0, 0, 1, 0, 0, 0, 0, 0, 0, 0, 0x19, 0x10, 15, 0, 2,
    0x2a, 81, 6, 0xff, 0, 0, 0, 0x4a, 115, 36, 0x0f, 0x0f, 0, 0].getD pos 0
  mNanDataLen := 35

/-- A match event with a map that says it has five channels and ends there. -/
def fiveChannelsEvent : NanEvent where
  bytes := fun pos ↦ [0xd0, 0, 21, 0, 0, 0, 0, 0, 1, 0, 0, 0, 0, 0, 0, 0, 0x19, 0x10, 1, 0, 5].getD pos 0
  mNanDataLen := 21

/-- A map with two channels, a rejected map that repeats the count, and an event with a map. -/
theorem furtherAvailability_twoChannels :
    RoundTrips twoChannelMap 0 freshBuffer
        ((AnnouncedChannels.mk 5 fun _ ↦ default).getNanFurtherAvailabilityMap
          (fillNanFurtherAvailabilityMapVal twoChannelMap 0 freshBuffer).bytes (some 0)
          (calcNanFurtherAvailabilityMapSize twoChannelMap)) ∧
      LeavesOnError ⟨5, fun _ ↦ default⟩ fiveChannelsEvent.bytes (some 20) 1 ∧
      twoChannelsEvent.AnnouncesDecoded := by
  have hfits : ∀ idx < twoChannelMap.numchans.toNat, (twoChannelMap.famchan idx).Fits := by
    intro idx hidx
    have hsmall : ∀ idx < 2, (twoChannelMap.famchan idx).entry_control.toNat < 4 ∧
        (twoChannelMap.famchan idx).mapid.toNat < 16 := by decide
    exact ⟨(hsmall idx hidx).1, (hsmall idx hidx).2⟩
  have hiff := furtherAvailability_iff (by decide) (by decide) hfits 0 freshBuffer
    ⟨5, fun _ ↦ default⟩ fiveChannelsEvent.bytes (some 20) 1 twoChannelsEvent
  have hmaps : twoChannelsEvent.furtherAvailabilityMaps = [⟨4121, 15, 20, 19⟩] := by
    unfold NanEvent.furtherAvailabilityMaps
    rw [RecordLoop.positions, if_pos (by decide), if_neg (by decide), RecordLoop.positions,
      if_neg (by decide)]
    decide
  refine ⟨hiff.1, hiff.2.1.mpr ?_, hiff.2.2.mpr ?_⟩
  · intro pos hpos _ _
    rw [← Option.some.inj hpos]
    decide
  · intro last hlast
    rw [hmaps] at hlast ⊢
    rw [← Option.some.inj hlast]
    exact ⟨_, List.mem_singleton_self _, by decide, Nat.le_refl _⟩

/-- The five channels are announced, and none was decoded. -/
theorem rejected_map_announced :
    ¬ ((∀ (pFam : NanFurtherAvailabilityMap) (pOutValue : ℕ) (buffer : ByteWriter)
          (channels : AnnouncedChannels), 1 ≤ pFam.numchans.toNat → pFam.numchans.toNat ≤ nanMaxFamChannels →
            (∀ idx < pFam.numchans.toNat, (pFam.famchan idx).Fits) →
              RoundTrips pFam pOutValue buffer
                (channels.getNanFurtherAvailabilityMap
                  (fillNanFurtherAvailabilityMapVal pFam pOutValue buffer).bytes (some pOutValue)
                  (calcNanFurtherAvailabilityMapSize pFam))) ∧
        (∀ (channels : AnnouncedChannels) (bytes : Bytes) (pInValue : Option ℕ) (length : ℕ),
          LeavesOnError channels bytes pInValue length) ∧
        ∀ event : NanEvent, event.AnnouncesDecoded) := by
  intro hclaim
  have hmaps : fiveChannelsEvent.furtherAvailabilityMaps = [⟨4121, 1, 20, 5⟩] := by
    unfold NanEvent.furtherAvailabilityMaps
    rw [RecordLoop.positions, if_pos (by decide), if_neg (by decide), RecordLoop.positions,
      if_neg (by decide)]
    decide
  have hcovered := (announcesDecoded_iff fiveChannelsEvent).mp (hclaim.2.2 fiveChannelsEvent)
  unfold NanEvent.LastMapCovered at hcovered
  rw [hmaps] at hcovered
  obtain ⟨tlv, htlv⟩ := hcovered _ rfl
  rw [List.mem_singleton.mp htlv.1] at htlv
  exact absurd htlv.2.1 (by decide)

end Events

end HardwareMediatek.Wifi
