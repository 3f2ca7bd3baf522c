import HardwareMediatek.Foundation.EffectRuns
import HardwareMediatek.Wifi.ReplyDecoders

/-!
# Which replies the decoders handle inside both buffers

A decoder respects its buffers on a reply if what it reads ends by the end of the attribute and of
the vendor data, what it writes fits the caller's array, and the count it reports does not exceed the
entries it copied. For each decoder the replies it handles so are described by the lengths and counts
of their attributes.
-/

namespace HardwareMediatek.Wifi

open Foundation

/-- The reads stay in their attribute and in the vendor data, the writes in the caller's array, and
the count reported is covered by the entries copied. -/
structure Decoded.Respects (decoded : Decoded) (len : ℕ) : Prop where
  reads : ∀ read ∈ decoded.reads, read.region.EndsBy read.limit ∧ read.region.EndsBy len
  writes : ∀ write ∈ decoded.writes, write.size ≤ write.capacity
  reported : ∀ count ∈ decoded.reported, count ≤ decoded.entries

/-- The length of the vendor data of a reply. -/
def VendorReply.len (reply : VendorReply) : ℕ := (reply.vendorData.map Payload.len).getD 0

def ReplyDecoder.RespectsBuffers (decoder : ReplyDecoder) (reply : VendorReply) : Prop :=
  (decoder.handleResponse reply).Respects reply.len

/-- What holds of the vendor data, if the reply has any. -/
def VendorReply.VendorDataMeets (reply : VendorReply) (condition : Payload → Prop) : Prop :=
  ∀ payload ∈ reply.vendorData, reply.isVendorCmd = true → payload.len ≠ 0 → condition payload

theorem respects_skip (len : ℕ) : ({ status := .skip } : Decoded).Respects len where
  reads read hread := absurd hread (by simp)
  writes write hwrite := absurd hwrite (by simp)
  reported count hcount := absurd hcount (by simp)

/-- It is enough to know when the decoding of the vendor data respects the buffers. -/
theorem withVendorData_respects_iff (reply : VendorReply) (decode : Payload → Decoded)
    (condition : Payload → Prop)
    (hdecode : ∀ payload, (decode payload).Respects payload.len ↔ condition payload) :
    (withVendorData reply decode).Respects reply.len ↔ reply.VendorDataMeets condition := by
  unfold withVendorData VendorReply.VendorDataMeets VendorReply.len
  by_cases hcmd : reply.isVendorCmd = true
  · cases hdata : reply.vendorData with
    | none => simp [hcmd, respects_skip]
    | some payload =>
      by_cases hlen : payload.len = 0
      · simp [hcmd, hlen, respects_skip]
      · simp [hcmd, hlen, hdecode]
  · simp [hcmd, respects_skip]

theorem length_lt_of_mem_visited (bytes : Bytes) {fuel pos : ℕ} {rem : ℤ} {attr : AttrView}
    (hattr : attr ∈ visited bytes fuel pos rem) : attr.length < 65536 := by
  induction fuel generalizing pos rem with
  | zero => simp [visited] at hattr
  | succ fuel ih =>
    unfold visited at hattr
    by_cases hok : nlaOk bytes pos rem = true
    · rw [if_pos hok, List.mem_cons] at hattr
      cases hattr with
      | inl hhead =>
        have := u16At_lt bytes pos
        rw [hhead]
        simp only [viewAt]
        omega
      | inr htail => exact ih htail
    · rw [if_neg hok] at hattr
      exact absurd hattr (by simp)

theorem Payload.length_lt {payload : Payload} {attr : AttrView} (hattr : attr ∈ payload.attrs) :
    attr.length < 65536 :=
  length_lt_of_mem_visited payload.bytes hattr

theorem getU32Read_endsBy_iff (attr : AttrView) :
    (getU32Read attr).region.EndsBy (getU32Read attr).limit ↔ 4 ≤ attr.length := by
  simp only [getU32Read, AttrView.limit, Region.EndsBy]
  omega

/-- A read that ends by its limit, the limit being inside the vendor data. -/
theorem reads_iff {reads : List SourceRead} {len : ℕ} (hlimit : ∀ read ∈ reads, read.limit ≤ len) :
    (∀ read ∈ reads, read.region.EndsBy read.limit ∧ read.region.EndsBy len) ↔
      ∀ read ∈ reads, read.region.EndsBy read.limit := by
  constructor
  · intro h read hread
    exact (h read hread).1
  · intro h read hread
    apply And.intro (h read hread)
    have hends := h read hread
    have hle := hlimit read hread
    unfold Region.EndsBy at hends ⊢
    omega

/-! ## The channel list -/

/-- The count in force after some attributes: the last one claimed, cut to the capacity. -/
def countInForce (mMaxChannels : ℕ) (bytes : Bytes) (before : List AttrView) : ℤ :=
  before.foldl (fun count attr ↦
    if attr.type = wifiAttributeNumChannels then claimedChannels mMaxChannels bytes attr
    else count) 0

/-- The number of entries that a copy with this count in force covers. -/
def copiedEntries (count : ℤ) : ℕ := asSize (sizeofWifiChannel * count) / sizeofWifiChannel

section ChannelList

variable (mMaxChannels : ℕ) (bytes : Bytes)

def channelListRun (attrs : List AttrView) : ChannelListState :=
  attrs.foldl (channelListStep mMaxChannels bytes) {}

theorem channelListRun_concat (attrs : List AttrView) (attr : AttrView) :
    channelListRun mMaxChannels bytes (attrs ++ [attr]) =
      channelListStep mMaxChannels bytes (channelListRun mMaxChannels bytes attrs) attr := by
  simp [channelListRun]

theorem countInForce_concat (attrs : List AttrView) (attr : AttrView) :
    countInForce mMaxChannels bytes (attrs ++ [attr]) =
      if attr.type = wifiAttributeNumChannels then claimedChannels mMaxChannels bytes attr
      else countInForce mMaxChannels bytes attrs := by
  simp [countInForce]

theorem num_channels_eq (attrs : List AttrView) :
    (channelListRun mMaxChannels bytes attrs).num_channels =
      countInForce mMaxChannels bytes attrs := by
  induction attrs using List.reverseRecOn with
  | nil => rfl
  | append_singleton attrs attr ih =>
    rw [channelListRun_concat, countInForce_concat, channelListStep]
    by_cases hnum : attr.type = wifiAttributeNumChannels
    · rw [if_pos hnum, if_pos hnum]
    · rw [if_neg hnum, if_neg hnum, ← ih]
      split <;> rfl

theorem countInForce_bounds (attrs : List AttrView) :
    -2147483648 ≤ countInForce mMaxChannels bytes attrs ∧
      countInForce mMaxChannels bytes attrs < 2147483648 ∧
      countInForce mMaxChannels bytes attrs ≤ mMaxChannels := by
  induction attrs using List.reverseRecOn with
  | nil => simp [countInForce]
  | append_singleton attrs attr ih =>
    rw [countInForce_concat]
    split
    · have := asInt_bounds (u32At bytes attr.start)
      unfold claimedChannels
      omega
    · exact ih

/-- A copy stays in an attribute exactly when the count is not negative and the attribute is long
enough. -/
theorem copy_endsBy_iff {count : ℤ} {attr : AttrView} (hlow : -2147483648 ≤ count)
    (hhigh : count < 2147483648) (hlength : attr.length < 65536) :
    Region.EndsBy ⟨attr.start, asSize (sizeofWifiChannel * count)⟩ attr.limit ↔
      0 ≤ count ∧ 4 * count ≤ attr.length := by
  simp only [Region.EndsBy, AttrView.limit, sizeofWifiChannel]
  by_cases hcount : 0 ≤ count
  · rw [asSize_of_nonneg (by omega) (by omega)]
    omega
  · rw [asSize_of_neg (by omega) (by omega)]
    omega

theorem copiedEntries_of_nonneg {count : ℤ} (hcount : 0 ≤ count) (hhigh : count < 2147483648) :
    (copiedEntries count : ℤ) = count := by
  simp only [copiedEntries, sizeofWifiChannel]
  rw [asSize_of_nonneg (by omega) (by omega)]
  omega

/-- What the loop asks of each attribute: a count attribute holds a number, a list attribute is as
long as the count in force, which is not negative. -/
def ChannelAttrFits (before : List AttrView) (attr : AttrView) : Prop :=
  (attr.type = wifiAttributeNumChannels → 4 ≤ attr.length) ∧
    (attr.type = wifiAttributeChannelList →
      0 ≤ countInForce mMaxChannels bytes before ∧
        4 * countInForce mMaxChannels bytes before ≤ attr.length)

/-! One lemma for each branch of the loop body. -/

variable {mMaxChannels bytes} {state : ChannelListState} {attr : AttrView}

theorem channelListStep_num (hnum : attr.type = wifiAttributeNumChannels) :
    (channelListStep mMaxChannels bytes state attr).decoded =
      { state.decoded with
        reads := state.decoded.reads ++ [getU32Read attr]
        reported := some (claimedChannels mMaxChannels bytes attr) } := by
  simp only [channelListStep, if_pos hnum]

theorem channelListStep_list (hlist : attr.type = wifiAttributeChannelList)
    (hcount : state.num_channels ≠ 0) :
    (channelListStep mMaxChannels bytes state attr).decoded =
      { state.decoded with
        reads := state.decoded.reads ++
          [{ region := ⟨attr.start, asSize (sizeofWifiChannel * state.num_channels)⟩
             limit := attr.limit }]
        writes := state.decoded.writes ++
          [{ size := asSize (sizeofWifiChannel * state.num_channels)
             capacity := sizeofWifiChannel * mMaxChannels }]
        entries := max state.decoded.entries (copiedEntries state.num_channels) } := by
  have hnum : ¬ attr.type = wifiAttributeNumChannels := by
    rw [hlist]
    decide
  simp only [channelListStep, if_neg hnum, if_pos (And.intro hlist hcount)]
  rfl

theorem channelListStep_other (hnum : ¬ attr.type = wifiAttributeNumChannels)
    (hlist : attr.type = wifiAttributeChannelList → state.num_channels = 0) :
    (channelListStep mMaxChannels bytes state attr).decoded = state.decoded := by
  have hskip : ¬ (attr.type = wifiAttributeChannelList ∧ state.num_channels ≠ 0) :=
    fun h ↦ h.2 (hlist h.1)
  simp only [channelListStep, if_neg hnum, if_neg hskip]

theorem not_list_of_num (hnum : attr.type = wifiAttributeNumChannels) :
    ¬ attr.type = wifiAttributeChannelList := by
  rw [hnum]
  decide

variable (mMaxChannels bytes)

theorem channelList_reads_iff (attrs : List AttrView) (hattrs : ∀ attr ∈ attrs, attr.length < 65536) :
    (∀ read ∈ (channelListRun mMaxChannels bytes attrs).decoded.reads,
        read.region.EndsBy read.limit) ↔
      ∀ before attr after, attrs = before ++ attr :: after →
        ChannelAttrFits mMaxChannels bytes before attr := by
  induction attrs using List.reverseRecOn with
  | nil => simp [channelListRun]
  | append_singleton attrs attr ih =>
    have hlength : attr.length < 65536 := hattrs attr (by simp)
    have hcount := countInForce_bounds mMaxChannels bytes attrs
    have hstate := num_channels_eq mMaxChannels bytes attrs
    have hsplit := eachAfter_concat (ChannelAttrFits mMaxChannels bytes) attrs attr
    unfold EachAfter at hsplit
    rw [hsplit, ← ih fun other hother ↦ hattrs other (by simp [hother]), channelListRun_concat]
    by_cases hnum : attr.type = wifiAttributeNumChannels
    · rw [channelListStep_num hnum, List.forall_mem_append, List.forall_mem_singleton,
        getU32Read_endsBy_iff]
      simp [ChannelAttrFits, hnum, wifiAttributeNumChannels, wifiAttributeChannelList]
    · by_cases hlist : attr.type = wifiAttributeChannelList ∧
          countInForce mMaxChannels bytes attrs ≠ 0
      · rw [channelListStep_list hlist.1 (by rw [hstate]; exact hlist.2), List.forall_mem_append,
          List.forall_mem_singleton, hstate, copy_endsBy_iff hcount.1 hcount.2.1 hlength]
        simp [ChannelAttrFits, hlist.1, wifiAttributeNumChannels, wifiAttributeChannelList]
      · have hzero : attr.type = wifiAttributeChannelList →
            countInForce mMaxChannels bytes attrs = 0 := by
          intro htype
          by_contra hne
          exact hlist ⟨htype, hne⟩
        have hfits : ChannelAttrFits mMaxChannels bytes attrs attr := by
          apply And.intro
          · exact fun h ↦ absurd h hnum
          · intro htype
            rw [hzero htype]
            omega
        rw [channelListStep_other hnum (by rw [hstate]; exact hzero)]
        simp [hfits]

/-- Inside the capacity every copy fits the caller's array once its count is not negative. -/
theorem channelList_writes (attrs : List AttrView)
    (hfits : ∀ before attr after, attrs = before ++ attr :: after →
      ChannelAttrFits mMaxChannels bytes before attr) :
    ∀ write ∈ (channelListRun mMaxChannels bytes attrs).decoded.writes,
      write.size ≤ write.capacity := by
  induction attrs using List.reverseRecOn with
  | nil => simp [channelListRun]
  | append_singleton attrs attr ih =>
    have hcount := countInForce_bounds mMaxChannels bytes attrs
    have hstate := num_channels_eq mMaxChannels bytes attrs
    have hsplit := (eachAfter_concat (ChannelAttrFits mMaxChannels bytes) attrs attr).mp hfits
    have ih := ih hsplit.1
    rw [channelListRun_concat]
    by_cases hnum : attr.type = wifiAttributeNumChannels
    · rw [channelListStep_num hnum]
      exact ih
    · by_cases hlist : attr.type = wifiAttributeChannelList ∧
          countInForce mMaxChannels bytes attrs ≠ 0
      · rw [channelListStep_list hlist.1 (by rw [hstate]; exact hlist.2), List.forall_mem_append,
          List.forall_mem_singleton, hstate]
        apply And.intro ih
        have hpos := (hsplit.2.2 hlist.1).1
        simp only [sizeofWifiChannel]
        rw [asSize_of_nonneg (by omega) (by omega)]
        omega
      · rw [channelListStep_other hnum (by
          rw [hstate]
          intro htype
          by_contra hne
          exact hlist ⟨htype, hne⟩)]
        exact ih

/-- The entries copied are the largest count in force at a list attribute. -/
theorem le_entries_iff (attrs : List AttrView) (count : ℤ)
    (hfits : ∀ before attr after, attrs = before ++ attr :: after →
      ChannelAttrFits mMaxChannels bytes before attr) :
    count ≤ (channelListRun mMaxChannels bytes attrs).decoded.entries ↔
      count ≤ 0 ∨ ∃ before attr after, attrs = before ++ attr :: after ∧
        attr.type = wifiAttributeChannelList ∧ count ≤ countInForce mMaxChannels bytes before := by
  induction attrs using List.reverseRecOn with
  | nil => simp [channelListRun]
  | append_singleton attrs attr ih =>
    have hcount := countInForce_bounds mMaxChannels bytes attrs
    have hstate := num_channels_eq mMaxChannels bytes attrs
    have hsplit := (eachAfter_concat (ChannelAttrFits mMaxChannels bytes) attrs attr).mp hfits
    have hexists := someAfter_concat (fun before item ↦
      item.type = wifiAttributeChannelList ∧ count ≤ countInForce mMaxChannels bytes before) attrs attr
    unfold SomeAfter at hexists
    rw [hexists, ← or_assoc, ← ih hsplit.1, channelListRun_concat]
    by_cases hnum : attr.type = wifiAttributeNumChannels
    · rw [channelListStep_num hnum]
      simp [not_list_of_num hnum]
    · by_cases hlist : attr.type = wifiAttributeChannelList ∧
          countInForce mMaxChannels bytes attrs ≠ 0
      · have hcopied := copiedEntries_of_nonneg (hsplit.2.2 hlist.1).1 hcount.2.1
        rw [channelListStep_list hlist.1 (by rw [hstate]; exact hlist.2), hstate]
        simp only [hlist.1, true_and]
        omega
      · have hzero : attr.type = wifiAttributeChannelList →
            countInForce mMaxChannels bytes attrs = 0 := by
          intro htype
          by_contra hne
          exact hlist ⟨htype, hne⟩
        rw [channelListStep_other hnum (by rw [hstate]; exact hzero)]
        constructor
        · exact Or.inl
        · intro h
          cases h with
          | inl h => exact h
          | inr h =>
            have := hzero h.1
            omega

theorem channelList_reported (attrs : List AttrView) :
    (channelListRun mMaxChannels bytes attrs).decoded.reported =
      if ∃ attr ∈ attrs, attr.type = wifiAttributeNumChannels then
        some (countInForce mMaxChannels bytes attrs) else none := by
  induction attrs using List.reverseRecOn with
  | nil => rfl
  | append_singleton attrs attr ih =>
    rw [channelListRun_concat, countInForce_concat]
    by_cases hnum : attr.type = wifiAttributeNumChannels
    · rw [channelListStep_num hnum]
      simp [hnum]
    · have hsame : (channelListStep mMaxChannels bytes
          (channelListRun mMaxChannels bytes attrs) attr).decoded.reported =
          (channelListRun mMaxChannels bytes attrs).decoded.reported := by
        unfold channelListStep
        rw [if_neg hnum]
        split <;> rfl
      rw [hsame, ih]
      simp [hnum]

theorem countInForce_of_no_num {attrs : List AttrView}
    (hattrs : ¬ ∃ attr ∈ attrs, attr.type = wifiAttributeNumChannels) :
    countInForce mMaxChannels bytes attrs = 0 := by
  induction attrs using List.reverseRecOn with
  | nil => rfl
  | append_singleton attrs attr ih =>
    have hnum : ¬ attr.type = wifiAttributeNumChannels := fun h ↦ hattrs ⟨attr, by simp, h⟩
    rw [countInForce_concat, if_neg hnum]
    apply ih
    intro ⟨other, hother, htype⟩
    exact hattrs ⟨other, by simp [hother], htype⟩

end ChannelList

/-- Every attribute fits, and the last count claimed is covered by a count in force at a list
attribute. -/
def ChannelListFits (mMaxChannels : ℕ) (payload : Payload) : Prop :=
  (∀ before attr after, payload.attrs = before ++ attr :: after →
    ChannelAttrFits mMaxChannels payload.bytes before attr) ∧
  (countInForce mMaxChannels payload.bytes payload.attrs ≤ 0 ∨
    ∃ before attr after, payload.attrs = before ++ attr :: after ∧
      attr.type = wifiAttributeChannelList ∧
      countInForce mMaxChannels payload.bytes payload.attrs ≤
        countInForce mMaxChannels payload.bytes before)

theorem channelList_limit_le (mMaxChannels : ℕ) (payload : Payload) :
    ∀ read ∈ (channelListRun mMaxChannels payload.bytes payload.attrs).decoded.reads,
      read.limit ≤ payload.len := by
  apply List.foldlRecOn payload.attrs (channelListStep mMaxChannels payload.bytes)
    (motive := fun state ↦ ∀ read ∈ state.decoded.reads, read.limit ≤ payload.len)
  · simp
  · intro state ih attr hattr
    have hlimit := Payload.limit_le_len hattr
    unfold channelListStep
    split
    · rw [List.forall_mem_append, List.forall_mem_singleton]
      exact ⟨ih, hlimit⟩
    · split
      · rw [List.forall_mem_append, List.forall_mem_singleton]
        exact ⟨ih, hlimit⟩
      · exact ih

theorem channelList_respects_iff (mMaxChannels : ℕ) (payload : Payload) :
    (channelListRun mMaxChannels payload.bytes payload.attrs).decoded.Respects payload.len ↔
      ChannelListFits mMaxChannels payload := by
  have hreads := channelList_reads_iff mMaxChannels payload.bytes payload.attrs
    fun attr hattr ↦ Payload.length_lt hattr
  have hlimit := channelList_limit_le mMaxChannels payload
  have hreported := channelList_reported mMaxChannels payload.bytes payload.attrs
  constructor
  · intro hrespects
    have hfits := hreads.mp ((reads_iff hlimit).mp hrespects.reads)
    apply And.intro hfits
    apply (le_entries_iff mMaxChannels payload.bytes payload.attrs _ hfits).mp
    by_cases hnum : ∃ attr ∈ payload.attrs, attr.type = wifiAttributeNumChannels
    · rw [if_pos hnum] at hreported
      apply hrespects.reported
      rw [hreported]
      rfl
    · rw [countInForce_of_no_num mMaxChannels payload.bytes hnum]
      omega
  · intro ⟨hfits, hcovered⟩
    constructor
    · exact (reads_iff hlimit).mpr (hreads.mpr hfits)
    · exact channelList_writes mMaxChannels payload.bytes payload.attrs hfits
    · intro count hcount
      rw [hreported] at hcount
      split at hcount
      · rw [← Option.some.inj hcount]
        exact (le_entries_iff mMaxChannels payload.bytes payload.attrs _ hfits).mpr hcovered
      · exact absurd hcount (by simp)

/-! ## The packet filter -/

/-- Every program attribute is as long as the caller's buffer, and every length attribute holds a
number. -/
def PacketFilterFits (mProgramLen : ℕ) (payload : Payload) : Prop :=
  ∀ attr ∈ payload.attrs,
    (attr.type = mtkApfAttributeProgram → mProgramLen ≤ attr.length) ∧
    (attr.type = mtkApfAttributeProgramLen → 4 ≤ attr.length)

section PacketFilter

variable (mProgramLen : ℕ)

theorem readFilter_reads_iff (attrs : List AttrView) :
    (∀ read ∈ (attrs.foldl (readFilterStep mProgramLen) {}).reads,
        read.region.EndsBy read.limit) ↔
      ∀ attr ∈ attrs, (attr.type = mtkApfAttributeProgram → mProgramLen ≤ attr.length) ∧
        (attr.type = mtkApfAttributeProgramLen → 4 ≤ attr.length) := by
  induction attrs using List.reverseRecOn with
  | nil => simp
  | append_singleton attrs attr ih =>
    rw [List.foldl_concat, List.forall_mem_append,
      List.forall_mem_singleton, ← ih, readFilterStep]
    by_cases hprogram : attr.type = mtkApfAttributeProgram
    · have hends : Region.EndsBy ⟨attr.start, mProgramLen⟩ attr.limit ↔
          mProgramLen ≤ attr.length := by
        simp only [Region.EndsBy, AttrView.limit]
        omega
      rw [if_pos hprogram, List.forall_mem_append, List.forall_mem_singleton, hends]
      simp [hprogram, mtkApfAttributeProgram, mtkApfAttributeProgramLen]
    · rw [if_neg hprogram]
      by_cases hlen : attr.type = mtkApfAttributeProgramLen
      · rw [if_pos hlen, List.forall_mem_append, List.forall_mem_singleton, getU32Read_endsBy_iff]
        simp [hlen, mtkApfAttributeProgram, mtkApfAttributeProgramLen]
      · simp [hprogram, hlen]

/-- What the loop keeps true: limits inside the vendor data, writes that fit, and no count. -/
theorem readFilter_invariant (payload : Payload) :
    let decoded := payload.attrs.foldl (readFilterStep mProgramLen) {}
    (∀ read ∈ decoded.reads, read.limit ≤ payload.len) ∧
      (∀ write ∈ decoded.writes, write.size ≤ write.capacity) ∧ decoded.reported = none := by
  apply List.foldlRecOn payload.attrs (readFilterStep mProgramLen)
    (motive := fun decoded ↦ (∀ read ∈ decoded.reads, read.limit ≤ payload.len) ∧
      (∀ write ∈ decoded.writes, write.size ≤ write.capacity) ∧ decoded.reported = none)
  · simp
  · intro decoded ⟨hreads, hwrites, hreported⟩ attr hattr
    have hlimit := Payload.limit_le_len hattr
    unfold readFilterStep
    split
    · rw [List.forall_mem_append, List.forall_mem_append, List.forall_mem_singleton,
        List.forall_mem_singleton]
      exact ⟨⟨hreads, hlimit⟩, ⟨hwrites, Nat.le_refl _⟩, hreported⟩
    · split
      · rw [List.forall_mem_append, List.forall_mem_singleton]
        exact ⟨⟨hreads, hlimit⟩, hwrites, hreported⟩
      · exact ⟨hreads, hwrites, hreported⟩

theorem readFilter_respects_iff (payload : Payload) :
    (payload.attrs.foldl (readFilterStep mProgramLen) {}).Respects payload.len ↔
      PacketFilterFits mProgramLen payload := by
  have ⟨hlimit, hwrites, hreported⟩ := readFilter_invariant mProgramLen payload
  rw [PacketFilterFits, ← readFilter_reads_iff, ← reads_iff hlimit]
  constructor
  · exact Decoded.Respects.reads
  · intro hreads
    refine ⟨hreads, hwrites, ?_⟩
    intro count hcount
    rw [hreported] at hcount
    exact absurd hcount (by simp)

end PacketFilter

/-! ## The usable channels -/

/-- The vendor data holds an attribute header; and if that is the channel array, the attribute holds
at least its header, what it claims and the decoder uses of it is there, and the array fits the
caller's. -/
def UsableChannelsFit (mMaxSize : ℕ) (payload : Payload) : Prop :=
  let nla_len := u16At payload.bytes 0
  let array_size := u16At payload.bytes nlaHdrlen
  4 ≤ payload.len ∧
    (u16At payload.bytes 2 = wifiAttributeUsableChannelRespArray →
      4 ≤ nla_len ∧ (6 ≤ nla_len → 6 ≤ payload.len ∧
        (8 + 12 * array_size ≤ nla_len →
          (array_size = 0 ∨ 8 + 12 * array_size ≤ payload.len) ∧ array_size ≤ mMaxSize)))

theorem respects_iff (decoded : Decoded) (len : ℕ) :
    decoded.Respects len ↔
      (∀ read ∈ decoded.reads, read.region.EndsBy read.limit ∧ read.region.EndsBy len) ∧
      (∀ write ∈ decoded.writes, write.size ≤ write.capacity) ∧
      ∀ count ∈ decoded.reported, count ≤ decoded.entries :=
  ⟨fun h ↦ ⟨h.reads, h.writes, h.reported⟩, fun h ↦ ⟨h.1, h.2.1, h.2.2⟩⟩

/-- A length below the header size is negative as an `int`, and huge as a `size_t`. -/
theorem asSize_getLen (nla_len : ℕ) (hlen : nla_len < 65536) :
    (4 ≤ nla_len ∧ asSize (nla_len - nlaHdrlen) = nla_len - 4) ∨
      (nla_len < 4 ∧ asSize (nla_len - nlaHdrlen) = 2 ^ 64 + nla_len - 4) := by
  unfold nlaHdrlen
  by_cases hheader : 4 ≤ nla_len
  · rw [asSize_of_nonneg (by omega) (by omega)]
    omega
  · rw [asSize_of_neg (by omega) (by omega)]
    omega

theorem decodeUsableChannels_respects_iff (mMaxSize : ℕ) (payload : Payload) :
    (decodeUsableChannels mMaxSize payload).Respects payload.len ↔
      UsableChannelsFit mMaxSize payload := by
  have hlen := u16At_lt payload.bytes 0
  have hsize := u16At_lt payload.bytes nlaHdrlen
  have hgetLen := asSize_getLen (u16At payload.bytes 0) hlen
  simp only [decodeUsableChannels, UsableChannelsFit]
  by_cases htype : u16At payload.bytes 2 = wifiAttributeUsableChannelRespArray
  · rw [if_pos htype]
    by_cases htwo : asSize (u16At payload.bytes 0 - nlaHdrlen) < 2
    · rw [if_pos htwo, respects_iff]
      simp only [nlaHdrlen] at *
      simp [Region.EndsBy, htype]
      omega
    · rw [if_neg htwo]
      by_cases harray : asSize (u16At payload.bytes 0 - nlaHdrlen) <
          sizeofWifiUsableChannel * u16At payload.bytes nlaHdrlen + sizeofWifiUsableChannelResponse
      · rw [if_pos harray, respects_iff]
        simp only [sizeofWifiUsableChannel, sizeofWifiUsableChannelResponse, nlaHdrlen] at *
        simp [Region.EndsBy, htype]
        omega
      · rw [if_neg harray, respects_iff]
        simp only [sizeofWifiUsableChannel, sizeofWifiUsableChannelResponse, nlaHdrlen] at *
        simp [Region.EndsBy, htype]
        omega
  · rw [if_neg htype, respects_iff]
    simp [Region.EndsBy, htype]

/-! ## The feature set -/

/-- The capabilities need every count attribute to hold a number and room for two entries; the
feature set itself needs nothing. -/
def FeatureSetFits (request : FeatureRequest) (payload : Payload) : Prop :=
  request.feature_type = .roamingCapabilities → request.feature_matrix = true →
    request.fm_size = true → request.set_size_max = 2 ∧
      ∀ attr ∈ payload.attrs,
        attr.type = wifiAttributeRoamingBlacklistNum ∨
          attr.type = wifiAttributeRoamingWhitelistNum → 4 ≤ attr.length

theorem roaming_reads_iff (bytes : Bytes) (attrs : List AttrView) :
    (∀ read ∈ (attrs.foldl (roamingStep bytes) {}).reads, read.region.EndsBy read.limit) ↔
      ∀ attr ∈ attrs, attr.type = wifiAttributeRoamingBlacklistNum ∨
        attr.type = wifiAttributeRoamingWhitelistNum → 4 ≤ attr.length := by
  induction attrs using List.reverseRecOn with
  | nil => simp
  | append_singleton attrs attr ih =>
    rw [List.foldl_concat, List.forall_mem_append,
      List.forall_mem_singleton, ← ih, roamingStep]
    by_cases hblack : attr.type = wifiAttributeRoamingBlacklistNum
    · rw [if_pos hblack, List.forall_mem_append, List.forall_mem_singleton, getU32Read_endsBy_iff]
      simp [hblack]
    · rw [if_neg hblack]
      by_cases hwhite : attr.type = wifiAttributeRoamingWhitelistNum
      · rw [if_pos hwhite, List.forall_mem_append, List.forall_mem_singleton,
          getU32Read_endsBy_iff]
        simp [hwhite]
      · simp [hblack, hwhite]

theorem roaming_limit_le (payload : Payload) :
    ∀ read ∈ (payload.attrs.foldl (roamingStep payload.bytes) {}).reads,
      read.limit ≤ payload.len := by
  apply List.foldlRecOn payload.attrs (roamingStep payload.bytes)
    (motive := fun decoded ↦ ∀ read ∈ decoded.reads, read.limit ≤ payload.len)
  · simp
  · intro decoded ih attr hattr
    have hlimit := Payload.limit_le_len hattr
    unfold roamingStep
    split
    · rw [List.forall_mem_append, List.forall_mem_singleton]
      exact ⟨ih, hlimit⟩
    · split
      · rw [List.forall_mem_append, List.forall_mem_singleton]
        exact ⟨ih, hlimit⟩
      · exact ih

theorem decodeFeatureSet_respects_iff (request : FeatureRequest) (payload : Payload) :
    (decodeFeatureSet request payload).Respects payload.len ↔ FeatureSetFits request payload := by
  unfold decodeFeatureSet FeatureSetFits
  cases htype : request.feature_type with
  | featureSet =>
    by_cases hfset : request.fset = true
    · have hcopy : (⟨0, min payload.len sizeofFeatureSet⟩ : Region).EndsBy payload.len := by
        apply Or.inr
        rw [Nat.zero_add]
        exact Nat.min_le_left _ _
      have hwrite : min payload.len sizeofFeatureSet ≤ sizeofFeatureSet := Nat.min_le_right _ _
      simp [hfset, respects_iff, hcopy, hwrite]
    · simp [hfset, respects_skip]
  | roamingCapabilities =>
    by_cases hskip : ¬ request.feature_matrix = true ∨ ¬ request.fm_size = true
    · simp only [if_pos hskip, respects_skip, true_iff]
      intro _ hmatrix hsize
      exact absurd hskip (by simp [hmatrix, hsize])
    · have hboth : request.feature_matrix = true ∧ request.fm_size = true := by
        simpa using hskip
      rw [if_neg hskip, respects_iff]
      simp only [decodeRoaming, hboth.1, hboth.2, true_implies]
      rw [reads_iff (roaming_limit_le payload), roaming_reads_iff]
      rw [and_comm]
      apply and_congr_left'
      simp [sizeofWifiRoamingCapabilities]
      omega
  | other => simp [respects_iff]

/-! ## The four decoders -/

/-- The condition on the vendor data under which a decoder respects its buffers. -/
def ReplyDecoder.Fits : ReplyDecoder → Payload → Prop
  | .channelList mMaxChannels => ChannelListFits mMaxChannels
  | .readPacketFilter mProgramLen => PacketFilterFits mProgramLen
  | .usableChannel mMaxSize => UsableChannelsFit mMaxSize
  | .featureSet request => FeatureSetFits request

theorem ReplyDecoder.respectsBuffers_iff (decoder : ReplyDecoder) (reply : VendorReply) :
    decoder.RespectsBuffers reply ↔ reply.VendorDataMeets decoder.Fits := by
  cases decoder with
  | channelList mMaxChannels =>
    exact withVendorData_respects_iff reply _ _ (channelList_respects_iff mMaxChannels)
  | readPacketFilter mProgramLen =>
    exact withVendorData_respects_iff reply _ _ (readFilter_respects_iff mProgramLen)
  | usableChannel mMaxSize =>
    exact withVendorData_respects_iff reply _ _ (decodeUsableChannels_respects_iff mMaxSize)
  | featureSet request =>
    exact withVendorData_respects_iff reply _ _ (decodeFeatureSet_respects_iff request)

/-- One channel-array attribute of two entries. -/
def twoChannelReply : VendorReply where
  isVendorCmd := true
  vendorData := some
    { bytes := fun pos ↦ [32, 0, 1, 0, 2, 0].getD pos 0
      len := 32 }

/-- A caller with room for one channel is handed two. -/
theorem not_respectsBuffers_twoChannels :
    ¬ (ReplyDecoder.usableChannel 1).RespectsBuffers twoChannelReply := by
  intro hrespects
  have hwrites := hrespects.writes { size := 24, capacity := 12 } (by decide)
  exact absurd hwrites (by decide)

end HardwareMediatek.Wifi
