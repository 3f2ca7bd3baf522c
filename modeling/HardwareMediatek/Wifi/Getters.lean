import HardwareMediatek.Wifi.RadioMatrix
import HardwareMediatek.Wifi.ReplyBounds

/-!
# Getters and their outputs

The getters on top of `requestResponse`. The result of a request says that the kernel acknowledged it;
whether the outputs hold anything depends on the replies before.
-/

namespace HardwareMediatek.Wifi

open Foundation

/-! ## `wifi_get_supported_feature_set` -/

/-- The bytes of the caller's `feature_set`. -/
abbrev FeatureSetOutputs := ℕ → Cell UInt8

/-- `memcpy(fset, data, min(len, sizeof(*fset)))` -/
def copyFeatureSet (k : ℕ) (payload : Payload) (fset : FeatureSetOutputs) :
    NlStatus × FeatureSetOutputs :=
  (.ok, fun i ↦
    if i < min payload.len sizeofFeatureSet then ⟨payload.bytes i, .reply k⟩ else fset i)

def wifi_get_supported_feature_set (iface pset : Bool) (request : GetterRequest)
    (fset : FeatureSetOutputs) : GetterResult FeatureSetOutputs :=
  if ¬ iface ∨ ¬ pset then refusedGetter .invalidArgs fset
  else
    request.run (fun k reply outputs ↦
      withPayload reply outputs fun payload ↦ copyFeatureSet k payload outputs) fset

namespace FeatureSetOutputs

def WrittenFrom (j : ℕ) (fset : FeatureSetOutputs) : Prop :=
  ∀ i, i < sizeofFeatureSet → (fset i).source = .reply j

def Older (k : ℕ) (fset : FeatureSetOutputs) : Prop :=
  ∀ i, i < sizeofFeatureSet → (fset i).source.Before k

end FeatureSetOutputs

def FeatureSetTouches (payload : Payload) : Prop := 0 < payload.len

instance : DecidablePred FeatureSetTouches := fun payload ↦
  inferInstanceAs (Decidable (0 < payload.len))

/-- The vendor data is as long as a `feature_set`. -/
def FeatureSetCompletes (payload : Payload) : Prop := sizeofFeatureSet ≤ payload.len

theorem copyFeatureSet_copied {k : ℕ} {payload : Payload} {i : ℕ} (hlen : i < payload.len)
    (hsize : i < sizeofFeatureSet) (fset : FeatureSetOutputs) :
    ((copyFeatureSet k payload fset).2 i).source = .reply k := by
  unfold copyFeatureSet
  dsimp only
  rw [if_pos (Nat.lt_min.mpr ⟨hlen, hsize⟩)]

theorem copyFeatureSet_kept {k : ℕ} {payload : Payload} {i : ℕ} (hlen : payload.len ≤ i)
    (fset : FeatureSetOutputs) : (copyFeatureSet k payload fset).2 i = fset i := by
  unfold copyFeatureSet
  dsimp only
  rw [if_neg fun hlt ↦ Nat.not_lt_of_le hlen (Nat.lt_min.mp hlt).1]

theorem decodes_featureSet :
    Decodes FeatureSetOutputs.WrittenFrom copyFeatureSet FeatureSetOutputs.Older FeatureSetTouches
      FeatureSetCompletes := by
  have hfirst : 0 < sizeofFeatureSet := by decide
  apply Decodes.mk
  · intro k payload fset hnot
    funext i
    apply copyFeatureSet_kept
    exact Nat.le_trans (Nat.le_of_not_lt hnot) (Nat.zero_le i)
  · intro k payload fset htouches holder
    have hbefore := holder 0 hfirst
    rw [copyFeatureSet_copied htouches hfirst] at hbefore
    exact Nat.lt_irrefl k hbefore
  · intro k payload fset holder i hi
    by_cases hlen : i < payload.len
    · rw [copyFeatureSet_copied hlen hi]
      exact Nat.lt_succ_self k
    · rw [copyFeatureSet_kept (Nat.le_of_not_lt hlen)]
      exact (holder i hi).mono (Nat.le_succ k)
  · intro k l fset hle holder i hi
    exact (holder i hi).mono hle
  · intro k j fset holder hwritten
    have hbefore := holder 0 hfirst
    rw [hwritten 0 hfirst] at hbefore
    exact hbefore
  · intro k j payload fset htouches hwritten
    have hsource := hwritten 0 hfirst
    rw [copyFeatureSet_copied htouches hfirst] at hsource
    exact (Source.reply.inj hsource).symm
  · intro k payload fset holder htouches
    apply Iff.intro
    · intro hboth
      apply Nat.le_of_not_lt
      intro hlen
      have hbefore := holder payload.len hlen
      rw [← copyFeatureSet_kept (Nat.le_refl _) fset, hboth.2 payload.len hlen] at hbefore
      exact Nat.lt_irrefl k hbefore
    · intro hcompletes
      apply And.intro rfl
      intro i hi
      exact copyFeatureSet_copied (Nat.lt_of_lt_of_le hi hcompletes) hi fset

/-! ## `wifi_get_roaming_capabilities` -/

/-- The capabilities are decoded into a copy of their own, which then replaces the caller's. -/
def copyRoaming (k : ℕ) (payload : Payload) (_caps : Cell RoamingCapabilities) :
    NlStatus × Cell RoamingCapabilities :=
  (.ok, ⟨(payload.attrs.foldl (roamingStep payload.bytes) {}).cap, .reply k⟩)

/-- What the getter leaves in the caller's capabilities and in those of `hal_info`. -/
structure RoamingResult where
  getter : GetterResult (Cell RoamingCapabilities)
  roaming_capa : Cell RoamingCapabilities

/-- Nothing was cached yet. -/
def RoamingCapabilities.IsUnset (capabilities : RoamingCapabilities) : Prop :=
  capabilities.max_blacklist_size = 0 ∧ capabilities.max_whitelist_size = 0

instance : DecidablePred RoamingCapabilities.IsUnset := fun _ ↦
  inferInstanceAs (Decidable (_ ∧ _))

/-- A success puts what the caller's capabilities hold then into those of `hal_info`. -/
def cacheRoaming (roaming_capa : Cell RoamingCapabilities)
    (getter : GetterResult (Cell RoamingCapabilities)) : RoamingResult :=
  match getter.result with
  | .ok .success => ⟨getter, getter.responses.outputs⟩
  | _ => ⟨getter, roaming_capa⟩

def wifi_get_roaming_capabilities (iface info : Bool) (roaming_capa : Cell RoamingCapabilities)
    (request : GetterRequest) (caps : Cell RoamingCapabilities) : RoamingResult :=
  if ¬ iface ∨ ¬ info then ⟨refusedGetter .invalidArgs caps, roaming_capa⟩
  else if roaming_capa.value.IsUnset then
    cacheRoaming roaming_capa (request.run (fun k reply outputs ↦
      withPayload reply outputs fun payload ↦ copyRoaming k payload outputs) caps)
  else
    ⟨{ result := .ok .success, responses := { outputs := ⟨roaming_capa.value, .cache⟩ } },
      roaming_capa⟩

/-- Success comes with capabilities decoded now, or, where some were cached, with those, which were
decoded; anything else leaves the caller's and the cached ones. -/
def RoamingResult.Honest (after : RoamingResult) (roaming_capa caps : Cell RoamingCapabilities) :
    Prop :=
  (after.getter.Succeeds →
    after.getter.responses.Decoded (fun j outputs ↦ outputs.source = .reply j) ∨
      ¬ roaming_capa.value.IsUnset ∧
        after.getter.responses.outputs = ⟨roaming_capa.value, .cache⟩ ∧
          ∃ j, roaming_capa.source = .reply j) ∧
    (¬ after.getter.Succeeds →
      after.getter.responses.outputs = caps ∧ after.roaming_capa = roaming_capa)

section Caching

variable {roaming_capa : Cell RoamingCapabilities}

theorem cacheRoaming_getter (roaming_capa : Cell RoamingCapabilities)
    (getter : GetterResult (Cell RoamingCapabilities)) :
    (cacheRoaming roaming_capa getter).getter = getter := by
  unfold cacheRoaming
  split <;> rfl

theorem cacheRoaming_kept {getter : GetterResult (Cell RoamingCapabilities)}
    (hnot : ¬ getter.Succeeds) : (cacheRoaming roaming_capa getter).roaming_capa = roaming_capa := by
  unfold cacheRoaming
  split
  · rename_i hresult
    exact absurd hresult hnot
  · rfl

/-- The cached capabilities follow the outputs of the request. -/
theorem honest_cacheRoaming_iff (hunset : roaming_capa.value.IsUnset)
    {getter : GetterResult (Cell RoamingCapabilities)} {caps : Cell RoamingCapabilities} :
    (cacheRoaming roaming_capa getter).Honest roaming_capa caps ↔
      getter.Honest (fun j outputs ↦ outputs.source = .reply j) caps := by
  unfold RoamingResult.Honest GetterResult.Honest
  rw [cacheRoaming_getter]
  apply and_congr
  · apply imp_congr_right
    intro _
    exact or_iff_left fun hcached ↦ hcached.1 hunset
  · apply imp_congr_right
    intro hnot
    exact and_iff_left (cacheRoaming_kept hnot)

theorem honest_cached_iff (hset : ¬ roaming_capa.value.IsUnset) (caps : RoamingCapabilities) :
    (⟨{ result := .ok .success, responses := { outputs := ⟨roaming_capa.value, .cache⟩ } },
        roaming_capa⟩ : RoamingResult).Honest roaming_capa (callerCell caps) ↔
      ∃ j, roaming_capa.source = .reply j := by
  apply Iff.intro
  · intro hhonest
    apply Or.elim (hhonest.1 rfl)
    · intro hdecoded
      obtain ⟨j, hj⟩ := hdecoded
      cases hj.2
    · exact fun hcached ↦ hcached.2.2
  · intro hreply
    apply And.intro
    · exact fun _ ↦ Or.inr ⟨hset, rfl, hreply⟩
    · exact fun hnot ↦ absurd rfl hnot

end Caching

theorem decodes_roaming :
    Decodes (fun j (caps : Cell RoamingCapabilities) ↦ caps.source = .reply j) copyRoaming
      (fun k caps ↦ caps.source.Before k) (fun _ ↦ True) (fun _ ↦ True) := by
  apply Decodes.mk
  · intro k payload caps hnot
    exact absurd trivial hnot
  · intro k payload caps _ holder
    exact Nat.lt_irrefl k holder
  · intro k payload caps _
    exact Nat.lt_succ_self k
  · intro k l caps hle holder
    exact holder.mono hle
  · intro k j caps holder hwritten
    rw [hwritten] at holder
    exact holder
  · intro k j payload caps _ hwritten
    exact (Source.reply.inj hwritten).symm
  · intro k payload caps _ _
    exact iff_of_true ⟨rfl, rfl⟩ trivial

/-! ## `wifi_get_valid_channels` -/

structure ChannelOutputs where
  num_channels : Cell ℤ
  channels : ℕ → Cell ℕ

/-- The constructor of `GetChannelListCommand` clears the caller's array. -/
def clearChannels (mMaxChannels : ℕ) (outputs : ChannelOutputs) : ChannelOutputs :=
  { outputs with
    channels := fun i ↦ if i < mMaxChannels then ⟨0, .command⟩ else outputs.channels i }

/-- Only an array without room is left as it was. -/
theorem clearChannels_eq_self_iff (mMaxChannels : ℕ) {outputs : ChannelOutputs}
    (hcaller : (outputs.channels 0).source = .caller) :
    clearChannels mMaxChannels outputs = outputs ↔ mMaxChannels = 0 := by
  unfold clearChannels
  apply Iff.intro
  · intro hsame
    apply Nat.eq_zero_of_not_pos
    intro hpos
    have hfirst := congrArg (fun cleared ↦ (cleared.channels 0).source) hsame
    dsimp only at hfirst
    rw [if_pos hpos, hcaller] at hfirst
    cases hfirst
  · intro hzero
    have hchannels : (fun i ↦
        if i < mMaxChannels then ⟨0, .command⟩ else outputs.channels i) = outputs.channels := by
      funext i
      rw [if_neg (by omega)]
    rw [hchannels]

section ChannelWrites

variable (mMaxChannels : ℕ) (bytes : Bytes) (k : ℕ)

/-- The writes that go with a step of `channelListStep`. -/
def channelWrites (num_channels : ℤ) (outputs : ChannelOutputs) (attr : AttrView) : ChannelOutputs :=
  if attr.type = wifiAttributeNumChannels then
    { outputs with num_channels := ⟨claimedChannels mMaxChannels bytes attr, .reply k⟩ }
  else if attr.type = wifiAttributeChannelList ∧ num_channels ≠ 0 then
    { outputs with
      channels := fun i ↦
        if i < copiedEntries num_channels then
          ⟨u32At bytes (attr.start + sizeofWifiChannel * i), .reply k⟩
        else outputs.channels i }
  else outputs

def channelStep (state : ChannelListState × ChannelOutputs) (attr : AttrView) :
    ChannelListState × ChannelOutputs :=
  (channelListStep mMaxChannels bytes state.1 attr,
    channelWrites mMaxChannels bytes k state.1.num_channels state.2 attr)

end ChannelWrites

def copyChannels (mMaxChannels k : ℕ) (payload : Payload) (outputs : ChannelOutputs) :
    NlStatus × ChannelOutputs :=
  (.ok, (payload.attrs.foldl (channelStep mMaxChannels payload.bytes k) ({}, outputs)).2)

def wifi_get_valid_channels (iface channels num_channels : Bool) (max_channels : ℕ)
    (request : GetterRequest) (outputs : ChannelOutputs) : GetterResult ChannelOutputs :=
  if ¬ iface ∨ ¬ channels ∨ ¬ num_channels then refusedGetter .invalidArgs outputs
  else
    request.run (fun k reply outputs ↦
      withPayload reply outputs fun payload ↦ copyChannels max_channels k payload outputs)
      (clearChannels max_channels outputs)

namespace ChannelOutputs

/-- The number and that many channels come from one reply. -/
def WrittenFrom (j : ℕ) (outputs : ChannelOutputs) : Prop :=
  outputs.num_channels.source = .reply j ∧
    ∀ i : ℕ, (i : ℤ) < outputs.num_channels.value → (outputs.channels i).source = .reply j

def Older (k : ℕ) (outputs : ChannelOutputs) : Prop :=
  outputs.num_channels.source.Before k ∧ ∀ i, (outputs.channels i).source.Before k

end ChannelOutputs

def ChannelsTouch (payload : Payload) : Prop :=
  ∃ attr ∈ payload.attrs, attr.type = wifiAttributeNumChannels

instance : DecidablePred ChannelsTouch := fun payload ↦
  inferInstanceAs (Decidable (∃ attr ∈ payload.attrs, attr.type = wifiAttributeNumChannels))

/-- Some list attribute copies at least so many entries. -/
def Lists (mMaxChannels : ℕ) (bytes : Bytes) (attrs : List AttrView) (entries : ℕ) : Prop :=
  ∃ before attr after, attrs = before ++ attr :: after ∧ attr.type = wifiAttributeChannelList ∧
    entries ≤ copiedEntries (countInForce mMaxChannels bytes before)

/-- The reply claims a number of channels, and a list attribute after some claim copies as many. -/
def ChannelsComplete (mMaxChannels : ℕ) (payload : Payload) : Prop :=
  ChannelsTouch payload ∧
    (countInForce mMaxChannels payload.bytes payload.attrs ≤ 0 ∨
      Lists mMaxChannels payload.bytes payload.attrs
        (countInForce mMaxChannels payload.bytes payload.attrs).toNat)

section ChannelRuns

variable (mMaxChannels : ℕ) (bytes : Bytes)

theorem lists_concat (attrs : List AttrView) (attr : AttrView) (entries : ℕ) :
    Lists mMaxChannels bytes (attrs ++ [attr]) entries ↔
      Lists mMaxChannels bytes attrs entries ∨ attr.type = wifiAttributeChannelList ∧
        entries ≤ copiedEntries (countInForce mMaxChannels bytes attrs) :=
  someAfter_concat (fun before (item : AttrView) ↦ item.type = wifiAttributeChannelList ∧
    entries ≤ copiedEntries (countInForce mMaxChannels bytes before)) attrs attr

variable {mMaxChannels bytes}

theorem Lists.mono {attrs : List AttrView} {entries fewer : ℕ}
    (hlists : Lists mMaxChannels bytes attrs entries) (hle : fewer ≤ entries) :
    Lists mMaxChannels bytes attrs fewer := by
  obtain ⟨before, attr, after, hall⟩ := hlists
  exact ⟨before, attr, after, hall.1, hall.2.1, Nat.le_trans hle hall.2.2⟩

theorem copiedEntries_zero : copiedEntries 0 = 0 := by decide

/-- Without a number of channels nothing is copied. -/
theorem not_lists_of_no_num {attrs : List AttrView}
    (hnone : ¬ ∃ attr ∈ attrs, attr.type = wifiAttributeNumChannels) (i : ℕ) :
    ¬ Lists mMaxChannels bytes attrs (i + 1) := by
  intro hlists
  obtain ⟨before, attr, after, hall⟩ := hlists
  have hzero : countInForce mMaxChannels bytes before = 0 := by
    apply countInForce_of_no_num
    intro hnum
    apply hnone
    obtain ⟨other, hother⟩ := hnum
    apply Exists.intro other
    rw [hall.1]
    exact ⟨List.mem_append_left _ hother.1, hother.2⟩
  have hle := hall.2.2
  rw [hzero, copiedEntries_zero] at hle
  exact Nat.not_succ_le_zero i hle

variable (mMaxChannels bytes) (k : ℕ) (start : ChannelOutputs)

def channelWritesRun (attrs : List AttrView) : ChannelListState × ChannelOutputs :=
  attrs.foldl (channelStep mMaxChannels bytes k) ({}, start)

theorem channelWritesRun_concat (attrs : List AttrView) (attr : AttrView) :
    channelWritesRun mMaxChannels bytes k start (attrs ++ [attr]) =
      channelStep mMaxChannels bytes k (channelWritesRun mMaxChannels bytes k start attrs) attr := by
  unfold channelWritesRun
  rw [List.foldl_concat]

/-- The loop is the one that the bounds of the reply are about. -/
theorem channelWritesRun_fst (attrs : List AttrView) :
    (channelWritesRun mMaxChannels bytes k start attrs).1 = channelListRun mMaxChannels bytes attrs := by
  induction attrs using List.reverseRecOn with
  | nil => rfl
  | append_singleton attrs attr ih =>
    rw [channelWritesRun_concat, channelListRun_concat, ← ih]
    rfl

theorem channelWritesRun_snd_concat (attrs : List AttrView) (attr : AttrView) :
    (channelWritesRun mMaxChannels bytes k start (attrs ++ [attr])).2 =
      channelWrites mMaxChannels bytes k (countInForce mMaxChannels bytes attrs)
        (channelWritesRun mMaxChannels bytes k start attrs).2 attr := by
  rw [channelWritesRun_concat, ← num_channels_eq, ← channelWritesRun_fst mMaxChannels bytes k start]
  rfl

/-- What the loop leaves: the last number claimed, and a channel for each entry copied. -/
structure ChannelsFollow (attrs : List AttrView) (outputs : ChannelOutputs) : Prop where
  num : (∃ attr ∈ attrs, attr.type = wifiAttributeNumChannels) →
    outputs.num_channels = ⟨countInForce mMaxChannels bytes attrs, .reply k⟩
  num_kept : ¬ (∃ attr ∈ attrs, attr.type = wifiAttributeNumChannels) →
    outputs.num_channels = start.num_channels
  copied : ∀ i, Lists mMaxChannels bytes attrs (i + 1) → (outputs.channels i).source = .reply k
  kept : ∀ i, ¬ Lists mMaxChannels bytes attrs (i + 1) → outputs.channels i = start.channels i

theorem channelsFollow_num {attrs : List AttrView} {outputs : ChannelOutputs} {attr : AttrView}
    (hfollows : ChannelsFollow mMaxChannels bytes k start attrs outputs)
    (hnum : attr.type = wifiAttributeNumChannels) :
    ChannelsFollow mMaxChannels bytes k start (attrs ++ [attr])
      { outputs with num_channels := ⟨claimedChannels mMaxChannels bytes attr, .reply k⟩ } := by
  have hlists : ∀ i, Lists mMaxChannels bytes (attrs ++ [attr]) (i + 1) ↔
      Lists mMaxChannels bytes attrs (i + 1) := by
    intro i
    rw [lists_concat, or_iff_left fun hboth ↦ not_list_of_num hnum hboth.1]
  apply ChannelsFollow.mk
  · intro _
    rw [countInForce_concat, if_pos hnum]
  · intro hnone
    exact absurd ⟨attr, List.mem_append_right _ (List.mem_singleton_self attr), hnum⟩ hnone
  · intro i hi
    exact hfollows.copied i ((hlists i).mp hi)
  · intro i hi
    exact hfollows.kept i fun hold ↦ hi ((hlists i).mpr hold)

theorem channelsFollow_other {attrs : List AttrView} {outputs : ChannelOutputs} {attr : AttrView}
    (hfollows : ChannelsFollow mMaxChannels bytes k start attrs outputs)
    (hnum : ¬ attr.type = wifiAttributeNumChannels) {channels : ℕ → Cell ℕ}
    (hcopied : ∀ i, attr.type = wifiAttributeChannelList ∧
      i + 1 ≤ copiedEntries (countInForce mMaxChannels bytes attrs) → (channels i).source = .reply k)
    (hkept : ∀ i, ¬ (attr.type = wifiAttributeChannelList ∧
      i + 1 ≤ copiedEntries (countInForce mMaxChannels bytes attrs)) →
        channels i = outputs.channels i) :
    ChannelsFollow mMaxChannels bytes k start (attrs ++ [attr])
      { outputs with channels := channels } := by
  have hmember : (∃ other ∈ attrs ++ [attr], other.type = wifiAttributeNumChannels) ↔
      ∃ other ∈ attrs, other.type = wifiAttributeNumChannels := by
    simp [hnum]
  apply ChannelsFollow.mk
  · intro hsome
    rw [countInForce_concat, if_neg hnum]
    exact hfollows.num (hmember.mp hsome)
  · intro hnone
    exact hfollows.num_kept fun hsome ↦ hnone (hmember.mpr hsome)
  · intro i hi
    rw [lists_concat] at hi
    by_cases hlast : attr.type = wifiAttributeChannelList ∧
        i + 1 ≤ copiedEntries (countInForce mMaxChannels bytes attrs)
    · exact hcopied i hlast
    · dsimp only
      rw [hkept i hlast]
      exact hfollows.copied i (hi.resolve_right hlast)
  · intro i hi
    rw [lists_concat, not_or] at hi
    dsimp only
    rw [hkept i hi.2]
    exact hfollows.kept i hi.1

theorem channelsFollow_run (attrs : List AttrView) :
    ChannelsFollow mMaxChannels bytes k start attrs
      (channelWritesRun mMaxChannels bytes k start attrs).2 := by
  induction attrs using List.reverseRecOn with
  | nil =>
    have hnone : ¬ ∃ attr ∈ ([] : List AttrView), attr.type = wifiAttributeNumChannels := by simp
    apply ChannelsFollow.mk
    · exact fun hsome ↦ absurd hsome hnone
    · exact fun _ ↦ rfl
    · exact fun i hi ↦ absurd hi (not_lists_of_no_num hnone i)
    · exact fun i _ ↦ rfl
  | append_singleton attrs attr ih =>
    rw [channelWritesRun_snd_concat]
    unfold channelWrites
    by_cases hnum : attr.type = wifiAttributeNumChannels
    · rw [if_pos hnum]
      exact channelsFollow_num mMaxChannels bytes k start ih hnum
    · rw [if_neg hnum]
      by_cases hlist : attr.type = wifiAttributeChannelList ∧
          countInForce mMaxChannels bytes attrs ≠ 0
      · rw [if_pos hlist]
        apply channelsFollow_other mMaxChannels bytes k start ih hnum
        · intro i hi
          rw [if_pos (Nat.lt_of_succ_le hi.2)]
        · intro i hi
          rw [if_neg fun hlt ↦ hi ⟨hlist.1, Nat.succ_le_of_lt hlt⟩]
      · rw [if_neg hlist]
        apply channelsFollow_other mMaxChannels bytes k start ih hnum
        · intro i hi
          have hzero : countInForce mMaxChannels bytes attrs = 0 := by
            by_contra hne
            exact hlist ⟨hi.1, hne⟩
          have hle := hi.2
          rw [hzero, copiedEntries_zero] at hle
          exact absurd hle (Nat.not_succ_le_zero i)
        · exact fun _ _ ↦ rfl

end ChannelRuns

theorem channelsFollow_copyChannels (mMaxChannels k : ℕ) (payload : Payload)
    (outputs : ChannelOutputs) :
    ChannelsFollow mMaxChannels payload.bytes k outputs payload.attrs
      (copyChannels mMaxChannels k payload outputs).2 :=
  channelsFollow_run mMaxChannels payload.bytes k outputs payload.attrs

theorem decodes_channels (mMaxChannels : ℕ) :
    Decodes ChannelOutputs.WrittenFrom (copyChannels mMaxChannels) ChannelOutputs.Older ChannelsTouch
      (ChannelsComplete mMaxChannels) := by
  apply Decodes.mk
  · intro k payload outputs hnot
    have hfollows := channelsFollow_copyChannels mMaxChannels k payload outputs
    have hchannels : (copyChannels mMaxChannels k payload outputs).2.channels = outputs.channels := by
      funext i
      exact hfollows.kept i (not_lists_of_no_num hnot i)
    have hnum := hfollows.num_kept hnot
    generalize (copyChannels mMaxChannels k payload outputs).2 = after at hchannels hnum
    cases after with
    | mk num_channels channels =>
      dsimp only at hchannels hnum
      rw [hchannels, hnum]
  · intro k payload outputs htouches holder
    have hnum := (channelsFollow_copyChannels mMaxChannels k payload outputs).num htouches
    have hbefore := holder.1
    rw [hnum] at hbefore
    exact Nat.lt_irrefl k hbefore
  · intro k payload outputs holder
    have hfollows := channelsFollow_copyChannels mMaxChannels k payload outputs
    apply And.intro
    · by_cases htouches : ChannelsTouch payload
      · rw [hfollows.num htouches]
        exact Nat.lt_succ_self k
      · rw [hfollows.num_kept htouches]
        exact holder.1.mono (Nat.le_succ k)
    · intro i
      by_cases hi : Lists mMaxChannels payload.bytes payload.attrs (i + 1)
      · rw [hfollows.copied i hi]
        exact Nat.lt_succ_self k
      · rw [hfollows.kept i hi]
        exact (holder.2 i).mono (Nat.le_succ k)
  · intro k l outputs hle holder
    exact ⟨holder.1.mono hle, fun i ↦ (holder.2 i).mono hle⟩
  · intro k j outputs holder hwritten
    have hbefore := holder.1
    rw [hwritten.1] at hbefore
    exact hbefore
  · intro k j payload outputs htouches hwritten
    have hsource := hwritten.1
    rw [(channelsFollow_copyChannels mMaxChannels k payload outputs).num htouches] at hsource
    exact (Source.reply.inj hsource).symm
  · intro k payload outputs holder htouches
    have hfollows := channelsFollow_copyChannels mMaxChannels k payload outputs
    have hsource : ∀ i, ((copyChannels mMaxChannels k payload outputs).2.channels i).source = .reply k ↔
        Lists mMaxChannels payload.bytes payload.attrs (i + 1) := by
      intro i
      apply Iff.intro
      · intro hreply
        by_contra hnot
        have hbefore := holder.2 i
        rw [← hfollows.kept i hnot, hreply] at hbefore
        exact Nat.lt_irrefl k hbefore
      · exact hfollows.copied i
    unfold ChannelOutputs.WrittenFrom ChannelsComplete
    have hstatus : (copyChannels mMaxChannels k payload outputs).1 = .ok := rfl
    rw [and_iff_right hstatus, hfollows.num htouches, and_iff_right rfl, and_iff_right htouches]
    dsimp only
    generalize countInForce mMaxChannels payload.bytes payload.attrs = count
    apply Iff.intro
    · intro hwritten
      by_cases hcount : count ≤ 0
      · exact Or.inl hcount
      · apply Or.inr
        have hlast := (hsource (count.toNat - 1)).mp (hwritten (count.toNat - 1) (by omega))
        exact hlast.mono (by omega)
    · intro hcomplete i hi
      rw [hsource]
      rcases hcomplete with hcount | hlists
      · omega
      · exact hlists.mono (by omega)

/-! ## The getters together -/

/-- A call of a getter: which of its pointers are set, what these point at, and for the capabilities
those cached in `hal_info`. -/
inductive GetterCall where
  | supportedFeatureSet (iface pset : Bool) (fset : ℕ → UInt8)
  | roamingCapabilities (iface info : Bool) (roaming_capa : Cell RoamingCapabilities)
      (caps : RoamingCapabilities)
  | validChannels (iface channels num_channels : Bool) (max_channels : ℕ) (number : ℤ)
      (list : ℕ → ℕ)
  | radioCombinationsMatrix (handle wlan0 : Bool) (max_size : ℕ) (size : ℕ)
      (matrix : RadioCombinationMatrix)

def wifi_get_supported_radio_combinations_matrix (handle wlan0 : Bool) (max_size : ℕ)
    (request : GetterRequest) (outputs : RadioMatrixOutputs) : GetterResult RadioMatrixOutputs :=
  if ¬ handle then refusedGetter .invalidArgs outputs
  else if ¬ wlan0 then refusedGetter .unknown outputs
  else
    request.run (fun k reply outputs ↦ withPayload reply outputs fun payload ↦
      decodeRadioMatrix max_size payload.bytes k payload.attrs outputs) outputs

namespace GetterCall

/-- Success means that a reply was accepted and every output was written from it, and without success
no output is written. -/
def SuccessMeansDecoded (request : GetterRequest) : GetterCall → Prop
  | supportedFeatureSet iface pset fset =>
      (wifi_get_supported_feature_set iface pset request fun i ↦ callerCell (fset i)).Honest
        FeatureSetOutputs.WrittenFrom fun i ↦ callerCell (fset i)
  | roamingCapabilities iface info roaming_capa caps =>
      (wifi_get_roaming_capabilities iface info roaming_capa request (callerCell caps)).Honest
        roaming_capa (callerCell caps)
  | validChannels iface channels num_channels max_channels number list =>
      (wifi_get_valid_channels iface channels num_channels max_channels request
        ⟨callerCell number, fun i ↦ callerCell (list i)⟩).Honest ChannelOutputs.WrittenFrom
          ⟨callerCell number, fun i ↦ callerCell (list i)⟩
  | radioCombinationsMatrix handle wlan0 max_size size matrix =>
      (wifi_get_supported_radio_combinations_matrix handle wlan0 max_size request
        ⟨callerCell size, callerCell matrix⟩).Honest RadioMatrixOutputs.WrittenFrom
          ⟨callerCell size, callerCell matrix⟩

/-- What the replies to a call, and the cached capabilities, have to be. -/
def AnsweredCompletely (request : GetterRequest) : GetterCall → Prop
  | supportedFeatureSet iface pset _ =>
      iface ∧ pset → request.RepliesComplete (VendorReply.Carries FeatureSetTouches)
        (VendorReply.Carries FeatureSetCompletes) True
  | roamingCapabilities iface info roaming_capa _ =>
      iface ∧ info →
        if roaming_capa.value.IsUnset then
          request.RepliesComplete (VendorReply.Carries fun _ ↦ True)
            (VendorReply.Carries fun _ ↦ True) True
        else ∃ j, roaming_capa.source = .reply j
  | validChannels iface channels num_channels max_channels _ _ =>
      iface ∧ channels ∧ num_channels →
        request.RepliesComplete (VendorReply.Carries ChannelsTouch)
          (VendorReply.Carries (ChannelsComplete max_channels)) (max_channels = 0)
  | radioCombinationsMatrix handle wlan0 max_size _ _ =>
      handle ∧ wlan0 → request.RepliesComplete (VendorReply.Carries MatrixTouches)
        (VendorReply.Carries (MatrixCompletes max_size)) True

section Calls

variable (request : GetterRequest)

theorem featureSet_honest_iff (iface pset : Bool) (fset : ℕ → UInt8) :
    (supportedFeatureSet iface pset fset).SuccessMeansDecoded request ↔
      (supportedFeatureSet iface pset fset).AnsweredCompletely request := by
  have holder : FeatureSetOutputs.Older 0 fun i ↦ callerCell (fset i) := fun _ _ ↦ trivial
  unfold SuccessMeansDecoded AnsweredCompletely wifi_get_supported_feature_set
  dsimp only
  rw [honest_guarded_iff (decodes_withPayload decodes_featureSet) request holder holder _ (by decide),
    not_or, not_not, not_not, eq_self_iff_true]

theorem validChannels_honest_iff (iface channels num_channels : Bool) (max_channels : ℕ)
    (number : ℤ) (list : ℕ → ℕ) :
    (validChannels iface channels num_channels max_channels number list).SuccessMeansDecoded request ↔
      (validChannels iface channels num_channels max_channels number list).AnsweredCompletely
        request := by
  generalize hcallers : (⟨callerCell number, fun i ↦ callerCell (list i)⟩ : ChannelOutputs) = callers
  have holder : ChannelOutputs.Older 0 callers := by
    rw [← hcallers]
    exact ⟨trivial, fun _ ↦ trivial⟩
  have hcleared : ChannelOutputs.Older 0 (clearChannels max_channels callers) := by
    apply And.intro holder.1
    intro i
    unfold clearChannels
    dsimp only
    split
    · trivial
    · exact holder.2 i
  have hkeeps : clearChannels max_channels callers = callers ↔ max_channels = 0 := by
    apply clearChannels_eq_self_iff
    rw [← hcallers]
    exact rfl
  unfold SuccessMeansDecoded AnsweredCompletely wifi_get_valid_channels
  dsimp only
  rw [hcallers, honest_guarded_iff (decodes_withPayload (decodes_channels max_channels)) request
    hcleared holder _ (by decide), not_or, not_or, not_not, not_not, not_not, hkeeps]

theorem radioCombinationsMatrix_honest_iff (handle wlan0 : Bool) (max_size size : ℕ)
    (matrix : RadioCombinationMatrix) :
    (radioCombinationsMatrix handle wlan0 max_size size matrix).SuccessMeansDecoded request ↔
      (radioCombinationsMatrix handle wlan0 max_size size matrix).AnsweredCompletely request := by
  have holder : RadioMatrixOutputs.Older 0 ⟨callerCell size, callerCell matrix⟩ := ⟨trivial, trivial⟩
  unfold SuccessMeansDecoded AnsweredCompletely wifi_get_supported_radio_combinations_matrix
  dsimp only
  by_cases hhandle : handle = true
  · rw [if_neg (not_not_intro hhandle), honest_guarded_iff
      (decodes_withPayload (decodes_radioMatrix max_size)) request holder holder _ (by decide),
      not_not, and_iff_right hhandle, eq_self_iff_true]
  · rw [if_pos hhandle]
    apply iff_of_true
    · exact honest_refusedGetter (by decide) _
    · exact fun hboth ↦ absurd hboth.1 hhandle

theorem roamingCapabilities_honest_iff (iface info : Bool) (roaming_capa : Cell RoamingCapabilities)
    (caps : RoamingCapabilities) :
    (roamingCapabilities iface info roaming_capa caps).SuccessMeansDecoded request ↔
      (roamingCapabilities iface info roaming_capa caps).AnsweredCompletely request := by
  unfold SuccessMeansDecoded AnsweredCompletely wifi_get_roaming_capabilities
  dsimp only
  by_cases hargs : iface = true ∧ info = true
  · have hgiven : ¬ (¬ iface = true ∨ ¬ info = true) := by
      rw [not_or, not_not, not_not]
      exact hargs
    rw [if_neg hgiven, imp_iff_right hargs]
    by_cases hunset : roaming_capa.value.IsUnset
    · have hrun := honest_run_iff (decodes_withPayload decodes_roaming) request
        (show (callerCell caps).source.Before 0 from trivial)
        (show (callerCell caps).source.Before 0 from trivial)
      rw [if_pos hunset, if_pos hunset, honest_cacheRoaming_iff hunset, hrun, eq_self_iff_true]
    · rw [if_neg hunset, if_neg hunset]
      exact honest_cached_iff hunset caps
  · rw [if_pos (not_and_or.mp hargs)]
    apply iff_of_true
    · apply And.intro
      · intro hsucceeds
        cases hsucceeds
      · exact fun _ ↦ ⟨rfl, rfl⟩
    · exact fun hboth ↦ absurd hboth hargs

end Calls

end GetterCall

/-- One reply without vendor data, and then the acknowledgement. -/
def emptyReplyRequest : GetterRequest where
  create := none
  exchange :=
    { cbAlloc := true
      sendStatus := 0
      replies := [some { isVendorCmd := true, vendorData := none }]
      answer := 0
      answer_le := acknowledgement_le }

end HardwareMediatek.Wifi
