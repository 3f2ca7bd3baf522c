import HardwareMediatek.Foundation.ByteEncoding
import HardwareMediatek.Wifi.LinkStatsCheck

/-!
# Well-formed statistics are accepted

The encoding of a list of links with their peers and rates, followed by a list of radios with their
channels and by the levels of all radios. Its sizes fit, the walk over it ends where it ends, and the
pointer of each radio is patched to the radio's own levels.
-/

namespace HardwareMediatek.Wifi

open Foundation

/-- A peer: the bytes of its header around the count, and its rates. -/
structure PeerStat (layout : StatsLayout) where
  before : List UInt8
  after : List UInt8
  rates : List (List UInt8)
  length_before : before.length = layout.numRate
  length_after : after.length = layout.rateStats - (layout.numRate + 4)
  length_rates : ∀ rate ∈ rates, rate.length = layout.rateSize

structure LinkStat (layout : StatsLayout) where
  before : List UInt8
  after : List UInt8
  peers : List (PeerStat layout)
  length_before : before.length = layout.numPeers
  length_after : after.length = layout.peerInfo - (layout.numPeers + 4)

/-- A radio: the bytes of its header around its two counts, its channels, and its levels. The
pointer field is among the bytes of `middle`. -/
structure RadioStat (layout : StatsLayout) where
  front : List UInt8
  middle : List UInt8
  rest : List UInt8
  channels : List (List UInt8)
  levels : List (List UInt8)
  length_front : front.length = layout.numTxLevels
  length_middle : middle.length = layout.numChannels - (layout.numTxLevels + 4)
  length_rest : rest.length = layout.channels - (layout.numChannels + 4)
  length_channels : ∀ channel ∈ channels, channel.length = layout.channelSize
  length_levels : ∀ level ∈ levels, level.length = 4

structure LinkLayerStats (layout : StatsLayout) where
  before : List UInt8
  after : List UInt8
  links : List (LinkStat layout)
  radios : List (RadioStat layout)
  length_before : before.length = layout.numLinks
  length_after : after.length = layout.links - (layout.numLinks + 4)

section Encode

variable {layout : StatsLayout}

def PeerStat.encode (peer : PeerStat layout) : List UInt8 :=
  peer.before ++ le32 peer.rates.length ++ peer.after ++ peer.rates.flatten

def encodePeers (peers : List (PeerStat layout)) : List UInt8 := peers.flatMap PeerStat.encode

def LinkStat.encode (link : LinkStat layout) : List UInt8 :=
  link.before ++ le32 link.peers.length ++ link.after ++ encodePeers link.peers

def encodeLinks (links : List (LinkStat layout)) : List UInt8 := links.flatMap LinkStat.encode

def RadioStat.encode (radio : RadioStat layout) : List UInt8 :=
  radio.front ++ le32 radio.levels.length ++ radio.middle ++ le32 radio.channels.length ++
    radio.rest ++ radio.channels.flatten

def encodeRadios (radios : List (RadioStat layout)) : List UInt8 := radios.flatMap RadioStat.encode

def encodeLevels (radios : List (RadioStat layout)) : List UInt8 :=
  radios.flatMap fun radio ↦ radio.levels.flatten

def LinkLayerStats.encode (stats : LinkLayerStats layout) : List UInt8 :=
  stats.before ++ le32 stats.links.length ++ stats.after ++ encodeLinks stats.links ++
    le32 stats.radios.length ++ encodeRadios stats.radios ++ encodeLevels stats.radios

/-! ## Sizes -/

theorem PeerStat.length_encode (peer : PeerStat layout) :
    peer.encode.length = layout.rateStats + peer.rates.length * layout.rateSize := by
  have hlayout := layout.rateStats_ge
  have hbefore := peer.length_before
  have hafter := peer.length_after
  simp only [PeerStat.encode, List.length_append, length_le32,
    length_flatten_of_forall peer.length_rates]
  omega

theorem LinkStat.length_encode (link : LinkStat layout) :
    link.encode.length = layout.peerInfo + (encodePeers link.peers).length := by
  have hlayout := layout.peerInfo_ge
  have hbefore := link.length_before
  have hafter := link.length_after
  simp only [LinkStat.encode, List.length_append, length_le32]
  omega

theorem RadioStat.length_encode (radio : RadioStat layout) :
    radio.encode.length = layout.channels + radio.channels.length * layout.channelSize := by
  have htx := layout.txTimePerLevels_ge
  have hnum := layout.numChannels_ge
  have hchannels := layout.channels_ge
  have hfront := radio.length_front
  have hmiddle := radio.length_middle
  have hrest := radio.length_rest
  simp only [RadioStat.encode, List.length_append, length_le32,
    length_flatten_of_forall radio.length_channels]
  omega

/-- Encodings of some size each are together at least as long as there are of them. -/
theorem length_le_flatMap {α : Type} (encode : α → List UInt8) {items : List α}
    (hpos : ∀ item, 0 < (encode item).length) : items.length ≤ (items.flatMap encode).length := by
  induction items with
  | nil => simp
  | cons item items ih =>
    have := hpos item
    rw [List.flatMap_cons, List.length_append, List.length_cons]
    omega

theorem peers_length_le (peers : List (PeerStat layout)) :
    peers.length ≤ (encodePeers peers).length := by
  apply length_le_flatMap
  intro peer
  have := layout.rateStats_ge
  rw [peer.length_encode]
  omega

theorem links_length_le (links : List (LinkStat layout)) :
    links.length ≤ (encodeLinks links).length := by
  apply length_le_flatMap
  intro link
  have := layout.peerInfo_ge
  rw [link.length_encode]
  omega

theorem radios_length_le (radios : List (RadioStat layout)) :
    radios.length ≤ (encodeRadios radios).length := by
  apply length_le_flatMap
  intro radio
  have := layout.channels_ge
  rw [radio.length_encode]
  omega

theorem rates_length_le (peer : PeerStat layout) : peer.rates.length ≤ peer.encode.length := by
  rw [peer.length_encode]
  have := Nat.le_mul_of_pos_right peer.rates.length layout.rateSize_pos
  omega

theorem channels_length_le (radio : RadioStat layout) :
    radio.channels.length ≤ radio.encode.length := by
  rw [radio.length_encode]
  have := Nat.le_mul_of_pos_right radio.channels.length layout.channelSize_pos
  omega

theorem length_levels_flatten (radio : RadioStat layout) :
    radio.levels.flatten.length = 4 * radio.levels.length := by
  rw [length_flatten_of_forall radio.length_levels, Nat.mul_comm]

end Encode

/-! ## The counts are read back -/

section Read

variable {layout : StatsLayout} {bytes : Bytes}

theorem peerSize_of_holds {peer : PeerStat layout} {pos : ℕ} (hholds : Holds bytes pos peer.encode)
    (hlen : peer.encode.length < 2 ^ 31) : peerSize layout bytes pos = peer.encode.length := by
  have hcount : u32At bytes (pos + layout.numRate) = peer.rates.length := by
    apply u32At_of_holds
    · have := rates_length_le peer
      omega
    · rw [PeerStat.encode, holds_append, holds_append, holds_append] at hholds
      rw [← peer.length_before]
      exact hholds.1.1.2
  rw [peerSize, hcount, peer.length_encode]

theorem peers_of_holds {peers : List (PeerStat layout)} {pos : ℕ}
    (hholds : Holds bytes pos (encodePeers peers)) (hlen : (encodePeers peers).length < 2 ^ 31) :
    PeersFit layout bytes peers.length pos ∧
      peersEnd layout bytes peers.length pos = pos + (encodePeers peers).length := by
  induction peers generalizing pos with
  | nil => exact ⟨trivial, rfl⟩
  | cons peer peers ih =>
    have hcons : encodePeers (peer :: peers) = peer.encode ++ encodePeers peers := rfl
    rw [hcons] at hholds hlen ⊢
    rw [List.length_append] at hlen
    have hparts := (holds_append _ _).mp hholds
    have hsize := peerSize_of_holds hparts.1 (by omega)
    have hrest := ih hparts.2 (by omega)
    rw [List.length_cons, peersEnd_succ, PeersFit, hsize, List.length_append]
    apply And.intro
    · exact ⟨by omega, hrest.1⟩
    · rw [hrest.2, Nat.add_assoc]

theorem links_of_holds {links : List (LinkStat layout)} {pos : ℕ}
    (hholds : Holds bytes pos (encodeLinks links)) (hlen : (encodeLinks links).length < 2 ^ 31) :
    LinksFit layout bytes links.length pos ∧
      linksEnd layout bytes links.length pos = pos + (encodeLinks links).length := by
  induction links generalizing pos with
  | nil => exact ⟨trivial, rfl⟩
  | cons link links ih =>
    have hcons : encodeLinks (link :: links) = link.encode ++ encodeLinks links := rfl
    have hlinkLen := link.length_encode
    rw [hcons] at hholds hlen ⊢
    rw [List.length_append] at hlen
    have hparts := (holds_append _ _).mp hholds
    have hlink := hparts.1
    rw [LinkStat.encode, holds_append, holds_append, holds_append] at hlink
    have hcount : u32At bytes (pos + layout.numPeers) = link.peers.length := by
      apply u32At_of_holds
      · have := peers_length_le link.peers
        omega
      · rw [← link.length_before]
        exact hlink.1.1.2
    have hheader : (link.before ++ le32 link.peers.length ++ link.after).length =
        layout.peerInfo := by
      have hlayout := layout.peerInfo_ge
      have hbefore := link.length_before
      have hafter := link.length_after
      simp only [List.length_append, length_le32]
      omega
    have hpeersHeld := hlink.2
    rw [hheader] at hpeersHeld
    have hpeers := peers_of_holds hpeersHeld (by omega)
    have hrest := ih hparts.2 (by omega)
    have hend : pos + layout.peerInfo + (encodePeers link.peers).length =
        pos + link.encode.length := by omega
    rw [List.length_cons, linksEnd_succ, LinksFit, hcount, hpeers.2, hend, List.length_append]
    apply And.intro
    · exact ⟨hpeers.1, hrest.1⟩
    · rw [hrest.2, Nat.add_assoc]

/-- The two counts of a radio. -/
theorem radioCounts_of_holds {radio : RadioStat layout} {pos : ℕ}
    (hholds : Holds bytes pos radio.encode) (hlen : radio.encode.length < 2 ^ 31)
    (hlevels : radio.levels.length < 2 ^ 31) :
    u32At bytes (pos + layout.numTxLevels) = radio.levels.length ∧
      radioSize layout bytes pos = radio.encode.length := by
  have htx := layout.txTimePerLevels_ge
  have hnum := layout.numChannels_ge
  have hfront := radio.length_front
  have hmiddle := radio.length_middle
  rw [RadioStat.encode, holds_append, holds_append, holds_append, holds_append,
    holds_append] at hholds
  apply And.intro
  · apply u32At_of_holds (by omega)
    rw [← hfront]
    exact hholds.1.1.1.1.2
  · have hcount : u32At bytes (pos + layout.numChannels) = radio.channels.length := by
      apply u32At_of_holds
      · have := channels_length_le radio
        omega
      · have hheld := hholds.1.1.2
        simp only [List.length_append, length_le32] at hheld
        rwa [show pos + (radio.front.length + 4 + radio.middle.length) =
          pos + layout.numChannels by omega] at hheld
    rw [radioSize, hcount, radio.length_encode]

/-- What the walk over encoded radios finds, the first of them after `levels` levels. -/
structure RadiosFound (layout : StatsLayout) (bytes : Bytes) (radios : List (RadioStat layout))
    (pos levels : ℕ) : Prop where
  fit : RadiosFit layout bytes radios.length pos
  ends : radiosEnd layout bytes radios.length pos = pos + (encodeRadios radios).length
  total : 4 * levelsTotal layout bytes radios.length pos = (encodeLevels radios).length
  pointers : ∀ before radio after, radios = before ++ radio :: after →
    ∃ offset, (pos + (encodeRadios before).length + layout.txTimePerLevels, offset) ∈
        radioPointers layout bytes radios.length pos levels ∧
      4 * offset = 4 * levels + (encodeLevels before).length

theorem radios_of_holds {radios : List (RadioStat layout)} {pos : ℕ} (levels : ℕ)
    (hholds : Holds bytes pos (encodeRadios radios)) (hlen : (encodeRadios radios).length < 2 ^ 31)
    (hlevels : (encodeLevels radios).length < 2 ^ 31) :
    RadiosFound layout bytes radios pos levels := by
  induction radios generalizing pos levels with
  | nil =>
    refine ⟨trivial, rfl, rfl, ?_⟩
    intro before radio after hsplit
    exact absurd hsplit (by simp)
  | cons radio radios ih =>
    have hcons : encodeRadios (radio :: radios) = radio.encode ++ encodeRadios radios := rfl
    have hconsLevels : encodeLevels (radio :: radios) =
        radio.levels.flatten ++ encodeLevels radios := rfl
    have hown := length_levels_flatten radio
    rw [hcons] at hholds hlen
    rw [hconsLevels] at hlevels
    rw [List.length_append] at hlen hlevels
    have hparts := (holds_append _ _).mp hholds
    have ⟨hcount, hsize⟩ := radioCounts_of_holds hparts.1 (by omega) (by omega)
    have hrest := ih (levels + radio.levels.length) hparts.2 (by omega) (by omega)
    constructor
    · rw [List.length_cons, RadiosFit, hsize]
      exact ⟨by omega, hrest.fit⟩
    · calc
        _ = radiosEnd layout bytes radios.length (pos + radio.encode.length) := by
          rw [List.length_cons, radiosEnd, hsize]
        _ = pos + radio.encode.length + (encodeRadios radios).length := hrest.ends
        _ = pos + (encodeRadios (radio :: radios)).length := by
          rw [hcons, List.length_append, Nat.add_assoc]
    · calc
        _ = 4 * (radio.levels.length + levelsTotal layout bytes radios.length
            (pos + radio.encode.length)) := by
          rw [List.length_cons, levelsTotal, hsize, hcount]
        _ = radio.levels.flatten.length + (encodeLevels radios).length := by
          rw [Nat.mul_add, hrest.total, hown]
        _ = (encodeLevels (radio :: radios)).length := by
          rw [hconsLevels, List.length_append]
    · intro before item after hsplit
      rw [List.length_cons, radioPointers, hsize, hcount]
      cases before with
      | nil =>
        apply Exists.intro levels
        exact ⟨List.mem_cons_self, rfl⟩
      | cons first before =>
        rw [List.cons_append, List.cons.injEq] at hsplit
        obtain ⟨offset, hmem, hoffset⟩ := hrest.pointers before item after hsplit.2
        have hconsBefore : encodeRadios (first :: before) = radio.encode ++ encodeRadios before := by
          rw [hsplit.1]
          rfl
        have hlevelsBefore : encodeLevels (first :: before) =
            radio.levels.flatten ++ encodeLevels before := by
          rw [hsplit.1]
          rfl
        apply Exists.intro offset
        apply And.intro
        · apply List.mem_cons_of_mem
          rwa [hconsBefore, List.length_append, ← Nat.add_assoc pos]
        · rw [hoffset, hlevelsBefore, List.length_append, hown]
          omega

end Read

/-! ## The whole encoding -/

/-- What the validator is to hand on for an encoding: the number of radios, where they start, and for
each radio a pointer to that radio's own levels. -/
structure SaneStats.Describes {layout : StatsLayout} (sane : SaneStats) (bytes : Bytes)
    (stats : LinkLayerStats layout) : Prop where
  num_radios : sane.num_radios = stats.radios.length
  radios : Holds bytes sane.radio_stats_ptr (encodeRadios stats.radios)
  levels : ∀ before radio after, stats.radios = before ++ radio :: after →
    Holds bytes
      (sane.pointers
        (sane.radio_stats_ptr + (encodeRadios before).length + layout.txTimePerLevels))
      radio.levels.flatten

/-- What the sizes and counts in memory are where it holds an encoding. -/
structure LinkLayerStats.ReadFrom {layout : StatsLayout} (stats : LinkLayerStats layout)
    (bytes : Bytes) : Prop where
  linkCount : linkCount layout bytes = stats.links.length
  radioCount : radioCount layout bytes = stats.radios.length
  radios : Holds bytes (radioCountAt layout bytes + 4) (encodeRadios stats.radios)
  found : RadiosFound layout bytes stats.radios (radioCountAt layout bytes + 4) 0
  levels : Holds bytes (levelsAt layout bytes) (encodeLevels stats.radios)
  fit : SizesFit layout bytes
  ends : statsEnd layout bytes = stats.encode.length

theorem readFrom_of_holds {layout : StatsLayout} {bytes : Bytes} {stats : LinkLayerStats layout}
    (hholds : Holds bytes 0 stats.encode) (hlen : stats.encode.length < 2 ^ 31) :
    stats.ReadFrom bytes := by
  have hlayout := layout.links_ge
  have hbefore := stats.length_before
  have hafter := stats.length_after
  have hlinksLe := links_length_le stats.links
  have hradiosLe := radios_length_le stats.radios
  have hlength : stats.encode.length = layout.links + (encodeLinks stats.links).length + 4 +
      (encodeRadios stats.radios).length + (encodeLevels stats.radios).length := by
    simp only [LinkLayerStats.encode, List.length_append, length_le32]
    omega
  rw [LinkLayerStats.encode, holds_append, holds_append, holds_append, holds_append, holds_append,
    holds_append] at hholds
  simp only [List.length_append, length_le32, Nat.zero_add] at hholds
  have ⟨⟨⟨⟨⟨⟨_, hcountHeld⟩, _⟩, hlinksHeld⟩, hradioCountHeld⟩, hradiosHeld⟩, hlevelsHeld⟩ := hholds
  rw [hbefore] at hcountHeld
  have hlinkCount : linkCount layout bytes = stats.links.length := by
    rw [linkCount, u32At_of_holds (by omega) hcountHeld, asInt_of_lt (by omega)]
  have hheader : stats.before.length + 4 + stats.after.length = layout.links := by omega
  rw [hheader] at hlinksHeld hradioCountHeld hradiosHeld hlevelsHeld
  have hfoundLinks := links_of_holds hlinksHeld (by omega)
  have hcountAt : radioCountAt layout bytes = layout.links + (encodeLinks stats.links).length := by
    rw [radioCountAt, hlinkCount]
    exact hfoundLinks.2
  have hradioCount : radioCount layout bytes = stats.radios.length := by
    rw [radioCount, hcountAt]
    exact u32At_of_holds (by omega) hradioCountHeld
  rw [← hcountAt] at hradiosHeld hlevelsHeld
  have hfound := radios_of_holds 0 hradiosHeld (by omega) (by omega)
  have hlevelsAt : levelsAt layout bytes =
      radioCountAt layout bytes + 4 + (encodeRadios stats.radios).length := by
    rw [levelsAt, hradioCount, hfound.ends]
  have hlevelCount : 4 * levelCount layout bytes = (encodeLevels stats.radios).length := by
    rw [levelCount, hradioCount]
    exact hfound.total
  rw [← hlevelsAt] at hlevelsHeld
  refine ⟨hlinkCount, hradioCount, hradiosHeld, hfound, hlevelsHeld, ?_, ?_⟩
  · constructor
    · rw [hlinkCount]
      exact hfoundLinks.1
    · rw [hradioCount]
      exact hfound.fit
    · omega
  · rw [statsEnd, hlevelsAt, hlevelCount, hcountAt]
    omega

theorem accepts_encoding {layout : StatsLayout} {bytes : Bytes} {len : ℕ}
    (stats : LinkLayerStats layout) (hlinks : stats.links ≠ []) (hlen : len < 2 ^ 31)
    (hholds : Holds bytes 0 stats.encode) (hinside : stats.encode.length ≤ len)
    (dangling : ℕ → ℕ) :
    ∃ sane, checkDataSanity layout bytes len dangling = some sane ∧ sane.Describes bytes stats := by
  have hread := readFrom_of_holds hholds (by omega)
  apply Exists.intro (saneStats layout bytes dangling)
  apply And.intro
  · have hpos : 0 < stats.links.length := List.length_pos_iff.mpr hlinks
    have hend : statsEnd layout bytes ≤ len := hread.ends ▸ hinside
    rw [checkDataSanity_eq hlen hread.fit, if_pos (by rw [hread.linkCount]; omega), within_of_le hend]
  · constructor
    · exact hread.radioCount
    · exact hread.radios
    · intro before radio after hsplit
      obtain ⟨offset, hmem, hoffset⟩ := hread.found.pointers before radio after hsplit
      rw [← hread.radioCount] at hmem
      have hpointer := saneStats_pointers dangling hmem
      have hptr : (saneStats layout bytes dangling).radio_stats_ptr =
          radioCountAt layout bytes + 4 := rfl
      rw [hptr, hpointer]
      have hsplitLevels : encodeLevels stats.radios =
          encodeLevels before ++ (radio.levels.flatten ++ encodeLevels after) := by
        rw [hsplit]
        simp only [encodeLevels, List.flatMap_append, List.flatMap_cons]
      have hlevelsHeld := hread.levels
      rw [hsplitLevels, holds_append, holds_append] at hlevelsHeld
      have hown := hlevelsHeld.2.1
      rwa [show 4 * offset = (encodeLevels before).length by omega]

/-! ## Soundness and completeness -/

/-- Whatever the validator accepts holds every entry that the walk reaches. -/
def SoundOn (layout : StatsLayout) (bytes : Bytes) (len : ℕ) (dangling : ℕ → ℕ) : Prop :=
  ∀ sane, checkDataSanity layout bytes len dangling = some sane →
    ∀ region ∈ walkStats layout bytes sane, region.EndsBy len

/-- A buffer that is the encoding of the statistics is accepted and described. -/
def CompleteOn {layout : StatsLayout} (bytes : Bytes) (len : ℕ) (dangling : ℕ → ℕ)
    (stats : LinkLayerStats layout) : Prop :=
  Holds bytes 0 stats.encode → stats.encode.length = len →
    ∃ sane, checkDataSanity layout bytes len dangling = some sane ∧ sane.Describes bytes stats

/-- The validator is sound on every buffer whose sizes fit the variables they are stored in, and
complete for every encoding that has a link. -/
theorem stats_validated (layout : StatsLayout) (bytes : Bytes) (len : ℕ) (hlen : len < 2 ^ 31)
    (dangling : ℕ → ℕ) :
    (SizesFit layout bytes → SoundOn layout bytes len dangling) ∧
      ∀ stats : LinkLayerStats layout, stats.links ≠ [] → CompleteOn bytes len dangling stats := by
  apply And.intro
  · intro hfit sane haccepted
    exact walkStats_endsBy_of_accepted hlen hfit haccepted
  · intro stats hlinks hholds hlength
    exact accepts_encoding stats hlinks hlen hholds (Nat.le_of_eq hlength) dangling

/-- A layout with no fields but the counts and the pointer. -/
def bareLayout : StatsLayout where
  numLinks := 0
  links := 4
  numPeers := 0
  peerInfo := 4
  numRate := 0
  rateStats := 4
  rateSize := 32
  numTxLevels := 0
  txTimePerLevels := 4
  numChannels := 12
  channels := 16
  channelSize := 4
  links_ge := by decide
  peerInfo_ge := by decide
  rateStats_ge := by decide
  txTimePerLevels_ge := by decide
  numChannels_ge := by decide
  channels_ge := by decide
  headers_lt := by decide
  rateSize_pos := by decide
  channelSize_pos := by decide

def rateOf (value : UInt8) : List UInt8 := List.replicate 32 value

/-- Two links, three peers with two rates, one and none, and two radios with channels and levels. -/
def twoLinkStats : LinkLayerStats bareLayout where
  before := []
  after := []
  links :=
    [⟨[], [], [⟨[], [], [rateOf 1, rateOf 2], rfl, rfl, by decide⟩], rfl, rfl⟩,
      ⟨[], [], [⟨[], [], [rateOf 3], rfl, rfl, by decide⟩, ⟨[], [], [], rfl, rfl, by decide⟩], rfl, rfl⟩]
  radios :=
    [⟨[], List.replicate 8 0xff, [], [le32 2412], [le32 10, le32 20], rfl, rfl, rfl, by decide, by decide⟩,
      ⟨[], List.replicate 8 0xff, [], [le32 5180, le32 5200], [le32 30], rfl, rfl, rfl, by decide,
        by decide⟩]
  length_before := rfl
  length_after := rfl

def twoLinkBytes : Bytes := fun pos ↦ twoLinkStats.encode.getD pos 0

theorem twoLinkStats_validated :
    SoundOn bareLayout twoLinkBytes 180 id ∧
      ∃ sane, checkDataSanity bareLayout twoLinkBytes 180 id = some sane ∧
        sane.Describes twoLinkBytes twoLinkStats := by
  have hholds : Holds twoLinkBytes 0 twoLinkStats.encode := holds_getD twoLinkStats.encode
  have hlength : twoLinkStats.encode.length = 180 := rfl
  have hread := readFrom_of_holds hholds (by rw [hlength]; decide)
  have hvalidated := stats_validated bareLayout twoLinkBytes 180 (by decide) id
  exact ⟨hvalidated.1 hread.fit, hvalidated.2 twoLinkStats (List.cons_ne_nil _ _) hholds hlength⟩

/-- One link with one peer that claims `2 ^ 27` rates: together they take a multiple of `2 ^ 32`. -/
def wrappingBytes : Bytes := fun pos ↦ [1, 0, 0, 0, 1, 0, 0, 0, 0, 0, 0, 8].getD pos 0

def noLinkStats : LinkLayerStats bareLayout where
  before := []
  after := []
  links := []
  radios := []
  length_before := rfl
  length_after := rfl

/-- The wrapped size is accepted although the first rate lies past the end, and the encoding without
links is rejected. -/
theorem not_validated_wrapping_noLink :
    ¬ SoundOn bareLayout wrappingBytes 16 id ∧ ¬ CompleteOn (fun _ ↦ 0) 8 id noLinkStats := by
  apply And.intro
  · intro hsound
    have haccepted : (checkDataSanity bareLayout wrappingBytes 16 id).isSome = true := by decide
    obtain ⟨sane, hsane⟩ := Option.isSome_iff_exists.mp haccepted
    have hrate : (⟨12, 32⟩ : Region) ∈ walkStats bareLayout wrappingBytes sane := by
      have hfirst : (⟨12, 32⟩ : Region) ∈ entryRegions 12 32 (2 ^ 27) := by
        apply List.mem_map.mpr
        exact ⟨0, List.mem_range.mpr (by decide), rfl⟩
      have hpeers : (⟨12, 32⟩ : Region) ∈ (walkPeers bareLayout wrappingBytes 1 8).1 := by
        apply List.mem_append_left
        apply List.mem_cons_of_mem
        exact hfirst
      have hlinks : (⟨12, 32⟩ : Region) ∈ (walkLinks bareLayout wrappingBytes 1 4).1 := by
        apply List.mem_append_left
        apply List.mem_cons_of_mem
        exact hpeers
      apply List.mem_append_left
      apply List.mem_cons_of_mem
      exact hlinks
    exact absurd (hsound sane hsane ⟨12, 32⟩ hrate) (by decide)
  · intro hcomplete
    have hholds : Holds (fun _ ↦ 0) 0 noLinkStats.encode := by
      intro k hk
      have hzero : noLinkStats.encode = List.replicate 8 0 := rfl
      have hmem : noLinkStats.encode[k] ∈ List.replicate 8 0 := by
        rw [← hzero]
        exact List.getElem_mem hk
      exact (List.eq_of_mem_replicate hmem).symm
    obtain ⟨sane, hsane, _⟩ := hcomplete hholds rfl
    have hrejected : (checkDataSanity bareLayout (fun _ ↦ 0) 8 id).isSome = false := by decide
    rw [hsane] at hrejected
    exact absurd hrejected (by simp)

end HardwareMediatek.Wifi
