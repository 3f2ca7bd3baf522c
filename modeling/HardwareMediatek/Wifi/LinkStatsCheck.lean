import HardwareMediatek.Wifi.LinkStats

/-!
# What the statistics validator accepts

The validator computes the sizes it adds up in 32 bits. As long as each of them fits the variable it
is stored in, the validator accepts exactly the buffers inside which the walk over the structure ends,
and patches the pointer of each radio to its own part of the level table.
-/

namespace HardwareMediatek.Wifi

open Foundation

section Sizes

variable (layout : StatsLayout) (bytes : Bytes)

def peerSize (pos : ℕ) : ℕ :=
  layout.rateStats + u32At bytes (pos + layout.numRate) * layout.rateSize

def radioSize (pos : ℕ) : ℕ :=
  layout.channels + u32At bytes (pos + layout.numChannels) * layout.channelSize

/-- The size of every peer fits an `int`. -/
def PeersFit : ℕ → ℕ → Prop
  | 0, _ => True
  | left + 1, pos => peerSize layout bytes pos < 2 ^ 31 ∧ PeersFit left (pos + peerSize layout bytes pos)

def peersEnd (count pos : ℕ) : ℕ := (walkPeers layout bytes count pos).2

def LinksFit : ℕ → ℕ → Prop
  | 0, _ => True
  | left + 1, pos =>
      PeersFit layout bytes (u32At bytes (pos + layout.numPeers)) (pos + layout.peerInfo) ∧
        LinksFit left
          (peersEnd layout bytes (u32At bytes (pos + layout.numPeers)) (pos + layout.peerInfo))

def linksEnd (count pos : ℕ) : ℕ := (walkLinks layout bytes count pos).2

/-- The size of every radio fits an `int`. -/
def RadiosFit : ℕ → ℕ → Prop
  | 0, _ => True
  | left + 1, pos =>
      radioSize layout bytes pos < 2 ^ 31 ∧ RadiosFit left (pos + radioSize layout bytes pos)

def radiosEnd : ℕ → ℕ → ℕ
  | 0, pos => pos
  | left + 1, pos => radiosEnd left (pos + radioSize layout bytes pos)

/-- The number of levels of some radios together. -/
def levelsTotal : ℕ → ℕ → ℕ
  | 0, _ => 0
  | left + 1, pos =>
      u32At bytes (pos + layout.numTxLevels) + levelsTotal left (pos + radioSize layout bytes pos)

/-- The pointer field of each radio, with the number of levels of the radios before it. -/
def radioPointers : ℕ → ℕ → ℕ → List (ℕ × ℕ)
  | 0, _, _ => []
  | left + 1, pos, levels =>
      (pos + layout.txTimePerLevels, levels) ::
        radioPointers left (pos + radioSize layout bytes pos)
          (levels + u32At bytes (pos + layout.numTxLevels))

def linkCount : ℤ := asInt (u32At bytes layout.numLinks)

/-- Where `num_radios` is. -/
def radioCountAt : ℕ := linksEnd layout bytes (linkCount layout bytes).toNat layout.links

def radioCount : ℕ := u32At bytes (radioCountAt layout bytes)

def levelsAt : ℕ := radiosEnd layout bytes (radioCount layout bytes) (radioCountAt layout bytes + 4)

def levelCount : ℕ :=
  levelsTotal layout bytes (radioCount layout bytes) (radioCountAt layout bytes + 4)

def statsEnd : ℕ := levelsAt layout bytes + 4 * levelCount layout bytes

/-- Every size that the validator stores in 32 bits fits there. -/
structure SizesFit : Prop where
  links : LinksFit layout bytes (linkCount layout bytes).toNat layout.links
  radios : RadiosFit layout bytes (radioCount layout bytes) (radioCountAt layout bytes + 4)
  levels : levelCount layout bytes < 2 ^ 32

/-- The outcome of the validator on an accepted buffer. -/
def saneStats (dangling : ℕ → ℕ) : SaneStats where
  num_radios := radioCount layout bytes
  radio_stats_ptr := radioCountAt layout bytes + 4
  pointers := backPatch (levelsAt layout bytes) dangling
    (radioPointers layout bytes (radioCount layout bytes) (radioCountAt layout bytes + 4) 0)

end Sizes

/-! ## The loops of the validator -/

section Loops

variable {layout : StatsLayout} {bytes : Bytes} {len : ℕ}

theorem addExpected_eq {confirmed_size size : ℕ} (hconfirmed : confirmed_size < 2 ^ 31)
    (hsize : size < 2 ^ 31) : addExpected confirmed_size (asInt size) = confirmed_size + size := by
  rw [addExpected, asInt_of_lt hsize]
  omega

@[simp]
theorem peersEnd_zero (pos : ℕ) : peersEnd layout bytes 0 pos = pos := rfl

theorem peersEnd_succ (left pos : ℕ) :
    peersEnd layout bytes (left + 1) pos =
      peersEnd layout bytes left (pos + peerSize layout bytes pos) := by
  simp only [peersEnd, walkPeers, peerSize, Nat.add_assoc]

@[simp]
theorem linksEnd_zero (pos : ℕ) : linksEnd layout bytes 0 pos = pos := rfl

theorem linksEnd_succ (left pos : ℕ) :
    linksEnd layout bytes (left + 1) pos =
      linksEnd layout bytes left
        (peersEnd layout bytes (u32At bytes (pos + layout.numPeers)) (pos + layout.peerInfo)) := rfl

variable (layout bytes)

theorem le_peersEnd (count pos : ℕ) : pos ≤ peersEnd layout bytes count pos := by
  induction count generalizing pos with
  | zero => exact Nat.le_refl pos
  | succ left ih =>
    rw [peersEnd_succ]
    calc
      pos ≤ pos + peerSize layout bytes pos := Nat.le_add_right _ _
      _ ≤ peersEnd layout bytes left (pos + peerSize layout bytes pos) := ih _

theorem le_linksEnd (count pos : ℕ) : pos ≤ linksEnd layout bytes count pos := by
  induction count generalizing pos with
  | zero => exact Nat.le_refl pos
  | succ left ih =>
    rw [linksEnd_succ]
    calc
      pos ≤ pos + layout.peerInfo := Nat.le_add_right _ _
      _ ≤ peersEnd layout bytes (u32At bytes (pos + layout.numPeers)) (pos + layout.peerInfo) :=
        le_peersEnd layout bytes _ _
      _ ≤ linksEnd layout bytes left _ := ih _

theorem le_radiosEnd (count pos : ℕ) : pos ≤ radiosEnd layout bytes count pos := by
  induction count generalizing pos with
  | zero => exact Nat.le_refl pos
  | succ left ih =>
    rw [radiosEnd]
    calc
      pos ≤ pos + radioSize layout bytes pos := Nat.le_add_right _ _
      _ ≤ radiosEnd layout bytes left (pos + radioSize layout bytes pos) := ih _

variable {layout bytes}

/-- The outcome of a part of the check that ends at `stop`. -/
def within {α : Type} (len stop : ℕ) (result : α) : Option α :=
  if stop ≤ len then some result else none

theorem within_of_le {α : Type} {stop : ℕ} {result : α} (hstop : stop ≤ len) :
    within len stop result = some result := if_pos hstop

theorem within_of_lt {α : Type} {stop : ℕ} {result : α} (hstop : len < stop) :
    within len stop result = none := if_neg (by omega)

theorem checkPeers_eq (hlen : len < 2 ^ 31) {count pos : ℕ} (hpos : pos ≤ len)
    (hfit : PeersFit layout bytes count pos) :
    checkPeers layout bytes len count pos pos =
      within len (peersEnd layout bytes count pos) (peersEnd layout bytes count pos) := by
  induction count generalizing pos with
  | zero => rw [peersEnd_zero, within_of_le hpos, checkPeers]
  | succ left ih =>
    have hsize := hfit.1
    have hexpected : peerExpectedSize layout bytes pos = asInt (peerSize layout bytes pos) := rfl
    have hsum := addExpected_eq (Nat.lt_of_le_of_lt hpos hlen) hsize
    have hheader : layout.rateStats ≤ peerSize layout bytes pos := Nat.le_add_right _ _
    have hend := le_peersEnd layout bytes left (pos + peerSize layout bytes pos)
    simp only [checkPeers, peersEnd_succ, hexpected, hsum]
    by_cases hinside : pos + peerSize layout bytes pos ≤ len
    · rw [if_neg (by omega), if_neg (by omega), asInt_of_lt hsize]
      exact ih hinside hfit.2
    · rw [within_of_lt (by omega)]
      split
      · rfl
      · rw [if_pos (by omega)]

theorem checkLinks_eq (hlen : len < 2 ^ 31) {count pos : ℕ} (hpos : pos ≤ len)
    (hfit : LinksFit layout bytes count pos) :
    checkLinks layout bytes len count pos =
      within len (linksEnd layout bytes count pos) (linksEnd layout bytes count pos) := by
  induction count generalizing pos with
  | zero => rw [linksEnd_zero, within_of_le hpos, checkLinks]
  | succ left ih =>
    have hpeers := le_peersEnd layout bytes
      (u32At bytes (pos + layout.numPeers)) (pos + layout.peerInfo)
    have hlinks := le_linksEnd layout bytes left
      (peersEnd layout bytes (u32At bytes (pos + layout.numPeers)) (pos + layout.peerInfo))
    rw [checkLinks, linksEnd_succ]
    by_cases hheader : pos + layout.peerInfo ≤ len
    · rw [if_neg (by omega), checkPeers_eq hlen hheader hfit.1]
      by_cases hinside : peersEnd layout bytes (u32At bytes (pos + layout.numPeers))
          (pos + layout.peerInfo) ≤ len
      · rw [within_of_le hinside]
        exact ih hinside hfit.2
      · rw [within_of_lt (by omega), within_of_lt (by omega)]
    · rw [if_pos (by omega), within_of_lt (by omega)]

/-- The loop over the radios, once the positions and the level counts are known to be exact. -/
theorem checkRadios_eq (hlen : len < 2 ^ 31) (levels : ℕ) (pointers : List (ℕ × ℕ))
    {count pos : ℕ} (hpos : pos ≤ len) (hfit : RadiosFit layout bytes count pos)
    (hlevels : levels + levelsTotal layout bytes count pos < 2 ^ 32) :
    checkRadios layout bytes len count
        { confirmed_size := pos, current_radio_stat := pos, total_num_tx_levels := levels
          pointers := pointers } =
      within len (radiosEnd layout bytes count pos)
        { confirmed_size := radiosEnd layout bytes count pos
          current_radio_stat := radiosEnd layout bytes count pos
          total_num_tx_levels := levels + levelsTotal layout bytes count pos
          pointers := pointers ++ radioPointers layout bytes count pos levels } := by
  induction count generalizing pos levels pointers with
  | zero => simp [checkRadios, radiosEnd, levelsTotal, radioPointers, within_of_le hpos]
  | succ left ih =>
    have hsize := hfit.1
    have hexpected : radioExpectedSize layout bytes pos = asInt (radioSize layout bytes pos) := rfl
    have hsum := addExpected_eq (Nat.lt_of_le_of_lt hpos hlen) hsize
    have hheader : layout.channels ≤ radioSize layout bytes pos := Nat.le_add_right _ _
    have hend := le_radiosEnd layout bytes left
      (pos + radioSize layout bytes pos)
    rw [levelsTotal] at hlevels
    have hnext : RadioScan.next layout bytes
        { confirmed_size := pos, current_radio_stat := pos, total_num_tx_levels := levels
          pointers := pointers } =
        { confirmed_size := pos + radioSize layout bytes pos
          current_radio_stat := pos + radioSize layout bytes pos
          total_num_tx_levels := levels + u32At bytes (pos + layout.numTxLevels)
          pointers := pointers ++ [(pos + layout.txTimePerLevels, levels)] } := by
      have htotal : (levels + u32At bytes (pos + layout.numTxLevels)) % 2 ^ 32 =
          levels + u32At bytes (pos + layout.numTxLevels) := Nat.mod_eq_of_lt (by omega)
      have hcurrent : ((pos : ℤ) + asInt (radioSize layout bytes pos)).toNat =
          pos + radioSize layout bytes pos := by
        rw [asInt_of_lt hsize]
        omega
      simp only [RadioScan.next, hexpected, hsum, htotal, hcurrent]
    rw [checkRadios, hnext, radiosEnd, levelsTotal, radioPointers]
    by_cases hinside : pos + radioSize layout bytes pos ≤ len
    · rw [if_neg (by simp only; omega), if_neg (by simp only; omega),
        ih _ _ hinside hfit.2 (by omega)]
      simp only [List.append_assoc, List.cons_append, List.nil_append, Nat.add_assoc]
    · rw [within_of_lt (by omega)]
      split
      · rfl
      · rw [if_pos (by simp only; omega)]

theorem checkTail_eq (hlen : len < 2 ^ 31) (hfit : SizesFit layout bytes) (dangling : ℕ → ℕ) :
    checkTail layout bytes len dangling (radioCountAt layout bytes) =
      within len (statsEnd layout bytes) (saneStats layout bytes dangling) := by
  have hend := le_radiosEnd layout bytes (radioCount layout bytes) (radioCountAt layout bytes + 4)
  have hlevels := hfit.levels
  simp only [statsEnd, levelsAt, levelCount] at *
  rw [checkTail]
  by_cases hinside : radioCountAt layout bytes + 4 ≤ len
  · have hradios := checkRadios_eq hlen 0 [] hinside hfit.radios (by omega)
    rw [if_neg (by omega)]
    simp only [radioCount] at *
    rw [hradios]
    by_cases hall : radiosEnd layout bytes (u32At bytes (radioCountAt layout bytes))
        (radioCountAt layout bytes + 4) ≤ len
    · rw [within_of_le hall]
      simp only [within, Nat.zero_add, List.nil_append]
      split
      · rw [if_neg (by omega)]
      · rw [if_pos (by omega)]
        rfl
    · rw [within_of_lt (by omega), within_of_lt (by omega)]
  · rw [if_pos (by omega), within_of_lt (by omega)]

/-- When its sizes fit, a buffer is accepted exactly when it has links and the statistics end inside
it. -/
theorem checkDataSanity_eq (hlen : len < 2 ^ 31) (hfit : SizesFit layout bytes) (dangling : ℕ → ℕ) :
    checkDataSanity layout bytes len dangling =
      if 0 < linkCount layout bytes then
        within len (statsEnd layout bytes) (saneStats layout bytes dangling)
      else none := by
  have hlinks := le_linksEnd layout bytes (linkCount layout bytes).toNat layout.links
  have hradios := le_radiosEnd layout bytes (radioCount layout bytes)
    (radioCountAt layout bytes + 4)
  have hcountAt : linksEnd layout bytes (linkCount layout bytes).toNat layout.links =
      radioCountAt layout bytes := rfl
  have hstats : radioCountAt layout bytes + 4 ≤ statsEnd layout bytes :=
    Nat.le_trans hradios (Nat.le_add_right _ _)
  rw [hcountAt] at hlinks
  rw [checkDataSanity]
  by_cases hheader : layout.links ≤ len
  · have hcheckLinks := checkLinks_eq hlen hheader hfit.links
    rw [hcountAt] at hcheckLinks
    rw [if_neg (by omega)]
    by_cases hcount : 0 < linkCount layout bytes
    · rw [if_pos hcount]
      rw [linkCount] at hcount hcheckLinks
      simp only [if_neg (Int.not_le.mpr hcount), hcheckLinks]
      by_cases hinside : radioCountAt layout bytes ≤ len
      · rw [within_of_le hinside]
        exact checkTail_eq hlen hfit dangling
      · rw [within_of_lt (by omega), within_of_lt (by omega)]
    · rw [if_neg hcount]
      rw [linkCount] at hcount
      simp only [if_pos (Int.not_lt.mp hcount)]
  · rw [if_pos (by omega)]
    split
    · rw [within_of_lt (by omega)]
    · rfl

end Loops

/-! ## The walk stays inside what was accepted -/

section Walk

variable {layout : StatsLayout} {bytes : Bytes}

theorem entryRegions_le {start size count : ℕ} {region : Region}
    (hregion : region ∈ entryRegions start size count) :
    region.start + region.size ≤ start + count * size := by
  simp only [entryRegions, List.mem_map, List.mem_range] at hregion
  obtain ⟨k, hk, rfl⟩ := hregion
  have hentries : size * (k + 1) ≤ size * count := Nat.mul_le_mul_left size hk
  rw [Nat.mul_add, Nat.mul_one] at hentries
  rw [Nat.mul_comm count size]
  simp only
  omega

theorem walkPeers_le {count pos : ℕ} {region : Region}
    (hregion : region ∈ (walkPeers layout bytes count pos).1) :
    region.start + region.size ≤ peersEnd layout bytes count pos := by
  induction count generalizing pos with
  | zero => simp [walkPeers] at hregion
  | succ left ih =>
    have hend := le_peersEnd layout bytes left (pos + peerSize layout bytes pos)
    have hsize : peerSize layout bytes pos = layout.rateStats +
      u32At bytes (pos + layout.numRate) * layout.rateSize := rfl
    rw [peersEnd_succ]
    simp only [walkPeers, List.mem_append, List.mem_cons] at hregion
    rcases hregion with (hheader | hrates) | hrest
    · rw [hheader]
      simp only
      omega
    · have := entryRegions_le hrates
      omega
    · apply ih
      rwa [hsize, ← Nat.add_assoc]

theorem walkLinks_le {count pos : ℕ} {region : Region}
    (hregion : region ∈ (walkLinks layout bytes count pos).1) :
    region.start + region.size ≤ linksEnd layout bytes count pos := by
  induction count generalizing pos with
  | zero => simp [walkLinks] at hregion
  | succ left ih =>
    have hpeers := le_peersEnd layout bytes (u32At bytes (pos + layout.numPeers))
      (pos + layout.peerInfo)
    have hend := le_linksEnd layout bytes left
      (peersEnd layout bytes (u32At bytes (pos + layout.numPeers)) (pos + layout.peerInfo))
    rw [linksEnd_succ]
    simp only [walkLinks, List.mem_append, List.mem_cons] at hregion
    rcases hregion with (hheader | hinner) | hrest
    · rw [hheader]
      simp only
      omega
    · exact Nat.le_trans (walkPeers_le hinner) hend
    · exact ih hrest

/-- The radios end by `radiosEnd`, and their levels by the end of the level table, once every pointer
field holds the place of its radio's levels in the table. -/
theorem walkRadios_le {pointers : ℕ → ℕ} {table count pos levels : ℕ} {region : Region}
    (hpointers : ∀ pointer ∈ radioPointers layout bytes count pos levels,
      pointers pointer.1 = table + 4 * pointer.2)
    (htable : radiosEnd layout bytes count pos ≤ table)
    (hregion : region ∈ (walkRadios layout bytes pointers count pos).1) :
    region.start + region.size ≤ table + 4 * (levels + levelsTotal layout bytes count pos) := by
  induction count generalizing pos levels with
  | zero => simp [walkRadios] at hregion
  | succ left ih =>
    have hend := le_radiosEnd layout bytes left (pos + radioSize layout bytes pos)
    have hsize : radioSize layout bytes pos = layout.channels +
      u32At bytes (pos + layout.numChannels) * layout.channelSize := rfl
    rw [radiosEnd] at htable
    rw [levelsTotal]
    simp only [radioPointers, List.forall_mem_cons] at hpointers
    simp only [walkRadios, List.mem_append, List.mem_cons] at hregion
    rcases hregion with ((hheader | hchannels) | hlevels) | hrest
    · rw [hheader]
      simp only
      omega
    · have := entryRegions_le hchannels
      omega
    · have := entryRegions_le hlevels
      rw [hpointers.1] at this
      omega
    · have hstep := ih hpointers.2 htable (by rwa [hsize, ← Nat.add_assoc])
      omega

theorem le_of_mem_radioPointers {count pos levels : ℕ} {pointer : ℕ × ℕ}
    (hpointer : pointer ∈ radioPointers layout bytes count pos levels) :
    pos + layout.txTimePerLevels ≤ pointer.1 := by
  induction count generalizing pos levels with
  | zero => simp [radioPointers] at hpointer
  | succ left ih =>
    simp only [radioPointers, List.mem_cons] at hpointer
    cases hpointer with
    | inl hhead =>
      exact Nat.le_of_eq (congrArg Prod.fst hhead).symm
    | inr htail =>
      have := ih htail
      omega

/-- The pointer fields are in different places. -/
theorem radioPointers_nodup (count pos levels : ℕ) :
    (radioPointers layout bytes count pos levels).Pairwise fun first second ↦
      first.1 < second.1 := by
  induction count generalizing pos levels with
  | zero => exact List.Pairwise.nil
  | succ left ih =>
    rw [radioPointers]
    apply List.Pairwise.cons
    · intro pointer hpointer
      have hle := le_of_mem_radioPointers hpointer
      have hsize : layout.channels ≤ radioSize layout bytes pos := Nat.le_add_right _ _
      have hlayout := layout.numChannels_ge
      have hchannels := layout.channels_ge
      simp only
      omega
    · exact ih _ _

/-- A patched field holds its patch when the fields are in different places. -/
theorem backPatch_of_mem {table : ℕ} {dangling : ℕ → ℕ} {pointers : List (ℕ × ℕ)}
    (hpointers : pointers.Pairwise fun first second ↦ first.1 < second.1) {pointer : ℕ × ℕ}
    (hpointer : pointer ∈ pointers) :
    backPatch table dangling pointers pointer.1 = table + 4 * pointer.2 := by
  induction pointers using List.reverseRecOn with
  | nil => simp at hpointer
  | append_singleton pointers last ih =>
    have hsplit := List.pairwise_append.mp hpointers
    simp only [backPatch, List.foldl_append, List.foldl_cons, List.foldl_nil]
    rw [List.mem_append, List.mem_singleton] at hpointer
    cases hpointer with
    | inl hbefore =>
      have hlt := hsplit.2.2 pointer hbefore last (List.mem_singleton_self last)
      rw [Function.update_of_ne (by omega)]
      exact ih hsplit.1 hbefore
    | inr hlast =>
      rw [hlast, Function.update_self]

theorem saneStats_pointers (dangling : ℕ → ℕ) {pointer : ℕ × ℕ}
    (hpointer : pointer ∈ radioPointers layout bytes (radioCount layout bytes)
      (radioCountAt layout bytes + 4) 0) :
    (saneStats layout bytes dangling).pointers pointer.1 =
      levelsAt layout bytes + 4 * pointer.2 :=
  backPatch_of_mem (radioPointers_nodup _ _ _) hpointer

theorem walkStats_le {dangling : ℕ → ℕ} {region : Region}
    (hregion : region ∈ walkStats layout bytes (saneStats layout bytes dangling)) :
    region.start + region.size ≤ statsEnd layout bytes := by
  have hlinks := le_linksEnd layout bytes (linkCount layout bytes).toNat layout.links
  have hradios := le_radiosEnd layout bytes (radioCount layout bytes)
    (radioCountAt layout bytes + 4)
  have hcountAt : linksEnd layout bytes (linkCount layout bytes).toNat layout.links =
      radioCountAt layout bytes := rfl
  have hstats : statsEnd layout bytes = radiosEnd layout bytes (radioCount layout bytes)
      (radioCountAt layout bytes + 4) + 4 * levelCount layout bytes := rfl
  simp only [walkStats, List.mem_append, List.mem_cons] at hregion
  rcases hregion with (hheader | hinner) | hradio
  · rw [hheader]
    simp only
    omega
  · have := walkLinks_le hinner
    have hcount : (asInt (u32At bytes layout.numLinks)).toNat = (linkCount layout bytes).toNat := rfl
    rw [hcount] at this
    omega
  · have := walkRadios_le (fun pointer hpointer ↦ saneStats_pointers dangling hpointer)
      (Nat.le_refl _) hradio
    rw [Nat.zero_add] at this
    exact this

/-- An accepted buffer whose sizes fit holds every entry that the walk reaches. -/
theorem walkStats_endsBy_of_accepted {len : ℕ} (hlen : len < 2 ^ 31) (hfit : SizesFit layout bytes)
    {dangling : ℕ → ℕ} {stats : SaneStats}
    (haccepted : checkDataSanity layout bytes len dangling = some stats) :
    ∀ region ∈ walkStats layout bytes stats, region.EndsBy len := by
  intro region hregion
  rw [checkDataSanity_eq hlen hfit] at haccepted
  split at haccepted
  · by_cases hend : statsEnd layout bytes ≤ len
    · rw [within_of_le hend] at haccepted
      rw [← Option.some.inj haccepted] at hregion
      exact Or.inr (Nat.le_trans (walkStats_le hregion) hend)
    · rw [within_of_lt (by omega)] at haccepted
      exact absurd haccepted (by simp)
  · exact absurd haccepted (by simp)

end Walk

end HardwareMediatek.Wifi
