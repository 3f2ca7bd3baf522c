import HardwareMediatek.Foundation.ByteMemory
import HardwareMediatek.Foundation.CIntegers
import Mathlib.Logic.Function.Basic

/-!
# Link-layer statistics

`GetLinkStatsCommand`: the validator of the vendor data, and the walk over the validated structure
that the dump functions and the callback of the framework make. The data is
`[wifi_iface_ml_stat][num_radios][wifi_radio_stat list][tx_time_per_levels list]`, with links, peers
and rates nested in the first part and channels in the third. Field offsets and sizes are those of
the framework header. The pointer fields are kept beside the bytes: a pointer is the offset in the
buffer of what it points to.
-/

namespace HardwareMediatek.Wifi

open Foundation

/-- Offsets and sizes of the structures, every count a 32-bit field inside its header. -/
structure StatsLayout where
  /-- `offsetof(wifi_iface_ml_stat, num_links)` and `links` -/
  numLinks : ℕ
  links : ℕ
  /-- `offsetof(wifi_link_stat, num_peers)` and `peer_info` -/
  numPeers : ℕ
  peerInfo : ℕ
  /-- `offsetof(wifi_peer_info, num_rate)` and `rate_stats` -/
  numRate : ℕ
  rateStats : ℕ
  /-- `sizeof(wifi_rate_stat)` -/
  rateSize : ℕ
  /-- `offsetof(wifi_radio_stat, num_tx_levels)`, `tx_time_per_levels`, `num_channels` and `channels` -/
  numTxLevels : ℕ
  txTimePerLevels : ℕ
  numChannels : ℕ
  channels : ℕ
  /-- `sizeof(wifi_channel_stat)` -/
  channelSize : ℕ
  links_ge : numLinks + 4 ≤ links
  peerInfo_ge : numPeers + 4 ≤ peerInfo
  rateStats_ge : numRate + 4 ≤ rateStats
  txTimePerLevels_ge : numTxLevels + 4 ≤ txTimePerLevels
  numChannels_ge : txTimePerLevels + 8 ≤ numChannels
  channels_ge : numChannels + 4 ≤ channels
  headers_lt : rateStats < 2 ^ 16 ∧ channels < 2 ^ 16
  rateSize_pos : 0 < rateSize
  channelSize_pos : 0 < channelSize

section Check

variable (layout : StatsLayout) (bytes : Bytes) (len : ℕ)

/-- `confirmed_size + expected_size`, an unsigned sum of 32 bits. -/
def addExpected (confirmed_size : ℕ) (expected_size : ℤ) : ℕ :=
  ((confirmed_size + expected_size) % 2 ^ 32).toNat

/-- The `int` in which the size of a peer with its rates is stored. -/
def peerExpectedSize (current_peer_info : ℕ) : ℤ :=
  asInt (layout.rateStats + u32At bytes (current_peer_info + layout.numRate) * layout.rateSize)

/-- The `int` in which the size of a radio with its channels is stored. -/
def radioExpectedSize (current_radio_stat : ℕ) : ℤ :=
  asInt (layout.channels +
    u32At bytes (current_radio_stat + layout.numChannels) * layout.channelSize)

/-- The loop over the peers of a link, with the peers that are left. -/
def checkPeers : ℕ → ℕ → ℕ → Option ℕ
  | 0, confirmed_size, _ => some confirmed_size
  | left + 1, confirmed_size, current_peer_info =>
      if len < confirmed_size + layout.rateStats then none
      else
        let expected_size := peerExpectedSize layout bytes current_peer_info
        if len < addExpected confirmed_size expected_size then none
        else
          checkPeers left (addExpected confirmed_size expected_size)
            (current_peer_info + expected_size).toNat

/-- The loop over the links; each starts at the size confirmed so far. The header check keeps
`confirmed_size` from wrapping. -/
def checkLinks : ℕ → ℕ → Option ℕ
  | 0, confirmed_size => some confirmed_size
  | left + 1, confirmed_size =>
      if len < confirmed_size + layout.peerInfo then none
      else
        match checkPeers layout bytes len (u32At bytes (confirmed_size + layout.numPeers))
            (confirmed_size + layout.peerInfo) (confirmed_size + layout.peerInfo) with
        | none => none
        | some confirmed_size => checkLinks left confirmed_size

/-- What the loop over the radios carries along. `pointers` pairs `tx_time_per_levels_pointer_list`
with `tx_levels_offsets`. -/
structure RadioScan where
  confirmed_size : ℕ
  current_radio_stat : ℕ
  total_num_tx_levels : ℕ := 0
  pointers : List (ℕ × ℕ) := []

def RadioScan.next (scan : RadioScan) : RadioScan where
  confirmed_size :=
    addExpected scan.confirmed_size (radioExpectedSize layout bytes scan.current_radio_stat)
  current_radio_stat :=
    (scan.current_radio_stat + radioExpectedSize layout bytes scan.current_radio_stat).toNat
  total_num_tx_levels :=
    (scan.total_num_tx_levels +
      u32At bytes (scan.current_radio_stat + layout.numTxLevels)) % 2 ^ 32
  pointers := scan.pointers ++
    [(scan.current_radio_stat + layout.txTimePerLevels, scan.total_num_tx_levels)]

def checkRadios : ℕ → RadioScan → Option RadioScan
  | 0, scan => some scan
  | left + 1, scan =>
      if len < scan.confirmed_size + layout.channels then none
      else if len < (scan.next layout bytes).confirmed_size then none
      else checkRadios left (scan.next layout bytes)

/-- The outcome of an accepted check: `num_radios`, where the radios start, and the pointer fields
after the back patch. -/
structure SaneStats where
  num_radios : ℕ
  radio_stats_ptr : ℕ
  pointers : ℕ → ℕ

/-- Stores the patched pointers one after the other. -/
def backPatch (tx_levels : ℕ) (dangling : ℕ → ℕ) (pointers : List (ℕ × ℕ)) : ℕ → ℕ :=
  pointers.foldl (fun memory pointer ↦
    Function.update memory pointer.1 (tx_levels + 4 * pointer.2)) dangling

/-- The part of the check after the links. -/
def checkTail (dangling : ℕ → ℕ) (confirmed_size : ℕ) : Option SaneStats :=
  if len < confirmed_size + 4 then none
  else
    let num_radios := u32At bytes confirmed_size
    let radio_stats_ptr := confirmed_size + 4
    match checkRadios layout bytes len num_radios
        { confirmed_size := radio_stats_ptr, current_radio_stat := radio_stats_ptr } with
    | none => none
    | some scan =>
        if len < scan.confirmed_size + scan.total_num_tx_levels * 4 then none
        else
          some
            { num_radios := num_radios
              radio_stats_ptr := radio_stats_ptr
              pointers := backPatch scan.current_radio_stat dangling scan.pointers }

/-- `check_data_sanity`, on data that is not null; `dangling` is what the driver left in the pointer
fields. -/
def checkDataSanity (dangling : ℕ → ℕ) : Option SaneStats :=
  if len < layout.links then none
  else
    let num_links := asInt (u32At bytes layout.numLinks)
    if num_links ≤ 0 then none
    else
      match checkLinks layout bytes len num_links.toNat layout.links with
      | none => none
      | some confirmed_size => checkTail layout bytes len dangling confirmed_size

end Check

/-! ## The walk -/

section Walk

variable (layout : StatsLayout) (bytes : Bytes)

/-- The entries of an array. -/
def entryRegions (start size count : ℕ) : List Region :=
  (List.range count).map fun k ↦ ⟨start + size * k, size⟩

/-- Peers from `pos` on with their rates: the regions reached, and where the walk ends. -/
def walkPeers : ℕ → ℕ → List Region × ℕ
  | 0, pos => ([], pos)
  | left + 1, pos =>
      let num_rate := u32At bytes (pos + layout.numRate)
      let rest := walkPeers left (pos + layout.rateStats + num_rate * layout.rateSize)
      (⟨pos, layout.rateStats⟩ ::
          entryRegions (pos + layout.rateStats) layout.rateSize num_rate ++ rest.1, rest.2)

def walkLinks : ℕ → ℕ → List Region × ℕ
  | 0, pos => ([], pos)
  | left + 1, pos =>
      let peers := walkPeers layout bytes (u32At bytes (pos + layout.numPeers))
        (pos + layout.peerInfo)
      let rest := walkLinks left peers.2
      (⟨pos, layout.peerInfo⟩ :: peers.1 ++ rest.1, rest.2)

/-- Radios from `pos` on with their channels and, through the pointer field, their levels. -/
def walkRadios (pointers : ℕ → ℕ) : ℕ → ℕ → List Region × ℕ
  | 0, pos => ([], pos)
  | left + 1, pos =>
      let num_channels := u32At bytes (pos + layout.numChannels)
      let rest := walkRadios pointers left
        (pos + layout.channels + num_channels * layout.channelSize)
      (⟨pos, layout.channels⟩ ::
          entryRegions (pos + layout.channels) layout.channelSize num_channels ++
          entryRegions (pointers (pos + layout.txTimePerLevels)) 4
            (u32At bytes (pos + layout.numTxLevels)) ++ rest.1, rest.2)

/-- Every entry that `dump_ml_stat`, `dump_radio_stats` and the framework reach. -/
def walkStats (stats : SaneStats) : List Region :=
  ⟨0, layout.links⟩ ::
    (walkLinks layout bytes (asInt (u32At bytes layout.numLinks)).toNat layout.links).1 ++
    (walkRadios layout bytes stats.pointers stats.num_radios stats.radio_stats_ptr).1

end Walk

end HardwareMediatek.Wifi
