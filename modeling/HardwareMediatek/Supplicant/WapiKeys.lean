import HardwareMediatek.Foundation.ByteMemory

/-!
# Keys of WAPI

`wpa_driver_nl80211_set_wapi_key` puts a key and its sequence numbers into the zeroed fields of a structure
and sends the structure to the driver as a test mode command.
-/

namespace HardwareMediatek.Supplicant

open Foundation

section Structures

def iwEncodeSeqMaxSize : ℕ := 8
def wapiKeyMaxSize : ℕ := 32

/-- `iw_encode_exts` -/
structure IwEncodeExts where
  ext_flags : UInt32
  tx_seq : List UInt8
  rx_seq : List UInt8
  addr : List UInt8
  alg : UInt16
  key_len : UInt16
  key : List UInt8
  deriving DecidableEq, Repr

/-- `wpa_driver_wapi_key_params`, with the two fields of its header. -/
structure WapiKeyParams where
  index : UInt32
  buflen : UInt32
  key_index : UInt8
  key_len : UInt8
  extparams : IwEncodeExts
  deriving DecidableEq, Repr

/-- The arguments of a key. A pointer is `none` where it is `NULL`. -/
structure WapiKeyRequest where
  addr : Option Bytes
  key_idx : ℤ
  set_tx : Bool
  seq : Option Bytes
  seq_len : ℕ
  key : Option Bytes
  key_len : ℕ

end Structures

section Testmode

/-- What a test mode command meets with. -/
structure TestmodeEnv where
  nlmsgAlloc : Bool
  putIfindex : Bool
  putTestdata : Bool
  /-- `send_and_recv_msgs` -/
  answer : ℤ

variable {α : Type} (env : TestmodeEnv)

/-- `wpa_driver_nl80211_testmode`, and the data that is handed to the driver. Which handler takes the
reply depends on the index in the data. -/
def wpaDriverNl80211Testmode (data : α) : ℤ × Option α :=
  if ¬ env.nlmsgAlloc then (-1, none)
  else if env.putIfindex ∧ env.putTestdata then (env.answer, some data)
  else (-105, none) -- ENOBUFS

/-- The data that the driver accepted. -/
def accepted (sent : ℤ × Option α) : Option α := if sent.1 = 0 then sent.2 else none

/-- The message is built and the driver accepts it. -/
def TestmodeEnv.Accepts : Prop :=
  env.nlmsgAlloc = true ∧ env.putIfindex = true ∧ env.putTestdata = true ∧ env.answer = 0

theorem accepted_testmode (data : α) :
    accepted (wpaDriverNl80211Testmode env data) = some data ∨
      accepted (wpaDriverNl80211Testmode env data) = none := by
  unfold accepted wpaDriverNl80211Testmode
  split_ifs <;> simp

theorem accepted_testmode_iff (data : α) :
    accepted (wpaDriverNl80211Testmode env data) = some data ↔ env.Accepts := by
  unfold accepted wpaDriverNl80211Testmode TestmodeEnv.Accepts
  split_ifs <;> simp_all

end Testmode

section SetKey

def bytesFrom (pointer : Bytes) (start len : ℕ) : List UInt8 :=
  (List.range len).map fun k ↦ pointer (start + k)

/-- `os_memcpy` to the front of a field. -/
def copyFront (field data : List UInt8) : List UInt8 := data ++ field.drop data.length

def zeroed (size : ℕ) : List UInt8 := List.replicate size 0

/-- The two fields of the sequence. -/
def seqFields (seq : Option Bytes) (seq_len : ℕ) : List UInt8 × List UInt8 :=
  match seq with
  | none => (zeroed iwEncodeSeqMaxSize, zeroed iwEncodeSeqMaxSize)
  | some seq =>
    if iwEncodeSeqMaxSize < seq_len then
      (copyFront (zeroed iwEncodeSeqMaxSize) (bytesFrom seq 0 iwEncodeSeqMaxSize),
        copyFront (zeroed iwEncodeSeqMaxSize)
          (bytesFrom seq iwEncodeSeqMaxSize (seq_len - iwEncodeSeqMaxSize)))
    else (copyFront (zeroed iwEncodeSeqMaxSize) (bytesFrom seq 0 seq_len), zeroed iwEncodeSeqMaxSize)

/-- The field of the key and that of its length. -/
def keyFields (key : Option Bytes) (key_len : ℕ) : List UInt8 × UInt16 :=
  match key with
  | none => (zeroed wapiKeyMaxSize, 0)
  | some key =>
    if 0 < key_len ∧ key_len ≤ wapiKeyMaxSize then
      (copyFront (zeroed wapiKeyMaxSize) (bytesFrom key 0 key_len), UInt16.ofNat key_len)
    else (zeroed wapiKeyMaxSize, 0)

def broadcastAddr : List UInt8 := List.replicate 6 0xff

variable (request : WapiKeyRequest)

/-- A key for every peer. -/
def isGroupKey : Bool :=
  match request.addr with
  | none => true
  | some addr => bytesFrom addr 0 6 = broadcastAddr

/-- The structure that is sent. Its own key length is set whether or not there is a key. -/
def wapiKeyParams : WapiKeyParams where
  index := 2 ||| 0x01000000
  buflen := 76
  key_index := UInt8.ofInt (request.key_idx + 1)
  key_len := UInt8.ofNat request.key_len
  extparams :=
    { ext_flags := (if isGroupKey request then 4 else 0) ||| (if request.set_tx then 8 else 0)
      tx_seq := (seqFields request.seq request.seq_len).1
      rx_seq := (seqFields request.seq request.seq_len).2
      addr := request.addr.elim broadcastAddr fun addr ↦ bytesFrom addr 0 6
      alg := 0x20
      key_len := (keyFields request.key request.key_len).2
      key := (keyFields request.key request.key_len).1 }

/-- `wpa_driver_nl80211_set_wapi_key`, and what the driver accepted. What the test mode command returns
is dropped. -/
def setWapiKey (env : TestmodeEnv) : ℤ × Option WapiKeyParams :=
  if iwEncodeSeqMaxSize * 2 < request.seq_len then (-1, none)
  else (0, accepted (wpaDriverNl80211Testmode env (wapiKeyParams request)))

end SetKey

section Delivery

/-- The bytes that a pointer and a length give; those of `NULL` are none. -/
def givenBytes (pointer : Option Bytes) (len : ℕ) : Option (List UInt8) :=
  if len = 0 then some [] else pointer.map fun pointer ↦ bytesFrom pointer 0 len

/-- A field that holds exactly some bytes and zeros behind them. -/
def IsPadded (field : List UInt8) (size : ℕ) (data : List UInt8) : Prop :=
  data.length ≤ size ∧ field = data ++ zeroed (size - data.length)

/-- The message carries the key with its length, and the sequence. -/
structure Carries (request : WapiKeyRequest) (params : WapiKeyParams) : Prop where
  key : ∃ data ∈ givenBytes request.key request.key_len, IsPadded params.extparams.key wapiKeyMaxSize data
  key_len : params.extparams.key_len.toNat = request.key_len
  seq : ∃ data ∈ givenBytes request.seq request.seq_len,
    IsPadded (params.extparams.tx_seq ++ params.extparams.rx_seq) (iwEncodeSeqMaxSize * 2) data
  agree : params.key_len.toNat = params.extparams.key_len.toNat

def Delivers (request : WapiKeyRequest) (env : TestmodeEnv) : Prop :=
  ∃ params, (setWapiKey request env).2 = some params ∧ Carries request params

/-- A key is delivered or an error is returned. -/
structure DeliversOrFails (request : WapiKeyRequest) (env : TestmodeEnv) : Prop where
  success : (setWapiKey request env).1 = 0 → Delivers request env
  failure : ¬ Delivers request env → (setWapiKey request env).1 < 0

end Delivery

section Fields

variable {pointer : Option Bytes} {len : ℕ}

theorem length_bytesFrom (pointer : Bytes) (start len : ℕ) : (bytesFrom pointer start len).length = len := by
  rw [bytesFrom, List.length_map, List.length_range]

theorem copyFront_zeroed (size : ℕ) (data : List UInt8) :
    copyFront (zeroed size) data = data ++ zeroed (size - data.length) := by
  rw [copyFront, zeroed, List.drop_replicate]
  rfl

theorem bytesFrom_append (pointer : Bytes) (first second : ℕ) :
    bytesFrom pointer 0 first ++ bytesFrom pointer first second = bytesFrom pointer 0 (first + second) := by
  simp only [bytesFrom, List.range_add, List.map_append, List.map_map]
  congr 1
  apply List.map_congr_left
  intro k hk
  simp only [Function.comp_apply, Nat.zero_add]

theorem zeroed_append (first second : ℕ) : zeroed first ++ zeroed second = zeroed (first + second) :=
  List.replicate_append_replicate

theorem givenBytes_some (pointer : Bytes) (len : ℕ) :
    givenBytes (some pointer) len = some (bytesFrom pointer 0 len) := by
  unfold givenBytes
  split
  · rename_i hzero
    rw [hzero]
    rfl
  · rfl

theorem givenBytes_none {data : List UInt8} (hdata : data ∈ givenBytes none len) : len = 0 ∧ data = [] := by
  unfold givenBytes at hdata
  split at hdata
  · rename_i hzero
    exact ⟨hzero, (Option.some.inj hdata).symm⟩
  · cases hdata

theorem length_of_givenBytes {data : List UInt8} (hdata : data ∈ givenBytes pointer len) :
    data.length = len := by
  cases pointer with
  | none =>
    obtain ⟨hlen, rfl⟩ := givenBytes_none hdata
    exact hlen.symm
  | some pointer =>
    rw [givenBytes_some] at hdata
    rw [← Option.some.inj hdata, length_bytesFrom]

/-- A sequence that fits is in its two fields, one after the other. -/
theorem isPadded_seqFields {data : List UInt8} (hdata : data ∈ givenBytes pointer len)
    (hlen : len ≤ iwEncodeSeqMaxSize * 2) :
    IsPadded ((seqFields pointer len).1 ++ (seqFields pointer len).2) (iwEncodeSeqMaxSize * 2) data := by
  have hlength := length_of_givenBytes hdata
  apply And.intro (hlength ▸ hlen)
  rw [hlength]
  cases pointer with
  | none =>
    obtain ⟨rfl, rfl⟩ := givenBytes_none hdata
    rfl
  | some pointer =>
    rw [givenBytes_some] at hdata
    rw [← Option.some.inj hdata]
    unfold seqFields
    dsimp only
    split
    · rename_i hlong
      rw [copyFront_zeroed, copyFront_zeroed, length_bytesFrom, length_bytesFrom, Nat.sub_self,
        ← List.append_assoc, show zeroed 0 = [] from rfl, List.append_nil, bytesFrom_append]
      congr 2
      · omega
      · omega
    · rename_i hshort
      rw [copyFront_zeroed, length_bytesFrom, List.append_assoc, zeroed_append]
      congr 2
      omega

/-- A key that fits is in its field, and its length beside it. -/
theorem isPadded_keyFields {data : List UInt8} (hdata : data ∈ givenBytes pointer len)
    (hlen : len ≤ wapiKeyMaxSize) :
    IsPadded (keyFields pointer len).1 wapiKeyMaxSize data ∧
      (keyFields pointer len).2 = UInt16.ofNat len := by
  have hlength := length_of_givenBytes hdata
  rw [IsPadded, hlength, and_assoc]
  apply And.intro hlen
  cases pointer with
  | none =>
    obtain ⟨rfl, rfl⟩ := givenBytes_none hdata
    exact ⟨rfl, rfl⟩
  | some pointer =>
    rw [givenBytes_some] at hdata
    rw [← Option.some.inj hdata]
    unfold keyFields
    dsimp only
    split
    · rw [copyFront_zeroed, length_bytesFrom]
      exact ⟨rfl, rfl⟩
    · rename_i hzero
      obtain rfl : len = 0 := by omega
      exact ⟨rfl, rfl⟩

/-- The length beside the key is that of the caller only for a key that is there. -/
theorem le_of_keyFields (hlen : (keyFields pointer len).2.toNat = len) : len ≤ wapiKeyMaxSize := by
  cases pointer with
  | none => exact hlen ▸ Nat.zero_le _
  | some pointer =>
    unfold keyFields at hlen
    dsimp only at hlen
    split at hlen
    · rename_i hfits
      exact hfits.2
    · exact hlen ▸ Nat.zero_le _

/-- A key of 32 bytes at most, and nothing missing behind a pointer. -/
structure WapiKeyRequest.Complete (request : WapiKeyRequest) : Prop where
  key_len : request.key_len ≤ wapiKeyMaxSize
  key : request.key_len ≠ 0 → request.key ≠ none
  seq : request.seq_len ≠ 0 → request.seq ≠ none

theorem exists_givenBytes_iff : (∃ data, data ∈ givenBytes pointer len) ↔ (len ≠ 0 → pointer ≠ none) := by
  unfold givenBytes
  split
  · rename_i hzero
    exact iff_of_true ⟨[], rfl⟩ fun hne ↦ absurd hzero hne
  · rename_i hne
    cases pointer with
    | none => simp [hne]
    | some pointer => simp

variable {request : WapiKeyRequest} {env : TestmodeEnv}

theorem carries_iff (hseq : request.seq_len ≤ iwEncodeSeqMaxSize * 2) :
    Carries request (wapiKeyParams request) ↔ request.Complete := by
  constructor
  · intro hcarries
    obtain ⟨key, hkey, -⟩ := hcarries.key
    obtain ⟨seq, hseq, -⟩ := hcarries.seq
    exact ⟨le_of_keyFields hcarries.key_len, exists_givenBytes_iff.mp ⟨key, hkey⟩,
      exists_givenBytes_iff.mp ⟨seq, hseq⟩⟩
  · intro hcomplete
    obtain ⟨key, hkey⟩ := exists_givenBytes_iff.mpr hcomplete.key
    obtain ⟨seq, hgiven⟩ := exists_givenBytes_iff.mpr hcomplete.seq
    obtain ⟨hpadded, hlength⟩ := isPadded_keyFields hkey hcomplete.key_len
    have hle : request.key_len ≤ 32 := hcomplete.key_len
    have hlen : (keyFields request.key request.key_len).2.toNat = request.key_len := by
      rw [hlength, UInt16.toNat_ofNat']
      exact Nat.mod_eq_of_lt (by omega)
    apply Carries.mk ⟨key, hkey, hpadded⟩ hlen ⟨seq, hgiven, isPadded_seqFields hgiven hseq⟩
    refine Eq.trans ?_ hlen.symm
    change (UInt8.ofNat request.key_len).toNat = _
    rw [UInt8.toNat_ofNat']
    exact Nat.mod_eq_of_lt (by omega)

theorem setWapiKey_delivers_iff (hseq : request.seq_len ≤ iwEncodeSeqMaxSize * 2) :
    Delivers request env ↔ env.Accepts ∧ request.Complete := by
  have hset : (setWapiKey request env).2 =
      accepted (wpaDriverNl80211Testmode env (wapiKeyParams request)) := by
    unfold setWapiKey
    rw [if_neg (Nat.not_lt.mpr hseq)]
  unfold Delivers
  rw [hset, ← accepted_testmode_iff env (wapiKeyParams request), ← carries_iff hseq]
  constructor
  · intro h
    obtain ⟨params, hparams, hcarries⟩ := h
    obtain hdata | hnone := accepted_testmode env (wapiKeyParams request)
    · obtain rfl := Option.some.inj (hdata.symm.trans hparams)
      exact ⟨hdata, hcarries⟩
    · cases hnone.symm.trans hparams
  · exact fun h ↦ ⟨_, h.1, h.2⟩

/-- Zero is returned for every sequence that is not too long. -/
theorem deliversOrFails_iff (request : WapiKeyRequest) (env : TestmodeEnv) :
    DeliversOrFails request env ↔
      iwEncodeSeqMaxSize * 2 < request.seq_len ∨ env.Accepts ∧ request.Complete := by
  by_cases hseq : iwEncodeSeqMaxSize * 2 < request.seq_len
  · have hset : setWapiKey request env = (-1, none) := if_pos hseq
    apply iff_of_true _ (Or.inl hseq)
    apply DeliversOrFails.mk
    · rw [hset]
      exact fun h ↦ absurd h (by decide)
    · rw [hset]
      exact fun _ ↦ by decide
  · have hzero : (setWapiKey request env).1 = 0 := by
      unfold setWapiKey
      rw [if_neg hseq]
    rw [or_iff_right hseq, ← setWapiKey_delivers_iff (Nat.not_lt.mp hseq)]
    constructor
    · exact fun h ↦ h.success hzero
    · exact fun h ↦ ⟨fun _ ↦ h, fun hnot ↦ absurd h hnot⟩

/-- The driver refuses the key of one byte, and zero is returned. -/
theorem not_deliversOrFails_of_refused :
    ¬ DeliversOrFails ⟨none, 0, true, none, 0, some fun _ ↦ 0x5a, 1⟩
      ⟨true, true, true, -95⟩ := by
  intro h
  obtain ⟨params, hparams, -⟩ := h.success rfl
  exact nomatch (hparams : (none : Option WapiKeyParams) = some params)

end Fields

end HardwareMediatek.Supplicant
