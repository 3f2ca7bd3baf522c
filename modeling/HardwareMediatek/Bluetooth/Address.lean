import HardwareMediatek.Foundation.FieldScan
import HardwareMediatek.Supplicant.StaStatistics
import Mathlib.Data.Fintype.Defs
import Mathlib.Data.List.TakeWhile
import Mathlib.Tactic.IntervalCases

/-!
# The address of the controller

Addresses are printed as six pairs of digits and read with `sscanf`, which takes other texts for an
address too and stores the groups that come before one it cannot read. The address is looked for in a file
and in two properties, and only the one in the file is compared with zero.
-/

namespace HardwareMediatek.Bluetooth

open Foundation Foundation.Scan

def kStringLength : ℕ := 17

abbrev kBytes : ℕ := 6

abbrev Address := Fin kBytes → UInt8

/-- The characters of a string before its NUL byte. -/
structure CText where
  chars : List UInt8
  terminated : 0 ∉ chars
deriving DecidableEq

/-- The string in a buffer that is zero behind its contents. -/
def CText.ofBuffer (contents : List UInt8) : CText where
  chars := contents.takeWhile (· ≠ 0)
  terminated hmem := absurd (List.mem_takeWhile_imp hmem) (by simp)

def separator : UInt8 := 58

/-- `%02hhx` six times with a colon between, and `%1c`. -/
def addressFormat : List Directive :=
  [.hexByte 2, .literal separator, .hexByte 2, .literal separator, .hexByte 2, .literal separator,
    .hexByte 2, .literal separator, .hexByte 2, .literal separator, .hexByte 2, .char]

/-- The digits of bytes are printed with lower case letters. -/
theorem hexValue_hexDigit {digit : ℕ} (hdigit : digit < 16) :
    hexValue (Supplicant.hexDigit 97 digit) = some digit.toUInt8 := by
  interval_cases digit <;> rfl

theorem hexPair_hex02 (byte : UInt8) : HexPair (Supplicant.hex02 byte) byte := by
  have hbyte := byte.toNat_lt
  have hhigh := hexValue_hexDigit (show byte.toNat / 16 < 16 by omega)
  have hlow := hexValue_hexDigit (show byte.toNat % 16 < 16 by omega)
  have hvalue : 16 * (byte.toNat / 16).toUInt8 + (byte.toNat % 16).toUInt8 = byte := by
    apply UInt8.toNat_inj.mp
    simp
    omega
  have hpair := HexPair.digits hhigh hlow
  rwa [hvalue] at hpair

theorem zero_not_mem_hexPair {field : List UInt8} {value : UInt8} (h : HexPair field value) :
    0 ∉ field := by
  obtain ⟨hhigh, hlow⟩ := h
  have hzero : hexValue 0 = none := rfl
  simp
  constructor <;> rintro rfl
  · exact nomatch hhigh.symm.trans hzero
  · exact nomatch hlow.symm.trans hzero

def addressText (addr : Address) : List UInt8 :=
  Supplicant.hex02 (addr 0) ++ separator :: (Supplicant.hex02 (addr 1) ++ separator ::
    (Supplicant.hex02 (addr 2) ++ separator :: (Supplicant.hex02 (addr 3) ++ separator ::
      (Supplicant.hex02 (addr 4) ++ separator :: Supplicant.hex02 (addr 5)))))

def bytesToString (addr : Address) : CText where
  chars := addressText addr
  terminated := by simp [addressText, zero_not_mem_hexPair (hexPair_hex02 _), separator]

/-- The values that are stored for the bytes. The seventh is for the trailing character. -/
def Address.store (addr : Address) (values : List UInt8) : Address :=
  fun index ↦ values.getD index (addr index)

def stringToBytes (addr_str : Option CText) (addr : Address) : Bool × Address :=
  match addr_str with
  | none => (false, addr)
  | some text =>
    if min text.chars.length kStringLength ≠ kStringLength then (false, addr)
    else
      let values := scan addressFormat text.chars
      (values.length = kBytes, addr.store values)

def zeroBdaddr : Address := fun _ ↦ 0

/-- The properties, with the empty text for those that are not set, and the files. A file that cannot
be opened is there as nothing, and one that cannot be read has no contents. -/
structure AddressEnv where
  property_get : String → CText
  readFile : CText → Option (Option (List UInt8))

def propertyBtBdaddrPath : String := "ro.bt.bdaddr_path"
def persistBdaddrProperty : String := "persist.service.bdroid.bdaddr"
def factoryBdaddrProperty : String := "ro.boot.btmacaddr"

namespace AddressEnv

variable (env : AddressEnv)

/-- The text in the file that the property names. The buffer is zero before it is filled. -/
def fileText : Option CText :=
  if (env.property_get propertyBtBdaddrPath).chars = [] then none
  else
    (env.readFile (env.property_get propertyBtBdaddrPath)).map fun contents ↦
      CText.ofBuffer ((contents.getD []).take kStringLength)

/-- If the address is not all zeros, then it is used. -/
def tryFile (local_addr : Address) : Bool × Address :=
  match env.fileText with
  | none => (false, local_addr)
  | some text =>
    let parsed := stringToBytes (some text) local_addr
    (parsed.1 && parsed.2 ≠ zeroBdaddr, parsed.2)

def tryProperty (key : String) (local_addr : Address) : Bool × Address :=
  if (env.property_get key).chars = [] then (false, local_addr)
  else stringToBytes (some (env.property_get key)) local_addr

/-- A source that is not taken may have left bytes for the next one. -/
def getLocalAddress (local_addr : Address) : Bool × Address :=
  let file := env.tryFile local_addr
  if file.1 then file
  else
    let factory := env.tryProperty factoryBdaddrProperty file.2
    if factory.1 then factory else env.tryProperty persistBdaddrProperty factory.2

end AddressEnv

/-! ## What is right -/

/-- Six groups of two digits. -/
def CText.IsAddress (text : CText) : Prop :=
  ∃ addr : Address, Joined HexPair separator text.chars (List.ofFn addr)

/-- The texts that are taken for an address. -/
def CText.Spells (text : CText) (addr : Address) : Prop :=
  kStringLength ≤ text.chars.length ∧ Joined HexField separator text.chars (List.ofFn addr)

/-- The strings that the address is looked for in. -/
def AddressEnv.sources (env : AddressEnv) : List CText :=
  env.fileText.toList ++
    [env.property_get factoryBdaddrProperty, env.property_get persistBdaddrProperty]

structure AddressesParsed (addr_str : Option CText) (env : AddressEnv) : Prop where
  accepts : ∀ addr, (stringToBytes addr_str addr).1 = true ↔ ∃ text ∈ addr_str, text.IsAddress
  leftInverse : ∀ addr found, stringToBytes (some (bytesToString addr)) found = (true, addr)
  unchanged : ∀ addr, (stringToBytes addr_str addr).1 = false → (stringToBytes addr_str addr).2 = addr
  local_address : ∀ found, (env.getLocalAddress found).1 = true →
    (env.getLocalAddress found).2 ≠ zeroBdaddr ∧
      ∃ text ∈ env.sources, ∀ addr,
        stringToBytes (some text) addr = (true, (env.getLocalAddress found).2)

/-- A string that is long enough is an address or does not begin with what could be a group. -/
def CText.Unmistaken (text : CText) : Prop :=
  kStringLength ≤ text.chars.length → text.IsAddress ∨ scanHex 2 text.chars = none

/-- No address is in the file, and the first property that spells one spells zero. -/
def AddressEnv.UsesZero (env : AddressEnv) : Prop :=
  (∀ text ∈ env.fileText, ∀ addr, text.Spells addr → addr = zeroBdaddr) ∧
    ((env.property_get factoryBdaddrProperty).Spells zeroBdaddr ∨
      (∀ addr, ¬ (env.property_get factoryBdaddrProperty).Spells addr) ∧
        (env.property_get persistBdaddrProperty).Spells zeroBdaddr)

section Texts

variable {text : CText} {addr found : Address}

theorem joined_addressText (addr : Address) :
    Joined HexPair separator (addressText addr) (List.ofFn addr) := by
  have hpair := fun index ↦ hexPair_hex02 (addr index)
  exact Joined.cons (hpair 0) (Joined.cons (hpair 1) (Joined.cons (hpair 2) (Joined.cons (hpair 3)
    (Joined.cons (hpair 4) (Joined.last (hpair 5))))))

theorem Address.store_ofFn (addr found : Address) : found.store (List.ofFn addr) = addr := by
  funext index
  unfold Address.store
  rw [List.getD_eq_getElem _ _ (by rw [List.length_ofFn]; exact index.isLt), List.getElem_ofFn]

theorem Address.ofFn_store {values : List UInt8} (hlength : values.length = kBytes) (found : Address) :
    List.ofFn (found.store values) = values := by
  apply List.ext_getElem
  · rw [List.length_ofFn, hlength]
  · intro index _ hindex
    rw [List.getElem_ofFn]
    exact List.getD_eq_getElem _ _ hindex

theorem spells_of_hexPair (h : Joined HexPair separator text.chars (List.ofFn addr)) :
    text.Spells addr := by
  have hlength := h.length_hexPair
  rw [List.length_ofFn] at hlength
  constructor
  · unfold kBytes at hlength
    unfold kStringLength
    omega
  · exact h.mono fun _ _ hpair ↦ HexField.pair hpair

theorem CText.Spells.scan_eq (h : text.Spells addr) :
    scan addressFormat text.chars = List.ofFn addr := by
  have hstops : Stops [separator] := by
    intro byte hbyte
    rw [← Option.some.inj hbyte]
    decide
  exact scan_of_joined hstops (List.length_ofFn : _ = 5 + 1) h.2

theorem stringToBytes_of_long (hlong : kStringLength ≤ text.chars.length) (found : Address) :
    stringToBytes (some text) found =
      (decide ((scan addressFormat text.chars).length = kBytes),
        found.store (scan addressFormat text.chars)) :=
  if_neg (not_not.mpr (Nat.min_eq_right hlong))

theorem stringToBytes_of_short (hshort : ¬ kStringLength ≤ text.chars.length) (found : Address) :
    stringToBytes (some text) found = (false, found) :=
  if_pos fun hmin ↦ hshort (min_eq_right_iff.mp hmin)

theorem CText.Spells.stringToBytes_eq (h : text.Spells addr) (found : Address) :
    stringToBytes (some text) found = (true, addr) := by
  rw [stringToBytes_of_long h.1, h.scan_eq, Address.store_ofFn, List.length_ofFn]
  rfl

/-- Whatever is accepted spells an address, and nothing of what was there is left. -/
theorem spells_of_stringToBytes (h : (stringToBytes (some text) found).1 = true) :
    text.Spells (stringToBytes (some text) found).2 := by
  by_cases hlong : kStringLength ≤ text.chars.length
  · rw [stringToBytes_of_long hlong] at h ⊢
    have hlength : (scan (bytesFormat separator 5) text.chars).length = 5 + 1 := of_decide_eq_true h
    constructor
    · exact hlong
    · have hvalues := Address.ofFn_store hlength found
      exact hvalues.symm ▸ joined_of_scan hlength
  · rw [stringToBytes_of_short hlong] at h
    exact nomatch h

/-- A string spells one address at most. -/
theorem CText.Spells.unique {other : Address} (h : text.Spells addr) (hother : text.Spells other) :
    addr = other := by
  have heq := (h.stringToBytes_eq zeroBdaddr).symm.trans (hother.stringToBytes_eq zeroBdaddr)
  exact (Prod.mk.inj heq).2

theorem not_spells_of_stringToBytes (h : (stringToBytes (some text) found).1 = false)
    (addr : Address) : ¬ text.Spells addr := by
  intro hspells
  rw [hspells.stringToBytes_eq] at h
  exact nomatch h

theorem CText.IsAddress.spells (h : text.IsAddress) : ∃ addr, text.Spells addr :=
  h.imp fun _ hjoined ↦ spells_of_hexPair hjoined

/-- Whether a string that is long enough is taken right is decided by its first group. -/
theorem unmistaken_iff_of_long (hlong : kStringLength ≤ text.chars.length) :
    ((∀ addr, (stringToBytes (some text) addr).1 = true ↔ text.IsAddress) ∧
      ∀ addr, (stringToBytes (some text) addr).1 = false → (stringToBytes (some text) addr).2 = addr) ↔
      (text.IsAddress ∨ scanHex 2 text.chars = none) := by
  constructor
  · intro h
    rw [or_iff_not_imp_left]
    intro haddress
    by_contra hfirst
    obtain ⟨⟨value, rest⟩, hread⟩ := Option.ne_none_iff_exists'.mp hfirst
    have hscan : scan addressFormat text.chars = value :: scan addressFormat.tail rest :=
      scan_hexByte hread _
    -- the first byte is overwritten, and one that was not equal to it is lost
    have hrejected : (stringToBytes (some text) fun _ ↦ value + 1).1 = false :=
      Bool.eq_false_iff.mpr fun haccepted ↦ haddress ((h.1 _).mp haccepted)
    have hsame := congrFun (h.2 _ hrejected) 0
    rw [stringToBytes_of_long hlong, hscan] at hsame
    have hoverwritten : value = value + 1 := hsame
    simp at hoverwritten
  · intro h
    rcases h with haddress | hfirst
    · obtain ⟨addr, hspells⟩ := haddress.spells
      simp only [hspells.stringToBytes_eq]
      exact ⟨fun _ ↦ iff_of_true trivial haddress, fun _ h ↦ nomatch h⟩
    · have hscan : scan addressFormat text.chars = [] := scan_hexByte_none hfirst _
      have hrejects : ∀ addr, stringToBytes (some text) addr = (false, addr) := by
        intro addr
        rw [stringToBytes_of_long hlong, hscan]
        rfl
      have haddress : ¬ text.IsAddress := by
        intro haddress
        obtain ⟨addr, hspells⟩ := haddress.spells
        exact nomatch (hrejects addr).symm.trans (hspells.stringToBytes_eq addr)
      simp only [hrejects]
      exact ⟨fun _ ↦ iff_of_false nofun haddress, fun _ _ ↦ trivial⟩

theorem unmistaken_iff (addr_str : Option CText) :
    ((∀ addr, (stringToBytes addr_str addr).1 = true ↔ ∃ text ∈ addr_str, text.IsAddress) ∧
      ∀ addr, (stringToBytes addr_str addr).1 = false → (stringToBytes addr_str addr).2 = addr) ↔
      ∀ text ∈ addr_str, text.Unmistaken := by
  cases addr_str with
  | none => exact iff_of_true ⟨fun _ ↦ iff_of_false nofun (by simp), fun _ _ ↦ rfl⟩ nofun
  | some text =>
    simp only [Option.mem_def, Option.some.injEq, exists_eq_left', forall_eq']
    unfold CText.Unmistaken
    by_cases hlong : kStringLength ≤ text.chars.length
    · rw [unmistaken_iff_of_long hlong]
      exact (imp_iff_right hlong).symm
    · have haddress : ¬ text.IsAddress := fun haddress ↦ hlong haddress.spells.choose_spec.1
      simp only [stringToBytes_of_short hlong]
      exact iff_of_true ⟨fun _ ↦ iff_of_false nofun haddress, fun _ _ ↦ trivial⟩
        fun h ↦ absurd h hlong

end Texts

section Sources

variable {env : AddressEnv} {found : Address}

theorem tryFile_of_some {text : CText} (htext : env.fileText = some text) (found : Address) :
    env.tryFile found = ((stringToBytes (some text) found).1 &&
      (stringToBytes (some text) found).2 ≠ zeroBdaddr, (stringToBytes (some text) found).2) := by
  unfold AddressEnv.tryFile
  rw [htext]

/-- The address in the file is used if it is not zero. -/
theorem spells_of_tryFile (h : (env.tryFile found).1 = true) :
    (env.tryFile found).2 ≠ zeroBdaddr ∧ ∃ text ∈ env.fileText, text.Spells (env.tryFile found).2 := by
  cases htext : env.fileText with
  | none =>
    unfold AddressEnv.tryFile at h
    rw [htext] at h
    exact nomatch h
  | some text =>
    rw [tryFile_of_some htext] at h ⊢
    have hparts := Bool.and_eq_true_iff.mp h
    exact ⟨of_decide_eq_true hparts.2, text, rfl, spells_of_stringToBytes hparts.1⟩

theorem eq_zero_of_tryFile (h : (env.tryFile found).1 = false) :
    ∀ text ∈ env.fileText, ∀ addr, text.Spells addr → addr = zeroBdaddr := by
  intro text htext addr hspells
  rw [tryFile_of_some htext, hspells.stringToBytes_eq] at h
  simpa using h

/-- The text of a property that is not set is too short. -/
theorem tryProperty_eq (env : AddressEnv) (key : String) (found : Address) :
    env.tryProperty key found = stringToBytes (some (env.property_get key)) found := by
  unfold AddressEnv.tryProperty
  split_ifs with hempty
  · apply (stringToBytes_of_short _ found).symm
    rw [hempty]
    decide
  · rfl

/-- What is used: the file, or the first property that is accepted. -/
inductive SourceCase (env : AddressEnv) : Bool × Address → Prop where
  | file {text : CText} {addr : Address} (htext : text ∈ env.fileText) (hspells : text.Spells addr)
      (hne : addr ≠ zeroBdaddr) : SourceCase env (true, addr)
  | factory {addr : Address}
      (hfile : ∀ text ∈ env.fileText, ∀ addr, text.Spells addr → addr = zeroBdaddr)
      (hspells : (env.property_get factoryBdaddrProperty).Spells addr) : SourceCase env (true, addr)
  | persist {addr : Address}
      (hfile : ∀ text ∈ env.fileText, ∀ addr, text.Spells addr → addr = zeroBdaddr)
      (hfactory : ∀ addr, ¬ (env.property_get factoryBdaddrProperty).Spells addr)
      (hspells : (env.property_get persistBdaddrProperty).Spells addr) : SourceCase env (true, addr)
  | none {addr : Address}
      (hfactory : ∀ addr, ¬ (env.property_get factoryBdaddrProperty).Spells addr)
      (hpersist : ∀ addr, ¬ (env.property_get persistBdaddrProperty).Spells addr) :
      SourceCase env (false, addr)

theorem sourceCase (env : AddressEnv) (found : Address) :
    SourceCase env (env.getLocalAddress found) := by
  unfold AddressEnv.getLocalAddress
  dsimp only
  rw [tryProperty_eq, tryProperty_eq]
  split_ifs with hfile hfactory
  · obtain ⟨hne, text, htext, hspells⟩ := spells_of_tryFile hfile
    rw [← Prod.mk.eta (p := env.tryFile found), hfile]
    exact SourceCase.file htext hspells hne
  · have hspells := spells_of_stringToBytes hfactory
    rw [hspells.stringToBytes_eq]
    exact SourceCase.factory (eq_zero_of_tryFile (Bool.eq_false_iff.mpr hfile)) hspells
  · have hnone := not_spells_of_stringToBytes (Bool.eq_false_iff.mpr hfactory)
    generalize (stringToBytes (some (env.property_get factoryBdaddrProperty)) _).2 = left
    by_cases hpersist : (stringToBytes (some (env.property_get persistBdaddrProperty)) left).1 = true
    · have hspells := spells_of_stringToBytes hpersist
      rw [hspells.stringToBytes_eq]
      exact SourceCase.persist (eq_zero_of_tryFile (Bool.eq_false_iff.mpr hfile)) hnone hspells
    · have hrejected := Bool.eq_false_iff.mpr hpersist
      rw [← Prod.mk.eta (p := stringToBytes _ left), hrejected]
      exact SourceCase.none hnone (not_spells_of_stringToBytes hrejected)

/-- An address that is zero comes from a property only. -/
theorem local_address_iff (env : AddressEnv) :
    (∀ found, (env.getLocalAddress found).1 = true →
      (env.getLocalAddress found).2 ≠ zeroBdaddr ∧ ∃ text ∈ env.sources, ∀ addr,
        stringToBytes (some text) addr = (true, (env.getLocalAddress found).2)) ↔ ¬ env.UsesZero := by
  constructor
  · intro h hzero
    have hcase := sourceCase env zeroBdaddr
    have hright := h zeroBdaddr
    generalize env.getLocalAddress zeroBdaddr = result at hcase hright
    cases hcase with
    | @file text addr htext hspells hne => exact hne (hzero.1 text htext addr hspells)
    | @factory addr _ hspells =>
      rcases hzero.2 with hfactory | ⟨hfactory, -⟩
      · exact (hright rfl).1 (hspells.unique hfactory)
      · exact hfactory addr hspells
    | @persist addr _ hfactory hspells =>
      rcases hzero.2 with hzeroFactory | ⟨-, hpersist⟩
      · exact hfactory zeroBdaddr hzeroFactory
      · exact (hright rfl).1 (hspells.unique hpersist)
    | none hfactory hpersist =>
      rcases hzero.2 with hzeroFactory | ⟨-, hzeroPersist⟩
      · exact hfactory zeroBdaddr hzeroFactory
      · exact hpersist zeroBdaddr hzeroPersist
  · intro h found htrue
    have hcase := sourceCase env found
    generalize env.getLocalAddress found = result at hcase htrue ⊢
    unfold AddressEnv.sources
    cases hcase with
    | @file text addr htext hspells hne =>
      exact ⟨hne, text, List.mem_append_left _ (Option.mem_toList.mpr htext), hspells.stringToBytes_eq⟩
    | @factory addr hfile hspells =>
      constructor
      · rintro rfl
        exact h ⟨hfile, Or.inl hspells⟩
      · exact ⟨_, List.mem_append_right _ List.mem_cons_self, hspells.stringToBytes_eq⟩
    | @persist addr hfile hfactory hspells =>
      constructor
      · rintro rfl
        exact h ⟨hfile, Or.inr ⟨hfactory, hspells⟩⟩
      · exact ⟨_, List.mem_append_right _ (List.mem_cons_of_mem _ List.mem_cons_self),
          hspells.stringToBytes_eq⟩
    | none => exact nomatch htrue

/-- Addresses are parsed right exactly when a string that is not one does not begin with what could be a
group, and no property is used that spells zero. -/
theorem addressesParsed_iff (addr_str : Option CText) (env : AddressEnv) :
    AddressesParsed addr_str env ↔ (∀ text ∈ addr_str, text.Unmistaken) ∧ ¬ env.UsesZero := by
  rw [← unmistaken_iff, ← local_address_iff]
  constructor
  · exact fun h ↦ ⟨⟨h.accepts, h.unchanged⟩, h.local_address⟩
  · intro h
    have hspells : ∀ addr, (bytesToString addr).Spells addr :=
      fun addr ↦ spells_of_hexPair (joined_addressText addr)
    exact ⟨h.1.1, fun addr ↦ (hspells addr).stringToBytes_eq, h.1.2, h.2⟩

def unsetText : CText := ⟨[], List.not_mem_nil⟩

/-- Only the factory property may be set. -/
def factoryOnly (text : CText) : AddressEnv where
  property_get key := if key = factoryBdaddrProperty then text else unsetText
  readFile _ := none

def shortGroups : CText := ⟨bytesOf "1:2:3:4:5:       6", by decide⟩
def brokenEnd : CText := ⟨bytesOf "12:34:56:78:9a:zz", by decide⟩
def zeroText : CText := ⟨bytesOf "00:00:00:00:00:00", by decide⟩

/-- Short groups and blanks make an address too, groups before a broken one are stored, and a property
may be zero. -/
theorem not_addressesParsed_shortGroups :
    ¬ AddressesParsed (some shortGroups) (factoryOnly unsetText) ∧
      ¬ AddressesParsed (some brokenEnd) (factoryOnly unsetText) ∧
      ¬ AddressesParsed none (factoryOnly zeroText) := by
  refine ⟨fun h ↦ ?_, fun h ↦ ?_, fun h ↦ ?_⟩
  · obtain ⟨text, htext, addr, hjoined⟩ := (h.accepts zeroBdaddr).mp (by decide)
    have hlength := hjoined.length_hexPair
    rw [← Option.some.inj htext, List.length_ofFn] at hlength
    exact absurd hlength (by decide)
  · exact absurd (h.unchanged zeroBdaddr (by decide)) (by decide)
  · exact absurd (h.local_address zeroBdaddr (by decide)).1 (by decide)

end Sources

end HardwareMediatek.Bluetooth
