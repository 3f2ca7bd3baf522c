import HardwareMediatek.Foundation.ByteWriter
import HardwareMediatek.Wifi.NanTlv

/-!
# Writing TLVs

`NANTLV_WriteTlv` and `addTlv`. The value of a TLV is read while it is written, so a value may lie in
the buffer itself: it is a function of what the buffer holds. A sequence of entries that a buffer
holds is what the loop around `NANTLV_ReadTlv` reads back.
-/

namespace HardwareMediatek.Wifi

open Foundation

/-- A TLV as it is written: the length is that of the value. -/
structure TlvEntry where
  type : ℕ
  value : List UInt8
  deriving DecidableEq, Repr

def TlvEntry.encode (entry : TlvEntry) : List UInt8 :=
  le16 entry.type ++ (le16 entry.value.length ++ entry.value)

/-- The type is a 16-bit number, and so is the length with the header. -/
structure TlvEntry.Fits (entry : TlvEntry) : Prop where
  type : entry.type < 65536
  length : sizeofTlvHdr + entry.value.length < 65536

def encodeTlvs (entries : List TlvEntry) : List UInt8 := entries.flatMap TlvEntry.encode

/-- The loop of `NANTLV_WriteTlv` over the value, with `left` bytes to go from the `i`th on. -/
def copyValue (value : Bytes → ℕ → UInt8) : ℕ → ℕ → ByteWriter → ByteWriter
  | 0, _, pOutTlv => pOutTlv
  | left + 1, i, pOutTlv => copyValue value left (i + 1) (pOutTlv.push (value pOutTlv.bytes i))

/-- The buffer afterwards, and the length returned, an unsigned 16-bit number. -/
def nantlvWriteTlv (type length : ℕ) (value : Bytes → ℕ → UInt8) (pOutTlv : ByteWriter) :
    ByteWriter × ℕ :=
  let pOutTlv := (pOutTlv.push (UInt8.ofNat type)).push (UInt8.ofNat (type / 256))
  let pOutTlv := (pOutTlv.push (UInt8.ofNat length)).push (UInt8.ofNat (length / 256))
  (copyValue value length 0 pOutTlv, (sizeofTlvHdr + length) % 65536)

def addTlv (type length : ℕ) (value : Bytes → ℕ → UInt8) (pOutTlv : ByteWriter) : ByteWriter :=
  let written := nantlvWriteTlv (type % 65536) (length % 65536) value pOutTlv
  { written.1 with pos := pOutTlv.pos + written.2 }

/-- What the loop around `NANTLV_ReadTlv` makes of a buffer when it keeps every TLV. -/
def tlvReader (bytes : Bytes) : RecordLoop (List TlvEntry) where
  size pos := (nantlvReadTlv bytes pos).readLen
  peek _ entries := entries
  body pos entries :=
    let outputTlv := nantlvReadTlv bytes pos
    entries ++ [⟨outputTlv.type, bytesAt (fun i ↦ bytes (outputTlv.value + i)) outputTlv.length⟩]

def readTlvs (bytes : Bytes) (pInputTlv : ℕ) (remainingLen : ℤ) : List TlvEntry :=
  (tlvReader bytes).run pInputTlv remainingLen []

@[simp]
theorem length_encode (entry : TlvEntry) :
    entry.encode.length = sizeofTlvHdr + entry.value.length := by
  unfold TlvEntry.encode sizeofTlvHdr
  simp only [List.length_append, length_le16]
  omega

@[simp]
theorem encodeTlvs_nil : encodeTlvs [] = [] := rfl

@[simp]
theorem encodeTlvs_cons (entry : TlvEntry) (entries : List TlvEntry) :
    encodeTlvs (entry :: entries) = entry.encode ++ encodeTlvs entries := rfl

@[simp]
theorem encodeTlvs_append (left right : List TlvEntry) :
    encodeTlvs (left ++ right) = encodeTlvs left ++ encodeTlvs right :=
  List.flatMap_append

section Writing

/-- Each byte of the value may be looked up until it is written over: `list` is what is found. -/
theorem copyValue_appends (value : Bytes → ℕ → UInt8) (list : List UInt8) (original : Bytes)
    (start : ℕ)
    (hread : ∀ i (hi : i < list.length) bytes,
      (∀ k, start + i ≤ k → bytes k = original k) → value bytes i = list[i])
    (left i : ℕ) (pOutTlv : ByteWriter) (hleft : i + left = list.length)
    (hpos : pOutTlv.pos = start + i) (hkept : ∀ k, start + i ≤ k → pOutTlv.bytes k = original k) :
    ByteWriter.Appends pOutTlv (copyValue value left i pOutTlv) (list.drop i) := by
  induction left generalizing i pOutTlv with
  | zero =>
    rw [List.drop_eq_nil_of_le (by omega)]
    exact ByteWriter.Appends.nil pOutTlv
  | succ left ih =>
    have hi : i < list.length := by omega
    have hbyte : value pOutTlv.bytes i = list[i] := hread i hi pOutTlv.bytes hkept
    have hpush : ByteWriter.Appends pOutTlv (pOutTlv.push (value pOutTlv.bytes i)) [list[i]] := by
      rw [hbyte]
      exact ByteWriter.appends_push pOutTlv list[i]
    rw [List.drop_eq_getElem_cons hi]
    apply hpush.trans
    apply ih
    · omega
    · rw [hpush.pos, hpos, List.length_singleton, Nat.add_assoc]
    · intro k hk
      rw [hpush.writes.kept k (Or.inr (by rw [List.length_singleton]; omega))]
      exact hkept k (by omega)

theorem addTlv_appends {type length : ℕ} {value : Bytes → ℕ → UInt8} {list : List UInt8}
    (pOutTlv : ByteWriter) (hlength : list.length = length) (hfits : TlvEntry.Fits ⟨type, list⟩)
    (hread : ∀ i (hi : i < list.length) bytes,
      (∀ k, pOutTlv.pos + sizeofTlvHdr + i ≤ k → bytes k = pOutTlv.bytes k) →
        value bytes i = list[i]) :
    ByteWriter.Appends pOutTlv (addTlv type length value pOutTlv) (TlvEntry.encode ⟨type, list⟩) := by
  have hshort : sizeofTlvHdr + length < 65536 := hlength ▸ hfits.length
  have htype : type % 65536 = type := Nat.mod_eq_of_lt hfits.type
  have hmod : length % 65536 = length := by omega
  let typed := (pOutTlv.push (UInt8.ofNat type)).push (UInt8.ofNat (type / 256))
  let header := (typed.push (UInt8.ofNat length)).push (UInt8.ofNat (length / 256))
  have htyped : ByteWriter.Appends pOutTlv typed (le16 type) :=
    (ByteWriter.appends_push _ _).trans (ByteWriter.appends_push _ _)
  have hheader : ByteWriter.Appends typed header (le16 length) :=
    (ByteWriter.appends_push _ _).trans (ByteWriter.appends_push _ _)
  have hboth := htyped.trans hheader
  have hvalue : ByteWriter.Appends header (copyValue value length 0 header) (list.drop 0) := by
    apply copyValue_appends value list pOutTlv.bytes (pOutTlv.pos + sizeofTlvHdr) hread
    · rw [hlength, Nat.zero_add]
    · rw [hboth.pos]
      rfl
    · intro k hk
      exact hboth.writes.kept k (Or.inr hk)
  have hall := htyped.trans (hheader.trans hvalue)
  rw [List.drop_zero, ← hlength] at hall
  have hend : (addTlv type length value pOutTlv).pos =
      pOutTlv.pos + (TlvEntry.encode ⟨type, list⟩).length := by
    rw [length_encode]
    change pOutTlv.pos + (sizeofTlvHdr + length % 65536) % 65536 = _
    rw [hmod, hlength]
    omega
  have hsame : addTlv type length value pOutTlv =
      { copyValue value length 0 header with pos := (addTlv type length value pOutTlv).pos } := by
    unfold addTlv nantlvWriteTlv
    rw [htype, hmod]
  apply ByteWriter.Appends.mk _ hend
  rw [hsame, ← hlength]
  exact ⟨hall.writes.holds, hall.writes.kept, hall.writes.written⟩

/-- A value outside the buffer. -/
theorem addTlv_appends_outside {type length : ℕ} (data : Bytes) (pOutTlv : ByteWriter)
    (hfits : TlvEntry.Fits ⟨type, bytesAt data length⟩) :
    ByteWriter.Appends pOutTlv (addTlv type length (fun _ ↦ data) pOutTlv)
      (TlvEntry.encode ⟨type, bytesAt data length⟩) := by
  apply addTlv_appends pOutTlv (length_bytesAt data length) hfits
  intro i hi bytes _
  simp [bytesAt]

/-- A value that already stands where it goes. -/
theorem addTlv_appends_inPlace {type : ℕ} {list : List UInt8} {before filled : ByteWriter}
    (hfilled : ByteWriter.Writes before filled (before.pos + sizeofTlvHdr) list)
    (hpos : filled.pos = before.pos) (hfits : TlvEntry.Fits ⟨type, list⟩) :
    ByteWriter.Appends before
      (addTlv type list.length (fun bytes i ↦ bytes (before.pos + sizeofTlvHdr + i)) filled)
      (TlvEntry.encode ⟨type, list⟩) := by
  have hadd : ByteWriter.Appends filled
      (addTlv type list.length (fun bytes i ↦ bytes (before.pos + sizeofTlvHdr + i)) filled)
      (TlvEntry.encode ⟨type, list⟩) := by
    apply addTlv_appends filled rfl hfits
    intro i hi bytes hbytes
    rw [hpos] at hbytes
    rw [hbytes _ (Nat.le_refl _)]
    exact hfilled.holds i hi
  have hencode : TlvEntry.encode ⟨type, list⟩ =
      (le16 type ++ le16 list.length) ++ list := by
    rw [List.append_assoc]
    rfl
  apply ByteWriter.Appends.mk
  · have hwrites := hadd.writes
    rw [hencode, hpos] at hwrites
    rw [hencode]
    exact ByteWriter.Writes.inPlace hfilled hwrites
  · rw [hadd.pos, hpos]

end Writing

section Reading

/-- Entries that are held one after the other are read back in their order. -/
theorem run_tlvReader_of_holds {bytes : Bytes} {pos : ℕ} (entries read : List TlvEntry)
    (hfits : ∀ entry ∈ entries, entry.Fits) (hholds : Holds bytes pos (encodeTlvs entries)) :
    (tlvReader bytes).run pos (encodeTlvs entries).length read = read ++ entries := by
  induction entries generalizing pos read with
  | nil =>
    rw [List.append_nil]
    exact RecordLoop.run_of_nonpos _ (by simp)
  | cons entry entries ih =>
    rw [List.forall_mem_cons] at hfits
    rw [encodeTlvs_cons, holds_append] at hholds
    have hparts := hholds.1
    unfold TlvEntry.encode at hparts
    rw [holds_append, holds_append] at hparts
    have htype : u16At bytes pos = entry.type := u16At_of_holds hfits.1.type hparts.1
    have hlength : u16At bytes (pos + 2) = entry.value.length :=
      u16At_of_holds (by have := hfits.1.length; omega) hparts.2.1
    have hsize : (nantlvReadTlv bytes pos).readLen = sizeofTlvHdr + entry.value.length := by
      change (sizeofTlvHdr + u16At bytes (pos + 2)) % 65536 = _
      rw [hlength]
      exact Nat.mod_eq_of_lt hfits.1.length
    have hvalue : bytesAt (fun i ↦ bytes ((nantlvReadTlv bytes pos).value + i))
        (nantlvReadTlv bytes pos).length = entry.value := by
      change bytesAt (fun i ↦ bytes (pos + sizeofTlvHdr + i)) (u16At bytes (pos + 2)) = _
      rw [hlength]
      apply List.ext_getElem (length_bytesAt _ _)
      intro i _ hi
      simp only [bytesAt, List.getElem_map, List.getElem_range]
      exact hparts.2.2 i hi
    have hbody : (tlvReader bytes).body pos ((tlvReader bytes).peek pos read) = read ++ [entry] := by
      change read ++ [TlvEntry.mk (u16At bytes pos) _] = _
      rw [htype, hvalue]
    have hsizePos : (tlvReader bytes).size pos = sizeofTlvHdr + entry.value.length := hsize
    rw [encodeTlvs_cons, List.length_append, length_encode]
    rw [RecordLoop.run_of_size_pos _ (by unfold sizeofTlvHdr; omega)
      (by rw [hsizePos]; unfold sizeofTlvHdr; omega), hbody, hsizePos]
    have hrest := ih (read ++ [entry]) hfits.2 (by rw [length_encode] at hholds; exact hholds.2)
    rw [List.append_assoc, List.singleton_append] at hrest
    rw [← hrest]
    congr 1
    push_cast
    omega

theorem readTlvs_of_holds {bytes : Bytes} {pos : ℕ} {entries : List TlvEntry}
    (hfits : ∀ entry ∈ entries, entry.Fits) (hholds : Holds bytes pos (encodeTlvs entries)) :
    readTlvs bytes pos (encodeTlvs entries).length = entries := by
  rw [readTlvs, run_tlvReader_of_holds entries [] hfits hholds, List.nil_append]

end Reading

end HardwareMediatek.Wifi
