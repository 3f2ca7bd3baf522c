import HardwareMediatek.Foundation.CIntegers
import HardwareMediatek.Foundation.CStrings

/-!
# Printing station statistics

`print_sta_statistics` writes one text after the other with `os_snprintf` and gives up with the result
zero at the first that does not fit.
-/

namespace HardwareMediatek.Supplicant

open Foundation

/-! ## Formats -/

/-- A hexadecimal digit, with the letters from the given one on. -/
def hexDigit (letterA digit : ℕ) : UInt8 :=
  if digit < 10 then (48 + digit).toUInt8 else (letterA + (digit - 10)).toUInt8

/-- `%02x` of a byte. -/
def hex02 (byte : UInt8) : List UInt8 := [hexDigit 97 (byte.toNat / 16), hexDigit 97 (byte.toNat % 16)]

/-- `%02X` of a byte. -/
def hex02Upper (byte : UInt8) : List UInt8 :=
  [hexDigit 65 (byte.toNat / 16), hexDigit 65 (byte.toNat % 16)]

/-- `%08X` of a 32-bit number. -/
def hex08Upper (value : ℕ) : List UInt8 :=
  (List.range 8).map fun place ↦ hexDigit 65 (value / 16 ^ (7 - place) % 16)

/-- `%d` -/
def decimal (value : ℤ) : List UInt8 := bytesOf (toString value)

/-- `%d` of a `u32`. -/
def decimalU32 (value : ℕ) : List UInt8 := decimal (asInt value)

/-- `%.1f` of half a number. -/
def halves (value : ℕ) : List UInt8 :=
  decimal (value / 2 : ℕ) ++ bytesOf (if value % 2 = 0 then ".0" else ".5")

/-! ## The statistics -/

/-- A counter for each of the four traffic classes. -/
structure TrafficClasses where
  tc0 : ℕ
  tc1 : ℕ
  tc2 : ℕ
  tc3 : ℕ

/-- The fields of `wpa_driver_sta_statistics_s` that are printed. -/
structure StaStatistics where
  addr : ℕ → UInt8
  flag : ℕ
  link_score : ℕ
  per : UInt8
  rssi : ℤ
  phy_mode : ℕ
  /-- twice `tx_rate`, which is half of a `u16` -/
  tx_rate : ℕ
  tx_total_cnt : ℕ
  tx_exc_threshold_cnt : ℕ
  tx_avg_process_time : ℕ
  tx_fail_cnt : ℕ
  tx_timeout_cnt : ℕ
  tx_avg_air_time : ℕ
  tc_buf_full_cnt : TrafficClasses
  tc_que_len : TrafficClasses
  tc_avg_que_len : TrafficClasses
  tc_cur_que_len : TrafficClasses
  reserved : ℕ → UInt8

def line (name : String) (value : List UInt8) : List UInt8 := bytesOf name ++ value ++ bytesOf "\n"

def classesLine (name : String) (classes : TrafficClasses) : List UInt8 :=
  line name (decimalU32 classes.tc0 ++ bytesOf ":" ++ decimalU32 classes.tc1 ++ bytesOf ":" ++
    decimalU32 classes.tc2 ++ bytesOf ":" ++ decimalU32 classes.tc3)

/-- `MACSTR` of the address: three of its bytes, and stars for the others. -/
def maskedAddr (addr : ℕ → UInt8) : List UInt8 :=
  hex02 (addr 0) ++ bytesOf ":" ++ hex02 (addr 1) ++ bytesOf ":*:*:*:" ++ hex02 (addr 5)

/-- Sixteen reserved bytes, with a blank after every fourth. -/
def reservedTexts (reserved : ℕ → UInt8) (first : ℕ) : List (List UInt8) :=
  (List.range 16).flatMap fun i ↦
    if (i + 1) % 4 = 0 then [hex02Upper (reserved (first + i)), bytesOf " "]
    else [hex02Upper (reserved (first + i))]

/-- The texts in their order, each of them one `os_snprintf`. -/
def statisticsTexts (stats : StaStatistics) : List (List UInt8) :=
  [line "sta_addr=" (maskedAddr stats.addr),
    line "link_score=" (decimalU32 stats.link_score),
    line "per=" (decimal stats.per.toNat),
    line "rssi=" (decimal stats.rssi),
    line "phy=0x" (hex08Upper stats.phy_mode),
    line "rate=" (halves stats.tx_rate),
    line "total_cnt=" (decimalU32 stats.tx_total_cnt),
    line "threshold_cnt=" (decimalU32 stats.tx_exc_threshold_cnt),
    line "fail_cnt=" (decimalU32 stats.tx_fail_cnt),
    line "timeout_cnt=" (decimalU32 stats.tx_timeout_cnt),
    line "apt=" (decimalU32 stats.tx_avg_process_time),
    line "aat=" (decimalU32 stats.tx_avg_air_time),
    classesLine "TC_buf_full_cnt=" stats.tc_buf_full_cnt,
    classesLine "TC_sta_que_len=" stats.tc_que_len,
    classesLine "TC_avg_que_len=" stats.tc_avg_que_len,
    classesLine "TC_cur_que_len=" stats.tc_cur_que_len,
    line "flag=0x" (hex08Upper stats.flag),
    bytesOf "reserved0="] ++ reservedTexts stats.reserved 0 ++
  [bytesOf "\n", bytesOf "reserved1="] ++ reservedTexts stats.reserved 16 ++
  [bytesOf "\n", bytesOf "====\n"]

/-- The texts from `pos` on, in a buffer of `buflen` bytes. -/
def printTexts (buflen : ℕ) : List (List UInt8) → ℕ → Buffer → ℕ × Buffer
  | [], pos, buffer => (pos, buffer)
  | text :: rest, pos, buffer =>
      let printed := buffer.snprintf pos (buflen - pos) text
      if buflen - pos ≤ text.length then (0, printed)
      else printTexts buflen rest (pos + text.length) printed

def printStaStatistics (stats : StaStatistics) (buflen : ℕ) (buffer : Buffer) : ℕ × Buffer :=
  printTexts buflen (statisticsTexts stats) 0 buffer

/-- The length of all texts together. -/
def statisticsLength (stats : StaStatistics) : ℕ := ((statisticsTexts stats).map List.length).sum

section Printing

variable {buflen : ℕ}

theorem within_printTexts {texts : List (List UInt8)} {pos : ℕ} {buffer : Buffer}
    (hpos : pos ≤ buflen) (hwithin : buffer.Within buflen) :
    (printTexts buflen texts pos buffer).2.Within buflen := by
  induction texts generalizing pos buffer with
  | nil => exact hwithin
  | cons text rest ih =>
    have hprinted : (buffer.snprintf pos (buflen - pos) text).Within buflen :=
      Buffer.within_snprintf (by omega) hwithin
    unfold printTexts
    by_cases hcut : buflen - pos ≤ text.length
    · rw [if_pos hcut]
      exact hprinted
    · rw [if_neg hcut]
      exact ih (by omega) hprinted

/-- Texts that fit leave their whole length, and a NUL byte behind them if there was one before. -/
theorem printTexts_fits {texts : List (List UInt8)} {pos : ℕ} {buffer : Buffer}
    (hfits : pos + (texts.map List.length).sum < buflen) (hnul : buffer.bytes pos = 0 ∨ texts ≠ []) :
    (printTexts buflen texts pos buffer).1 = pos + (texts.map List.length).sum ∧
      (printTexts buflen texts pos buffer).2.bytes (pos + (texts.map List.length).sum) = 0 := by
  induction texts generalizing pos buffer with
  | nil => exact ⟨rfl, hnul.resolve_right fun hne ↦ hne rfl⟩
  | cons text rest ih =>
    rw [List.map_cons, List.sum_cons] at hfits ⊢
    unfold printTexts
    rw [if_neg (by omega), ← Nat.add_assoc]
    apply ih (by omega)
    exact Or.inl (Buffer.bytes_snprintf_nul (by omega))

/-- Behind the first byte, texts that do not fit leave the result zero and the first byte as it is. -/
theorem printTexts_cut {texts : List (List UInt8)} {pos : ℕ} {buffer : Buffer} (hpos : 0 < pos)
    (hcut : buflen ≤ pos + (texts.map List.length).sum) (hbuflen : pos < buflen) :
    (printTexts buflen texts pos buffer).1 = 0 ∧
      (printTexts buflen texts pos buffer).2.bytes 0 = buffer.bytes 0 := by
  induction texts generalizing pos buffer with
  | nil =>
    change buflen ≤ pos + 0 at hcut
    omega
  | cons text rest ih =>
    rw [List.map_cons, List.sum_cons] at hcut
    unfold printTexts
    by_cases hthis : buflen - pos ≤ text.length
    · rw [if_pos hthis]
      exact ⟨rfl, Buffer.bytes_snprintf_of_lt hpos⟩
    · rw [if_neg hthis]
      have hrest := @ih (pos + text.length) (buffer.snprintf pos (buflen - pos) text) (by omega)
        (by omega) (by omega)
      apply And.intro hrest.1
      rw [hrest.2]
      exact Buffer.bytes_snprintf_of_lt hpos

/-- The first byte of a text that has room for one. -/
theorem bytes_snprintf_head {buffer : Buffer} {start size : ℕ} {text : List UInt8} (hsize : 2 ≤ size)
    (htext : text ≠ []) : (buffer.snprintf start size text).bytes start = text.getD 0 0 := by
  cases text with
  | nil => exact absurd rfl htext
  | cons byte text =>
    unfold Buffer.snprintf
    rw [if_neg (by omega)]
    have hstore := @Buffer.bytes_store buffer start ((byte :: text).take (size - 1) ++ [0]) 0 (by simp)
    rw [Nat.add_zero] at hstore
    rw [hstore]
    cases hroom : size - 1 with
    | zero => omega
    | succ room => rfl

theorem bytes_snprintf_one {buffer : Buffer} {start : ℕ} {text : List UInt8} :
    (buffer.snprintf start 1 text).bytes start = 0 := by
  unfold Buffer.snprintf
  rw [if_neg Nat.one_ne_zero]
  exact @Buffer.bytes_store buffer start [0] 0 Nat.one_pos

/-- The statistics end with a NUL byte where the result says exactly when the texts fit, or nothing but
the NUL byte does. -/
theorem printStaStatistics_ends_iff (stats : StaStatistics) (hbuflen : 1 ≤ buflen) (buffer : Buffer) :
    (printStaStatistics stats buflen buffer).2.bytes
        (printStaStatistics stats buflen buffer).1 = 0 ↔
      statisticsLength stats < buflen ∨ buflen = 1 := by
  unfold printStaStatistics statisticsLength
  have hfirst : ∃ rest, statisticsTexts stats =
      line "sta_addr=" (maskedAddr stats.addr) :: rest := ⟨_, rfl⟩
  obtain ⟨rest, hrest⟩ := hfirst
  rw [hrest]
  have hhead : (line "sta_addr=" (maskedAddr stats.addr)).getD 0 0 = 115 := rfl
  generalize hline : line "sta_addr=" (maskedAddr stats.addr) = text at *
  have hne : text ≠ [] := by
    intro hnil
    rw [hnil] at hhead
    cases hhead
  have hpos : 0 < text.length := List.length_pos_iff.mpr hne
  by_cases hfits : ((text :: rest).map List.length).sum < buflen
  · have hprinted := @printTexts_fits buflen (text :: rest) 0 buffer (by omega)
      (Or.inr (List.cons_ne_nil _ _))
    rw [hprinted.1]
    exact iff_of_true hprinted.2 (Or.inl hfits)
  · have hcut : buflen ≤ text.length + (rest.map List.length).sum := by
      rw [List.map_cons, List.sum_cons] at hfits
      omega
    unfold printTexts
    rw [Nat.sub_zero, Nat.zero_add]
    by_cases hone : buflen = 1
    · have hroom : 1 ≤ text.length := hpos
      rw [hone, if_pos hroom]
      exact iff_of_true bytes_snprintf_one (Or.inr rfl)
    · have hbyte : (buffer.snprintf 0 buflen text).bytes 0 = 115 := by
        rw [bytes_snprintf_head (by omega) hne]
        exact hhead
      apply iff_of_false
      · by_cases hthis : buflen ≤ text.length
        · rw [if_pos hthis]
          dsimp only
          rw [hbyte]
          decide
        · rw [if_neg hthis]
          have hrest := @printTexts_cut buflen rest text.length (buffer.snprintf 0 buflen text) hpos
            hcut (by omega)
          rw [hrest.1, hrest.2, hbyte]
          decide
      · intro hor
        exact hor.elim hfits hone

end Printing

end HardwareMediatek.Supplicant
