import HardwareMediatek.Supplicant.DriverCommand

/-!
# Replies of driver commands

For each way of writing a reply: when it stays in the buffer and the result is where its text ends.
-/

namespace HardwareMediatek.Supplicant

open Foundation

/-! ## Statistics and addresses -/

section Printed

variable {buflen : ℕ}

theorem writes_snprintf {buffer : Buffer} {start size : ℕ} {text : List UInt8} (hsize : size ≠ 0) :
    (buffer.snprintf start size text).writes ≠ [] := by
  unfold Buffer.snprintf
  rw [if_neg hsize]
  exact List.append_ne_nil_of_right_ne_nil _ (List.cons_ne_nil _ _)

theorem printTexts_lt {texts : List (List UInt8)} {pos : ℕ} {buffer : Buffer} (hpos : pos < buflen) :
    (printTexts buflen texts pos buffer).1 < buflen := by
  induction texts generalizing pos buffer with
  | nil => exact hpos
  | cons text rest ih =>
    unfold printTexts
    by_cases hcut : buflen - pos ≤ text.length
    · rw [if_pos hcut]
      exact Nat.zero_lt_of_lt hpos
    · rw [if_neg hcut]
      exact ih (by omega)

theorem writes_printTexts {texts : List (List UInt8)} {pos : ℕ} {buffer : Buffer} (hpos : pos < buflen)
    (htexts : buffer.writes ≠ [] ∨ texts ≠ []) : (printTexts buflen texts pos buffer).2.writes ≠ [] := by
  induction texts generalizing pos buffer with
  | nil => exact htexts.resolve_right fun hne ↦ hne rfl
  | cons text rest ih =>
    have hprinted : (buffer.snprintf pos (buflen - pos) text).writes ≠ [] :=
      writes_snprintf (by omega)
    unfold printTexts
    by_cases hcut : buflen - pos ≤ text.length
    · rw [if_pos hcut]
      exact hprinted
    · rw [if_neg hcut]
      exact ih (by omega) (Or.inl hprinted)

variable (call : DriverCall)

theorem fits_of_silent (ret : ℤ) (handled : Bool) :
    (⟨ret, ⟨call.buf, []⟩, handled⟩ : Handled).Fits call.buf_len := by
  apply Handled.Fits.mk
  · intro write hwrite
    exact absurd hwrite List.not_mem_nil
  · intro hne
    exact absurd rfl hne

theorem printStaStatistics_fits_iff (stats : StaStatistics) (handled : Bool) :
    (⟨(printStaStatistics stats call.buf_len ⟨call.buf, []⟩).1,
        (printStaStatistics stats call.buf_len ⟨call.buf, []⟩).2, handled⟩ : Handled).Fits call.buf_len ↔
      statisticsLength stats < call.buf_len ∨ call.buf_len = 1 := by
  have hpos := call.buf_len_pos
  rw [← printStaStatistics_ends_iff stats hpos ⟨call.buf, []⟩]
  apply Iff.intro
  · intro hfits
    have hwrites : (printStaStatistics stats call.buf_len ⟨call.buf, []⟩).2.writes ≠ [] :=
      writes_printTexts hpos (Or.inr (List.cons_ne_nil _ _))
    exact (hfits.nul hwrites (Int.natCast_nonneg _)).2
  · intro hends
    apply Handled.Fits.mk
    · apply within_printTexts (Nat.zero_le _)
      intro write hwrite
      exact absurd hwrite List.not_mem_nil
    · intro _ _
      apply And.intro
      · exact Int.ofNat_lt.mpr (printTexts_lt hpos)
      · exact hends

theorem getStaStatistics_fits_iff (addr : List UInt8) :
    (getStaStatistics call addr ⟨call.buf, []⟩).Fits call.buf_len ↔
      (call.hwaddr_aton addr = true → 0 ≤ call.answers.testmode →
        statisticsLength call.answers.sta_statistics < call.buf_len ∨ call.buf_len = 1) := by
  unfold getStaStatistics
  by_cases haddr : call.hwaddr_aton addr = true
  · rw [if_neg (not_not_intro haddr)]
    by_cases htestmode : call.answers.testmode < 0
    · rw [if_pos htestmode]
      apply iff_of_true (fits_of_silent call _ _)
      intro _ hge
      exact absurd htestmode (Int.not_lt.mpr hge)
    · rw [if_neg htestmode]
      dsimp only
      rw [printStaStatistics_fits_iff]
      apply Iff.intro
      · intro hfits _ _
        exact hfits
      · intro hfits
        exact hfits haddr (Int.not_lt.mp htestmode)
  · rw [if_pos haddr]
    apply iff_of_true (fits_of_silent call _ _)
    intro haccepted
    exact absurd haccepted haddr

/-- A text printed from the start fits exactly when there is room for its NUL byte. -/
theorem snprintf_fits_iff {buffer : Buffer} (hwithin : buffer.Within call.buf_len) (text : List UInt8)
    (handled : Bool) :
    (⟨text.length, buffer.snprintf 0 call.buf_len text, handled⟩ : Handled).Fits call.buf_len ↔
      text.length < call.buf_len := by
  have hpos := call.buf_len_pos
  apply Iff.intro
  · intro hfits
    have hwrites : (buffer.snprintf 0 call.buf_len text).writes ≠ [] := writes_snprintf (by omega)
    exact Int.ofNat_lt.mp (hfits.nul hwrites (Int.natCast_nonneg _)).1
  · intro htext
    apply Handled.Fits.mk
    · exact Buffer.within_snprintf (by omega) hwithin
    · intro _ _
      apply And.intro
      · exact Int.ofNat_lt.mpr htext
      · have hnul := @Buffer.bytes_snprintf_nul buffer 0 call.buf_len text htext
        rw [Nat.zero_add] at hnul
        exact hnul

theorem within_untouched (bytes : Bytes) (limit : ℕ) : (⟨bytes, []⟩ : Buffer).Within limit := by
  intro write hwrite
  exact absurd hwrite List.not_mem_nil

theorem macaddrReply_fits_iff :
    (macaddrReply call ⟨call.buf, []⟩).Fits call.buf_len ↔ 28 < call.buf_len := by
  unfold macaddrReply
  dsimp only
  rw [snprintf_fits_iff call (within_untouched _ _)]
  rfl

end Printed

/-! ## The private ioctl -/

section Private

variable (call : DriverCall) {buffer : Buffer}

theorem within_memset (hwithin : buffer.Within call.buf_len) :
    (buffer.memset 0 0 call.buf_len).Within call.buf_len := by
  unfold Buffer.memset
  rw [Buffer.within_store_iff, List.length_replicate]
  exact ⟨hwithin, Or.inr (Nat.le_of_eq (Nat.zero_add _))⟩

theorem within_memcpy_iff (hwithin : buffer.Within call.buf_len) (source : Bytes) (length : ℕ) :
    (buffer.memcpy 0 source (length + 1)).Within call.buf_len ↔ length < call.buf_len := by
  unfold Buffer.memcpy
  rw [Buffer.within_store_iff, List.length_map, List.length_range, and_iff_right hwithin, Nat.zero_add]
  apply Iff.intro
  · intro hor
    apply Or.elim hor
    · intro hnil
      have hlength := congrArg List.length hnil
      rw [List.length_map, List.length_range] at hlength
      cases hlength
    · exact id
  · exact Or.inr

theorem bytes_memcpy {source : Bytes} {size pos : ℕ} (hpos : pos < size) :
    (buffer.memcpy 0 source size).bytes pos = source pos := by
  have hstore := @Buffer.bytes_store buffer 0 ((List.range size).map source) pos (by simpa using hpos)
  rw [Nat.zero_add] at hstore
  unfold Buffer.memcpy
  rw [hstore]
  simp [hpos]

/-- A copied string that fits leaves a NUL byte where its length says, also when the last byte of the
buffer is cleared after it. -/
theorem copied_fits (hwithin : buffer.Within call.buf_len) {length : ℕ} (hlength : length < call.buf_len)
    (hnul : buffer.bytes length = 0) (handled : Bool) :
    (⟨strlenUpTo buffer.bytes length, buffer, handled⟩ : Handled).Fits call.buf_len := by
  apply Handled.Fits.mk hwithin
  intro _ _
  have hle := strlenUpTo_le buffer.bytes length
  apply And.intro
  · exact Int.ofNat_lt.mpr (Nat.lt_of_le_of_lt hle hlength)
  · exact strlenUpTo_nul hnul

theorem privateCommand_fits_iff (cmd : List UInt8) (hwithin : buffer.Within call.buf_len) :
    (privateCommand call cmd buffer).Fits call.buf_len ↔ call.PrivateFits := by
  have hpos := call.buf_len_pos
  have hcleared := within_memset call hwithin
  unfold privateCommand DriverCall.PrivateFits
  generalize buffer.memset 0 0 call.buf_len = cleared at hcleared
  cases call.answers.ioctl with
  | none =>
    dsimp only
    rw [snprintf_fits_iff call hcleared]
    rfl
  | some reply =>
    dsimp only
    have hlimit := strlenUpTo_le reply.bytes reply.limit
    have hlt := reply.limit_lt
    have hlength : (asInt reply.length + 1).toNat = reply.length + 1 := by
      unfold PrivateReply.length
      rw [asInt_of_lt (by omega)]
      rfl
    rw [hlength]
    have hcopied := within_memcpy_iff call hcleared reply.bytes reply.length
    have hnul : (cleared.memcpy 0 reply.bytes (reply.length + 1)).bytes reply.length = 0 := by
      rw [bytes_memcpy (Nat.lt_succ_self _)]
      exact strlenUpTo_nul reply.nul
    generalize cleared.memcpy 0 reply.bytes (reply.length + 1) = copied at hcopied hnul
    by_cases hbatching : (Pattern.startsNoCase "WLS_BATCHING").fits cmd = true
    · rw [if_pos hbatching]
      apply Iff.intro
      · intro hfits
        exact hcopied.mp (Buffer.within_store_iff.mp hfits.within).1
      · intro hfits
        have hended : (copied.store (call.buf_len - 1) [0]).Within call.buf_len := by
          rw [Buffer.within_store_iff, List.length_singleton]
          exact ⟨hcopied.mpr hfits, Or.inr (by omega)⟩
        apply copied_fits call hended hfits
        by_cases hlast : reply.length = call.buf_len - 1
        · rw [hlast]
          exact @Buffer.bytes_store copied (call.buf_len - 1) [0] 0 Nat.one_pos
        · rw [Buffer.bytes_store_of_lt (by omega)]
          exact hnul
    · rw [if_neg hbatching]
      apply Iff.intro
      · intro hfits
        exact hcopied.mp hfits.within
      · intro hfits
        exact copied_fits call (hcopied.mpr hfits) hfits hnul _

end Private

/-! ## Vendor commands -/

section Vendor

variable (call : DriverCall)

theorem replyBufSizePred_lt : replyBufSizePred call.buf_len < call.buf_len := by
  have hpos := call.buf_len_pos
  unfold replyBufSizePred
  omega

theorem replyBufSizePred_of_le {buf_len : ℕ} (hpos : 1 ≤ buf_len) (hle : buf_len ≤ 7) :
    replyBufSizePred buf_len = buf_len - 1 := by
  unfold replyBufSizePred
  omega

theorem length_strncpy (buffer : Buffer) (start size : ℕ) (source : Bytes) :
    buffer.strncpy start source size = buffer.store start ((List.range size).map fun pos ↦
      if pos < strlenUpTo source size then source pos else 0) := rfl

theorem within_strncpy {buffer : Buffer} {limit size : ℕ} (hsize : size ≤ limit)
    (hwithin : buffer.Within limit) (source : Bytes) : (buffer.strncpy 0 source size).Within limit := by
  rw [length_strncpy, Buffer.within_store_iff, List.length_map, List.length_range]
  exact ⟨hwithin, Or.inr (by omega)⟩

theorem bytes_strncpy {buffer : Buffer} {size pos : ℕ} {source : Bytes} (hpos : pos < size) :
    (buffer.strncpy 0 source size).bytes pos =
      if pos < strlenUpTo source size then source pos else 0 := by
  have hstore := @Buffer.bytes_store buffer 0 ((List.range size).map fun pos ↦
    if pos < strlenUpTo source size then source pos else 0) pos (by simpa using hpos)
  rw [Nat.zero_add] at hstore
  rw [length_strncpy, hstore]
  simp [hpos]

/-- What a message with vendor data leaves behind. -/
structure ReplyInfo.Holds (reply_info : ReplyInfo) (last limit : ℕ) (data : Bytes) : Prop where
  within : reply_info.buffer.Within limit
  writes : reply_info.buffer.writes ≠ []
  reply_len : reply_info.reply_len = strlenUpTo reply_info.buffer.bytes last
  nul : reply_info.buffer.bytes last = 0
  text : reply_info.reply_len = 0 ↔ last = 0 ∨ data 0 = 0

theorem holds_handler {reply_info : ReplyInfo} {last limit : ℕ} (hlast : last < limit)
    (hwithin : reply_info.buffer.Within limit) (data : Bytes) :
    (vendorCmdReplyInfoHandler last reply_info (some data)).Holds last limit data := by
  unfold vendorCmdReplyInfoHandler
  dsimp only
  have hcopied := within_strncpy (Nat.le_of_lt hlast) hwithin data
  have hnul := @Buffer.bytes_store (reply_info.buffer.strncpy 0 data last) last [0] 0 Nat.one_pos
  apply ReplyInfo.Holds.mk
  · dsimp only
    rw [Buffer.within_store_iff, List.length_singleton]
    exact ⟨hcopied, Or.inr (by omega)⟩
  · exact List.append_ne_nil_of_right_ne_nil _ (List.cons_ne_nil _ _)
  · rfl
  · exact hnul
  · dsimp only
    rw [strlenUpTo_eq_zero_iff]
    by_cases hzero : last = 0
    · exact iff_of_true (Or.inl hzero) (Or.inl hzero)
    · have hpos : 0 < last := Nat.pos_of_ne_zero hzero
      rw [Buffer.bytes_store_of_lt hpos, bytes_strncpy hpos]
      apply or_congr_right
      have hempty := strlenUpTo_eq_zero_iff data last
      by_cases hdata : data 0 = 0
      · have hlength := hempty.mpr (Or.inr hdata)
        rw [if_neg (by omega)]
        exact iff_of_true rfl hdata
      · have hlength : 0 < strlenUpTo data last := by
          apply Nat.pos_of_ne_zero
          intro hnone
          exact (hempty.mp hnone).elim hzero hdata
        rw [if_pos hlength]

/-- The messages of a command leave the buffer as it is, or as the last one with vendor data does. -/
theorem foldl_handler (replies : List (Option Bytes)) (reply_info : ReplyInfo) {last limit : ℕ}
    (hlast : last < limit) (hwithin : reply_info.buffer.Within limit) :
    match (replies.filterMap id).getLast? with
    | none => replies.foldl (vendorCmdReplyInfoHandler last) reply_info = reply_info
    | some data => (replies.foldl (vendorCmdReplyInfoHandler last) reply_info).Holds last limit data := by
  induction replies using List.reverseRecOn with
  | nil => rfl
  | append_singleton replies reply ih =>
    rw [List.filterMap_append, List.foldl_append, List.foldl_cons, List.foldl_nil]
    cases reply with
    | none =>
      rw [show [none].filterMap id = ([] : List Bytes) from rfl, List.append_nil]
      exact ih
    | some data =>
      rw [show [some data].filterMap id = [data] from rfl, List.getLast?_concat]
      apply holds_handler hlast
      cases hearlier : (replies.filterMap id).getLast? with
      | none =>
        rw [hearlier] at ih
        dsimp only at ih
        rw [ih]
        exact hwithin
      | some earlier =>
        rw [hearlier] at ih
        exact ih.within

/-- The text of a failure fits with its NUL byte, or just without it before a byte that is NUL
already. -/
theorem failed_fits_iff {buffer : Buffer} (hwithin : buffer.Within call.buf_len) (handled : Bool) :
    (⟨(bytesOf "FAILED").length,
        buffer.strncpy 0 (inMemory (bytesOf "FAILED")) (call.buf_len - 1), handled⟩ : Handled).Fits
          call.buf_len ↔
      7 < call.buf_len ∨ (call.buf_len = 7 ∧ buffer.bytes 6 = 0) := by
  have hcopied := within_strncpy (Nat.sub_le call.buf_len 1) hwithin (inMemory (bytesOf "FAILED"))
  have hwrites : (buffer.strncpy 0 (inMemory (bytesOf "FAILED")) (call.buf_len - 1)).writes ≠ [] :=
    List.append_ne_nil_of_right_ne_nil _ (List.cons_ne_nil _ _)
  have hlength : ((bytesOf "FAILED").length : ℤ) = 6 := rfl
  rw [hlength]
  have hiff : (⟨6, buffer.strncpy 0 (inMemory (bytesOf "FAILED")) (call.buf_len - 1),
      handled⟩ : Handled).Fits call.buf_len ↔ (6 : ℤ) < call.buf_len ∧
        (buffer.strncpy 0 (inMemory (bytesOf "FAILED")) (call.buf_len - 1)).bytes 6 = 0 := by
    apply Iff.intro
    · intro hfits
      exact hfits.nul hwrites (Int.natCast_nonneg 6)
    · intro hends
      exact ⟨hcopied, fun _ _ ↦ hends⟩
  rw [hiff]
  by_cases hroom : 7 < call.buf_len
  · have hbyte : (buffer.strncpy 0 (inMemory (bytesOf "FAILED")) (call.buf_len - 1)).bytes 6 = 0 := by
      rw [bytes_strncpy (by omega)]
      have hnul : inMemory (bytesOf "FAILED") 6 = 0 := rfl
      rw [hnul, ite_self]
    exact iff_of_true ⟨by omega, hbyte⟩ (Or.inl hroom)
  · by_cases hseven : call.buf_len = 7
    · have hbyte : (buffer.strncpy 0 (inMemory (bytesOf "FAILED")) (call.buf_len - 1)).bytes 6 =
          buffer.bytes 6 := by
        rw [length_strncpy, Buffer.bytes_store_of_le]
        rw [List.length_map, List.length_range]
        omega
      rw [hbyte]
      apply Iff.intro
      · intro hends
        exact Or.inr ⟨hseven, hends.2⟩
      · intro hor
        exact ⟨by omega, (hor.resolve_left hroom).2⟩
    · apply iff_of_false
      · intro hends
        have hlt := hends.1
        omega
      · intro hor
        exact hor.elim hroom fun hboth ↦ hseven hboth.1

theorem asInt_eq_zero_iff {value : ℕ} (hvalue : value < 2 ^ 32) : asInt value = 0 ↔ value = 0 := by
  unfold asInt
  split <;> omega

theorem toNat_asInt {value : ℕ} (hvalue : value < 2 ^ 32) (hnonneg : 0 ≤ asInt value) :
    asInt value = value := by
  apply asInt_of_lt
  unfold asInt at hnonneg
  split at hnonneg <;> omega

/-- A reply of the driver that is kept ends where its length says. -/
theorem kept_fits {reply_info : ReplyInfo} {data : Bytes}
    (hholds : reply_info.Holds (replyBufSizePred call.buf_len) call.buf_len data) (handled : Bool) :
    (⟨asInt reply_info.reply_len, reply_info.buffer, handled⟩ : Handled).Fits call.buf_len := by
  apply Handled.Fits.mk hholds.within
  intro _ hnonneg
  have hle := strlenUpTo_le reply_info.buffer.bytes (replyBufSizePred call.buf_len)
  have hlt := replyBufSizePred_lt call
  have hbound : replyBufSizePred call.buf_len < 2 ^ 32 := by
    unfold replyBufSizePred
    omega
  have hlen := hholds.reply_len
  dsimp only at hnonneg ⊢
  rw [toNat_asInt (by omega) hnonneg]
  apply And.intro
  · exact Int.ofNat_lt.mpr (by omega)
  · rw [Int.toNat_natCast, hlen]
    exact strlenUpTo_nul hholds.nul

theorem transparentCommand_fits_iff (hsupported : call.answers.string_cmd ≠ -eopnotsupp) :
    (transparentCommand call ⟨call.buf, []⟩).Fits call.buf_len ↔
      (call.answers.string_cmd ≠ 0 → ¬ call.LeavesText → 7 < call.buf_len ∨
        (call.buf_len = 7 ∧ (call.answers.lastReply ≠ none ∨ call.buf 6 = 0))) := by
  have hpos := call.buf_len_pos
  have hfold := foldl_handler call.answers.replies ⟨⟨call.buf, []⟩, 0⟩ (replyBufSizePred_lt call)
    (within_untouched _ _)
  have hhandled : decide (call.answers.string_cmd ≠ -eopnotsupp) = true := decide_eq_true hsupported
  unfold transparentCommand DriverCall.LeavesText DriverAnswers.lastReply
  dsimp only
  generalize call.answers.replies.foldl
    (vendorCmdReplyInfoHandler (replyBufSizePred call.buf_len)) ⟨⟨call.buf, []⟩, 0⟩ = reply_info at hfold ⊢
  cases hlast : (call.answers.replies.filterMap id).getLast? with
  | none =>
    rw [hlast] at hfold
    dsimp only at hfold
    rw [hfold]
    by_cases hzero : call.answers.string_cmd = 0
    · rw [if_neg fun hall ↦ hall.2.1 hzero]
      exact iff_of_true (fits_of_silent call _ _) fun hne ↦ absurd hzero hne
    · rw [if_pos ⟨hhandled, hzero, rfl⟩, failed_fits_iff call (within_untouched _ _)]
      have hnoText : ¬ ∃ data, (none : Option Bytes) = some data ∧ call.buf_len ≠ 1 ∧ data 0 ≠ 0 := by
        intro htext
        obtain ⟨data, hdata⟩ := htext
        cases hdata.1
      apply Iff.intro
      · intro hroom _ _
        exact hroom.imp_right fun hboth ↦ ⟨hboth.1, Or.inr hboth.2⟩
      · intro hroom
        exact (hroom hzero hnoText).imp_right fun hboth ↦
          ⟨hboth.1, hboth.2.resolve_left fun hne ↦ hne rfl⟩
  | some data =>
    rw [hlast] at hfold
    have hholds : reply_info.Holds (replyBufSizePred call.buf_len) call.buf_len data := hfold
    have hle := strlenUpTo_le reply_info.buffer.bytes (replyBufSizePred call.buf_len)
    have hbound : reply_info.reply_len < 2 ^ 32 := by
      have hlen := hholds.reply_len
      unfold replyBufSizePred at hle hlen
      omega
    have htext := hholds.text
    have hzeroLength := asInt_eq_zero_iff hbound
    by_cases hfailed : call.answers.string_cmd ≠ 0 ∧ reply_info.reply_len = 0
    · rw [if_pos ⟨hhandled, hfailed.1, hzeroLength.mpr hfailed.2⟩, failed_fits_iff call hholds.within]
      have hempty := htext.mp hfailed.2
      by_cases hroom : 7 < call.buf_len
      · exact iff_of_true (Or.inl hroom) fun _ _ ↦ Or.inl hroom
      · have hpred := replyBufSizePred_of_le hpos (by omega)
        have hnoText : ¬ ∃ kept, some data = some kept ∧ call.buf_len ≠ 1 ∧ kept 0 ≠ 0 := by
          intro hkept
          obtain ⟨kept, hboth⟩ := hkept
          rw [← Option.some.inj hboth.1] at hboth
          apply Or.elim hempty
          · intro hzero
            have hone := hboth.2.1
            omega
          · exact hboth.2.2
        by_cases hseven : call.buf_len = 7
        · have hnul := hholds.nul
          rw [hpred, hseven] at hnul
          apply iff_of_true (Or.inr ⟨hseven, hnul⟩)
          intro _ _
          exact Or.inr ⟨hseven, Or.inl (Option.some_ne_none _)⟩
        · apply iff_of_false
          · intro hor
            exact hor.elim hroom fun hboth ↦ hseven hboth.1
          · intro hfits
            exact (hfits hfailed.1 hnoText).elim hroom fun hboth ↦ hseven hboth.1
    · rw [if_neg fun hall ↦ hfailed ⟨hall.2.1, hzeroLength.mp hall.2.2⟩]
      apply iff_of_true (kept_fits call hholds _)
      intro hne hnoText
      apply absurd _ hnoText
      have hsome : reply_info.reply_len ≠ 0 := fun hzero ↦ hfailed ⟨hne, hzero⟩
      have hparts := not_or.mp fun hor ↦ hsome (htext.mpr hor)
      apply Exists.intro data
      apply And.intro rfl
      apply And.intro _ hparts.2
      intro hone
      apply hparts.1
      rw [hone]
      rfl

theorem within_transparentCommand :
    (transparentCommand call ⟨call.buf, []⟩).buffer.Within call.buf_len := by
  have hfold := foldl_handler call.answers.replies ⟨⟨call.buf, []⟩, 0⟩ (replyBufSizePred_lt call)
    (within_untouched _ _)
  unfold transparentCommand
  dsimp only
  generalize call.answers.replies.foldl
    (vendorCmdReplyInfoHandler (replyBufSizePred call.buf_len)) ⟨⟨call.buf, []⟩, 0⟩ = reply_info at hfold ⊢
  have hwithin : reply_info.buffer.Within call.buf_len := by
    cases hlast : (call.answers.replies.filterMap id).getLast? with
    | none =>
      rw [hlast] at hfold
      dsimp only at hfold
      rw [hfold]
      exact within_untouched _ _
    | some data =>
      rw [hlast] at hfold
      exact hfold.within
  split
  · exact within_strncpy (Nat.sub_le _ _) hwithin _
  · exact hwithin

end Vendor

/-! ## All commands -/

section Commands

variable (call : DriverCall)

theorem handled_getStaStatistics (addr : List UInt8) :
    (getStaStatistics call addr ⟨call.buf, []⟩).handled = true := by
  unfold getStaStatistics
  split
  · rfl
  · split <;> rfl

theorem handled_transparentCommand :
    (transparentCommand call ⟨call.buf, []⟩).handled =
      decide (call.answers.string_cmd ≠ -eopnotsupp) := by
  unfold transparentCommand
  dsimp only
  split <;> rfl

/-- A command of the chain, with the private ioctl behind it if it is not handled. -/
def completed (run : Handled) : Handled :=
  if run.handled then run else privateCommand call call.cmd run.buffer

theorem completed_fits_iff :
    (completed call (runCommand call call.cmd ⟨call.buf, []⟩)).Fits call.buf_len ↔ call.ReplyFits := by
  have hsilent : ∀ ret, (⟨ret, ⟨call.buf, []⟩, true⟩ : Handled).Fits call.buf_len ↔ True :=
    fun ret ↦ iff_of_true (fits_of_silent call ret true) trivial
  unfold runCommand DriverCall.ReplyFits completed
  cases commandOf call.cmd with
  | getStaStatistics =>
    dsimp only
    by_cases hwpa : call.wpa_s = true
    · rw [if_pos hwpa, if_pos (handled_getStaStatistics call _), getStaStatistics_fits_iff]
      exact ⟨fun hfits _ ↦ hfits, fun hfits ↦ hfits hwpa⟩
    · rw [if_neg hwpa]
      exact iff_of_true (fits_of_silent call _ _) fun hsome ↦ absurd hsome hwpa
  | macaddr => exact macaddrReply_fits_iff call
  | getpower => exact hsilent _
  | setSuspendMode => exact privateCommand_fits_iff call call.cmd (within_untouched _ _)
  | transparent =>
    dsimp only
    by_cases hunsupported : call.answers.string_cmd = -eopnotsupp
    · rw [if_pos hunsupported, if_neg]
      · exact privateCommand_fits_iff call call.cmd (within_transparentCommand call)
      · rw [handled_transparentCommand, decide_eq_true_eq]
        exact not_not_intro hunsupported
    · rw [if_neg hunsupported, if_pos, transparentCommand_fits_iff call hunsupported]
      rw [handled_transparentCommand, decide_eq_true_eq]
      exact hunsupported
  | _ => exact hsilent _

/-- A reply is in the buffer, and its result where its text ends, exactly when the command is refused or
the text fits: the statistics with their NUL byte (or the NUL byte alone), 28 bytes of an address, the
reply of the private ioctl, and the text of a failure. -/
theorem driverCmd_fits_iff :
    (driverCmd call).Fits call.buf_len ↔ (call.Accepted → call.ReplyFits) := by
  unfold driverCmd
  dsimp only
  by_cases haccepted : call.Accepted
  · rw [if_pos haccepted]
    apply Iff.intro
    · intro hfits _
      exact (completed_fits_iff call).mp hfits
    · intro hfits
      exact (completed_fits_iff call).mpr (hfits haccepted)
  · rw [if_neg haccepted]
    exact iff_of_true (fits_of_silent call _ _) fun hyes ↦ absurd hyes haccepted

def noClasses : TrafficClasses := ⟨0, 0, 0, 0⟩

def noStatistics : StaStatistics where
  addr := fun _ ↦ 0
  flag := 0
  link_score := 0
  per := 0
  rssi := 0
  phy_mode := 0
  tx_rate := 0
  tx_total_cnt := 0
  tx_exc_threshold_cnt := 0
  tx_avg_process_time := 0
  tx_fail_cnt := 0
  tx_timeout_cnt := 0
  tx_avg_air_time := 0
  tc_buf_full_cnt := noClasses
  tc_que_len := noClasses
  tc_avg_que_len := noClasses
  tc_cur_que_len := noClasses
  reserved := fun _ ↦ 0

def quietDriver : DriverAnswers where
  set_country := 0
  set_iface_flags := 0
  set_wapi_key := 0
  send_msg := 0
  testmode := 0
  sta_statistics := noStatistics
  socket := true
  ioctl := none
  replies := []
  string_cmd := 0

/-- `MACADDR` with a buffer of sixteen bytes. -/
def macaddrInSixteen : DriverCall where
  drv := true
  ctx := true
  ap := false
  conf := true
  own_addr := fun _ ↦ 0
  hwaddr_aton := fun _ ↦ false
  answers := quietDriver
  cmd_src := bytesOf "MACADDR"
  buf := fun _ ↦ 0
  buf_len := 16
  buf_len_pos := by decide

/-- The result is the length of the whole text, behind the end of the buffer. -/
theorem macaddrInSixteen_overlong :
    (driverCmd macaddrInSixteen).ret = 28 ∧ ¬ (driverCmd macaddrInSixteen).Fits 16 := by
  have hreply : driverCmd macaddrInSixteen = macaddrReply macaddrInSixteen ⟨fun _ ↦ 0, []⟩ := rfl
  rw [hreply]
  apply And.intro rfl
  intro hfits
  have hroom := (macaddrReply_fits_iff macaddrInSixteen).mp hfits
  exact absurd hroom (by decide)

end Commands

end HardwareMediatek.Supplicant
