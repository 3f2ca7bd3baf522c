import HardwareMediatek.Supplicant.DriverCommand
import Mathlib.Data.List.Forall2

/-!
# Tokens of a command

`tokenize_space` cuts a command into tokens in place: it stores a pointer to each token and writes a NUL
byte over the separator behind it. It is not told how many pointers there is room for.
-/

namespace HardwareMediatek.Supplicant

open Foundation

section Tokenizing

/-- The command in memory, the pointer that goes through it, and the pointers stored from `argv[0]` on. -/
structure Tokenizing where
  cmd : Bytes
  pos : ℕ
  argv : List ℕ

def isTokenEnd (byte : UInt8) : Bool := isSeparator byte ∨ byte = 0

/-- The inner loop of `tokenize_space`. -/
def skipToken (cmd : Bytes) (len : ℕ) : ℕ → ℕ → Option ℕ
  | 0, _ => none
  | fuel + 1, pos =>
    if isTokenEnd (cmd pos) then some pos
    else if len ≤ pos + 1 then some (pos + 1)
    else skipToken cmd len fuel (pos + 1)

/-- The outer loop. A token that the length has cut off is followed by one more. -/
def tokenizeLoop (len : ℕ) : ℕ → Tokenizing → Option Tokenizing
  | 0, _ => none
  | fuel + 1, state =>
    match skipToken state.cmd len (fuel + 1) state.pos with
    | none => none
    | some pos =>
      let argv := state.argv ++ [state.pos]
      if state.cmd pos = 0 then some ⟨state.cmd, pos, argv⟩
      else if isSeparator (state.cmd pos) then
        let cmd := Function.update state.cmd pos 0
        if len ≤ pos + 1 then some ⟨cmd, pos + 1, argv⟩
        else tokenizeLoop len fuel ⟨cmd, pos + 1, argv⟩
      else tokenizeLoop len fuel ⟨state.cmd, pos, argv⟩

/-- `tokenize_space`, with a bound on the rounds of its loops. -/
def tokenizeSpaceArgv (fuel : ℕ) (cmd : Bytes) (len : ℕ) : Option Tokenizing :=
  tokenizeLoop len fuel ⟨cmd, 0, []⟩

end Tokenizing

section Callers

/-- The string at a pointer into memory that has a NUL byte behind it. -/
def stringAt (bytes : Bytes) (limit pos : ℕ) : List UInt8 :=
  (List.range (strlenUpTo (fun k ↦ bytes (pos + k)) limit)).map fun k ↦ bytes (pos + k)

/-- `atoi` of a number that fits an `int`. -/
def atoi (text : List UInt8) : ℤ :=
  let rest := text.dropWhile isSpace
  let unsigned := if rest.head?.any isSign then rest.tail else rest
  let digits := (unsigned.takeWhile isDigit).map fun digit ↦ (digit.toNat : ℤ) - 48
  let value := digits.foldl (fun value digit ↦ 10 * value + digit) 0
  if rest.head? = some 45 then -value else value

/-- What a caller of `tokenize_space` stores and returns. -/
structure ArgvUse where
  stored : List ℕ
  ret : ℤ

/-- `argv` of the callers has 64 entries, all of them `NULL` at first. -/
def argvSize : ℕ := 64

/-- A command with three arguments, sent as a structure of numbers. -/
def p2pCtrlIface (paramsOf : (ℕ → List UInt8) → List UInt32) (testmode : List UInt32 → ℤ)
    (fuel : ℕ) (cmd : Bytes) (limit : ℕ) : Option ArgvUse :=
  (tokenizeSpaceArgv fuel cmd (strlenUpTo cmd limit)).map fun tokens ↦
    { stored := List.range tokens.argv.length
      ret :=
        if tokens.argv.length ≠ 4 then -1
        else testmode (paramsOf fun i ↦ stringAt tokens.cmd limit (tokens.argv.getD i 0)) }

/-- `wpa_driver_p2p_noa_params`: the header, `idx`, `value`, `count`, `interval` and `duration`. -/
def noaParams (argv : ℕ → List UInt8) : List UInt32 :=
  [1 ||| 0x01000000, 28, 4, 0, UInt32.ofInt (atoi (argv 1)), UInt32.ofInt (atoi (argv 2)),
    UInt32.ofInt (atoi (argv 3))]

def p2pCtrlIfaceSetNoa : (List UInt32 → ℤ) → ℕ → Bytes → ℕ → Option ArgvUse :=
  p2pCtrlIface noaParams

/-- `wpa_driver_p2p_sigma_params`: the header, `idx` and `value`, whose bit 7 is the switch of OPPS. -/
def psParams (argv : ℕ → List UInt8) : List UInt32 :=
  let ctw := UInt32.ofInt (atoi (argv 3))
  [1 ||| 0x01000000, 16, 107, if atoi (argv 2) ≠ 0 then ctw ||| 0x80 else ctw]

def p2pCtrlIfaceSetPs : (List UInt32 → ℤ) → ℕ → Bytes → ℕ → Option ArgvUse :=
  p2pCtrlIface psParams

end Callers

section Pieces

/-- The pieces between the separators, a final empty one dropped. -/
def piecesOf (text : List UInt8) : List (List UInt8) :=
  let pieces := text.splitOnP isSeparator
  if pieces.getLast? = some [] then pieces.dropLast else pieces

/-- The tokens: of the empty command its only piece. -/
def tokensOf (text : List UInt8) : List (List UInt8) := if text = [] then [[]] else piecesOf text

theorem piecesOf_of_last {text : List UInt8} (hne : text ≠ [])
    (hlast : ∀ byte ∈ text, isSeparator byte = false) : piecesOf text = [text] := by
  unfold piecesOf
  rw [List.splitOnP_eq_singleton hlast]
  apply if_neg
  exact fun h ↦ hne (Option.some.inj h)

theorem piecesOf_append {piece rest : List UInt8} (hpiece : ∀ byte ∈ piece, isSeparator byte = false)
    {sep : UInt8} (hsep : isSeparator sep = true) :
    piecesOf (piece ++ sep :: rest) = piece :: if rest = [] then [] else piecesOf rest := by
  have hsplit := List.splitOnP_append_cons_of_forall_mem hpiece sep hsep rest
  unfold piecesOf
  rw [hsplit]
  dsimp only
  cases rest with
  | nil => rfl
  | cons byte rest =>
    have hne := List.splitOnP_ne_nil isSeparator (byte :: rest)
    rw [List.getLast?_cons_of_ne_nil hne, List.dropLast_cons_of_ne_nil hne, if_neg (List.cons_ne_nil _ _)]
    split
    · rfl
    · rfl

theorem tokensOf_of_last {text : List UInt8} (hlast : ∀ byte ∈ text, isSeparator byte = false) :
    tokensOf text = [text] := by
  unfold tokensOf
  split
  · rename_i hempty
    rw [hempty]
  · rename_i hne
    exact piecesOf_of_last hne hlast

theorem tokensOf_append {piece rest : List UInt8} (hpiece : ∀ byte ∈ piece, isSeparator byte = false)
    {sep : UInt8} (hsep : isSeparator sep = true) :
    tokensOf (piece ++ sep :: rest) = piece :: if rest = [] then [] else tokensOf rest := by
  unfold tokensOf
  rw [if_neg (by simp), piecesOf_append hpiece hsep]
  split
  · rfl
  · rfl

end Pieces

section Memory

variable {cmd : Bytes} {len : ℕ}

/-- A string with its NUL byte in memory. -/
def HoldsString (bytes : Bytes) (pos : ℕ) (text : List UInt8) : Prop := Holds bytes pos (text ++ [0])

theorem holds_of_eq {bytes bytes' : Bytes} {pos : ℕ} {list : List UInt8} (hholds : Holds bytes pos list)
    (heq : ∀ k < list.length, bytes' (pos + k) = bytes (pos + k)) : Holds bytes' pos list :=
  fun k hk ↦ (heq k hk).trans (hholds k hk)

/-- The inner loop stops behind the piece it starts in. -/
theorem skipToken_of_piece {piece : List UInt8} {fuel pos : ℕ} (hfuel : piece.length < fuel)
    (hholds : Holds cmd pos piece) (hpiece : ∀ byte ∈ piece, isTokenEnd byte = false)
    (hend : isTokenEnd (cmd (pos + piece.length)) = true) (hlen : pos + piece.length ≤ len) :
    skipToken cmd len fuel pos = some (pos + piece.length) := by
  induction piece generalizing fuel pos with
  | nil =>
    obtain ⟨fuel, rfl⟩ := Nat.exists_eq_succ_of_ne_zero (Nat.ne_of_gt hfuel)
    exact if_pos hend
  | cons byte piece ih =>
    obtain ⟨fuel, rfl⟩ := Nat.exists_eq_succ_of_ne_zero (Nat.ne_of_gt (Nat.zero_lt_of_lt hfuel))
    rw [List.length_cons] at hfuel hlen hend ⊢
    obtain ⟨hbyte, hrest⟩ := (holds_cons byte piece).mp hholds
    obtain ⟨hfirst, hlater⟩ := List.forall_mem_cons.mp hpiece
    have hshift : pos + 1 + piece.length = pos + (piece.length + 1) := by omega
    unfold skipToken
    rw [hbyte, if_neg (by rw [hfirst]; decide)]
    split
    · have hlast : piece.length = 0 := by omega
      rw [hlast]
    · rw [ih (by omega) hrest hlater (by rwa [hshift]) (by omega), hshift]

/-- What the loop makes of the text from its pointer on. -/
structure Tokenized (text : List UInt8) (state final : Tokenizing) : Prop where
  tokens : ∃ starts, final.argv = state.argv ++ starts ∧
    List.Forall₂ (HoldsString final.cmd) starts (tokensOf text)
  kept : ∀ k < state.pos, final.cmd k = state.cmd k

theorem isTokenEnd_eq_false {text : List UInt8} (hnul : 0 ∉ text)
    (hsep : ∀ byte ∈ text, isSeparator byte = false) : ∀ byte ∈ text, isTokenEnd byte = false := by
  intro byte hbyte
  have hne : byte ≠ 0 := fun h ↦ hnul (h ▸ hbyte)
  simp [isTokenEnd, hsep byte hbyte, hne]

/-- The last token, ended by the NUL byte of the command. -/
theorem tokenized_last {fuel : ℕ} {text : List UInt8} {state : Tokenizing} (hfuel : text.length < fuel)
    (hlen : state.pos + text.length = len) (hholds : HoldsString state.cmd state.pos text)
    (hnul : 0 ∉ text) (hsep : ∀ byte ∈ text, isSeparator byte = false) :
    ∃ final, tokenizeLoop len fuel state = some final ∧ Tokenized text state final := by
  obtain ⟨htext, hzero⟩ := (holds_append text [0]).mp hholds
  have hend : state.cmd (state.pos + text.length) = 0 := ((holds_cons 0 []).mp hzero).1
  have hskip : skipToken state.cmd len fuel state.pos = some (state.pos + text.length) :=
    skipToken_of_piece hfuel htext (isTokenEnd_eq_false hnul hsep) (by rw [hend]; rfl) (Nat.le_of_eq hlen)
  obtain ⟨fuel, rfl⟩ := Nat.exists_eq_succ_of_ne_zero (Nat.ne_of_gt (Nat.zero_lt_of_lt hfuel))
  refine ⟨⟨state.cmd, state.pos + text.length, state.argv ++ [state.pos]⟩, ?_, ?_⟩
  · unfold tokenizeLoop
    rw [hskip]
    exact if_pos hend
  · apply Tokenized.mk
    · rw [tokensOf_of_last hsep]
      exact ⟨[state.pos], rfl, List.Forall₂.cons hholds List.Forall₂.nil⟩
    · exact fun _ _ ↦ rfl

/-- The state behind a piece and the separator behind it. -/
def Tokenizing.next (state : Tokenizing) (piece : List UInt8) : Tokenizing where
  cmd := Function.update state.cmd (state.pos + piece.length) 0
  pos := state.pos + piece.length + 1
  argv := state.argv ++ [state.pos]

variable {piece rest : List UInt8} {sep : UInt8} {state : Tokenizing}

theorem tokenizeLoop_piece {fuel : ℕ} (hfuel : piece.length < fuel + 1)
    (hlen : state.pos + piece.length + 1 + rest.length = len)
    (hholds : Holds state.cmd state.pos (piece ++ sep :: rest)) (hnul : 0 ∉ piece ++ sep :: rest)
    (hpiece : ∀ byte ∈ piece, isSeparator byte = false) (hsep : isSeparator sep = true) :
    tokenizeLoop len (fuel + 1) state =
      if rest = [] then some (state.next piece) else tokenizeLoop len fuel (state.next piece) := by
  obtain ⟨hstart, hbehind⟩ := (holds_append piece (sep :: rest)).mp hholds
  have hat : state.cmd (state.pos + piece.length) = sep := ((holds_cons sep rest).mp hbehind).1
  rw [List.mem_append, List.mem_cons, not_or, not_or] at hnul
  have hskip : skipToken state.cmd len (fuel + 1) state.pos = some (state.pos + piece.length) := by
    apply skipToken_of_piece hfuel hstart (isTokenEnd_eq_false hnul.1 hpiece)
    · rw [hat]
      simp [isTokenEnd, hsep]
    · omega
  have hempty : len ≤ state.pos + piece.length + 1 ↔ rest = [] := by
    rw [← List.length_eq_zero_iff]
    omega
  conv_lhs => unfold tokenizeLoop
  rw [hskip]
  dsimp only
  rw [hat, if_neg (Ne.symm hnul.2.1), if_pos hsep]
  simp only [hempty]
  rfl

/-- The token before a separator is a string, and what comes behind stays as it was. -/
theorem holdsString_next (hholds : HoldsString state.cmd state.pos (piece ++ sep :: rest)) :
    HoldsString (state.next piece).cmd state.pos piece ∧
      HoldsString (state.next piece).cmd (state.next piece).pos rest := by
  unfold HoldsString at hholds ⊢
  rw [List.append_assoc, List.cons_append] at hholds
  obtain ⟨hstart, hbehind⟩ := (holds_append piece (sep :: (rest ++ [0]))).mp hholds
  have hrest := ((holds_cons sep (rest ++ [0])).mp hbehind).2
  apply And.intro
  · apply (holds_append piece [0]).mpr
    apply And.intro
    · apply holds_of_eq hstart
      intro k hk
      exact Function.update_of_ne (by omega) _ _
    · exact (holds_cons 0 []).mpr ⟨Function.update_self _ _ _, holds_nil⟩
  · apply holds_of_eq hrest
    intro k hk
    exact Function.update_of_ne (by omega) _ _

/-- The tokens of what is left behind a piece are those behind the token of the piece. -/
theorem Tokenized.of_next {final : Tokenizing}
    (hholds : HoldsString state.cmd state.pos (piece ++ sep :: rest))
    (hpiece : ∀ byte ∈ piece, isSeparator byte = false) (hsep : isSeparator sep = true)
    (hne : rest ≠ []) (htokenized : Tokenized rest (state.next piece) final) :
    Tokenized (piece ++ sep :: rest) state final := by
  obtain ⟨⟨starts, hargv, htokens⟩, hkept⟩ := htokenized
  have hfirst : HoldsString final.cmd state.pos piece := by
    apply holds_of_eq (holdsString_next hholds).1
    intro k hk
    rw [List.length_append, List.length_singleton] at hk
    exact hkept _ (by unfold Tokenizing.next; dsimp only; omega)
  apply Tokenized.mk
  · apply Exists.intro (state.pos :: starts)
    rw [tokensOf_append hpiece hsep, if_neg hne]
    exact ⟨hargv.trans (List.append_assoc _ _ _), List.Forall₂.cons hfirst htokens⟩
  · intro k hk
    exact (hkept k (by unfold Tokenizing.next; dsimp only; omega)).trans
      (Function.update_of_ne (by omega) _ _)

/-- A separator at the very end starts no token. -/
theorem tokenized_next (hempty : rest = [])
    (hholds : HoldsString state.cmd state.pos (piece ++ sep :: rest))
    (hpiece : ∀ byte ∈ piece, isSeparator byte = false) (hsep : isSeparator sep = true) :
    Tokenized (piece ++ sep :: rest) state (state.next piece) := by
  apply Tokenized.mk
  · apply Exists.intro [state.pos]
    rw [tokensOf_append hpiece hsep, if_pos hempty]
    exact ⟨rfl, List.Forall₂.cons (holdsString_next hholds).1 List.Forall₂.nil⟩
  · intro k hk
    exact Function.update_of_ne (by omega) _ _

/-- The loop ends, and its tokens are those of the text. -/
theorem exists_tokenized {fuel : ℕ} {text : List UInt8} {state : Tokenizing} (hfuel : text.length < fuel)
    (hlen : state.pos + text.length = len) (hholds : HoldsString state.cmd state.pos text)
    (hnul : 0 ∉ text) :
    ∃ final, tokenizeLoop len fuel state = some final ∧ Tokenized text state final := by
  induction fuel generalizing text state with
  | zero => exact absurd hfuel (Nat.not_lt_zero _)
  | succ fuel ih =>
    cases hfind : text.find? isSeparator with
    | none =>
      have hsep := List.find?_eq_none.mp hfind
      exact tokenized_last hfuel hlen hholds hnul fun byte hbyte ↦ Bool.eq_false_iff.mpr (hsep byte hbyte)
    | some sep =>
      obtain ⟨hsep, piece, rest, rfl, hpiece⟩ := List.find?_eq_some_iff_append.mp hfind
      have hpiece' : ∀ byte ∈ piece, isSeparator byte = false :=
        fun byte hbyte ↦ Bool.not_inj (hpiece byte hbyte)
      rw [List.length_append, List.length_cons] at hfuel hlen
      have hloop : tokenizeLoop len (fuel + 1) state = _ :=
        tokenizeLoop_piece (by omega) (by omega) ((holds_append _ _).mp hholds).1 hnul hpiece' hsep
      rw [hloop]
      split
      · rename_i hempty
        exact ⟨state.next piece, rfl, tokenized_next hempty hholds hpiece' hsep⟩
      · rename_i hne
        have hrest : rest.length < fuel := by omega
        have hnext : (state.next piece).pos + rest.length = len := by
          unfold Tokenizing.next
          dsimp only
          omega
        have hnul' : 0 ∉ rest := fun h ↦ hnul (List.mem_append_right _ (List.mem_cons_of_mem _ h))
        obtain ⟨final, hfinal, htokenized⟩ := ih hrest hnext (holdsString_next hholds).2 hnul'
        exact ⟨final, hfinal, htokenized.of_next hholds hpiece' hsep hne⟩

end Memory

section Commands

variable {text : List UInt8}

/-- `tokenize_space` ends with the tokens of its text, whatever more rounds it is allowed. -/
theorem exists_tokenizeSpaceArgv (hnul : 0 ∉ text) {cmd : Bytes} (hholds : HoldsString cmd 0 text)
    {fuel : ℕ} (hfuel : text.length < fuel) :
    ∃ final, tokenizeSpaceArgv fuel cmd text.length = some final ∧
      List.Forall₂ (HoldsString final.cmd) final.argv (tokensOf text) := by
  let start : Tokenizing := ⟨cmd, 0, []⟩
  have hstart : HoldsString start.cmd start.pos text := hholds
  obtain ⟨final, hfinal, htokenized⟩ := exists_tokenized hfuel (Nat.zero_add _) hstart hnul
  obtain ⟨starts, hargv, htokens⟩ := htokenized.tokens
  rw [List.nil_append] at hargv
  exact ⟨final, hfinal, hargv ▸ htokens⟩

/-- A byte that is no separator belongs to the first token. -/
theorem length_tokensOf_cons {byte : UInt8} (hbyte : isSeparator byte = false) (text : List UInt8) :
    (tokensOf (byte :: text)).length = (tokensOf text).length := by
  cases hfind : text.find? isSeparator with
  | none =>
    have hsep : ∀ byte ∈ text, isSeparator byte = false :=
      fun byte hbyte ↦ Bool.eq_false_iff.mpr (List.find?_eq_none.mp hfind byte hbyte)
    rw [tokensOf_of_last hsep, tokensOf_of_last (List.forall_mem_cons.mpr ⟨hbyte, hsep⟩)]
    rfl
  | some sep =>
    obtain ⟨hsep, piece, rest, rfl, hpiece⟩ := List.find?_eq_some_iff_append.mp hfind
    have hpiece' : ∀ byte ∈ piece, isSeparator byte = false :=
      fun byte hbyte ↦ Bool.not_inj (hpiece byte hbyte)
    rw [← List.cons_append, tokensOf_append hpiece' hsep,
      tokensOf_append (List.forall_mem_cons.mpr ⟨hbyte, hpiece'⟩) hsep]
    rfl

/-- As many tokens as the command is counted to have. -/
theorem length_tokensOf (text : List UInt8) : (tokensOf text).length = tokenizeSpace text := by
  induction text with
  | nil => rfl
  | cons byte text ih =>
    cases hbyte : isSeparator byte with
    | false =>
      rw [length_tokensOf_cons hbyte, ih]
      cases text with
      | nil => rfl
      | cons next text =>
        conv_rhs => unfold tokenizeSpace
        rw [hbyte]
        rfl
    | true =>
      have happend : tokensOf ([] ++ byte :: text) = _ :=
        tokensOf_append (fun _ h ↦ absurd h List.not_mem_nil) hbyte
      rw [List.nil_append] at happend
      rw [happend]
      cases text with
      | nil => rfl
      | cons next text =>
        conv_rhs => unfold tokenizeSpace
        rw [if_neg (List.cons_ne_nil _ _), List.length_cons, ih, hbyte]
        rfl

/-- A caller ends, and stores nothing behind its array. -/
def StaysInside (caller : (List UInt32 → ℤ) → ℕ → Bytes → ℕ → Option ArgvUse) (text : List UInt8) : Prop :=
  ∀ testmode cmd limit, text.length ≤ limit → HoldsString cmd 0 text → ∀ fuel, text.length < fuel →
    ∃ argv, caller testmode fuel cmd limit = some argv ∧ ∀ i ∈ argv.stored, i < argvSize

/-- A command is cut into its pieces, and its callers stay inside their array. -/
structure TokenizesSafely (text : List UInt8) : Prop where
  tokens : ∀ cmd, HoldsString cmd 0 text → ∀ fuel, text.length < fuel →
    ∃ final, tokenizeSpaceArgv fuel cmd text.length = some final ∧
      List.Forall₂ (HoldsString final.cmd) final.argv (piecesOf text)
  setNoa : StaysInside p2pCtrlIfaceSetNoa text
  setPs : StaysInside p2pCtrlIfaceSetPs text

/-- What the callers store: a pointer for each token. -/
theorem p2pCtrlIface_stored (paramsOf : (ℕ → List UInt8) → List UInt32) (testmode : List UInt32 → ℤ)
    (hnul : 0 ∉ text) {cmd : Bytes} (hholds : HoldsString cmd 0 text) {limit fuel : ℕ}
    (hlimit : text.length ≤ limit) (hfuel : text.length < fuel) :
    ∃ argv, p2pCtrlIface paramsOf testmode fuel cmd limit = some argv ∧
      argv.stored = List.range (tokensOf text).length := by
  obtain ⟨final, hfinal, htokens⟩ := exists_tokenizeSpaceArgv hnul hholds hfuel
  unfold p2pCtrlIface
  rw [strlenUpTo_of_holds hlimit hnul hholds, hfinal]
  exact ⟨_, rfl, congrArg List.range htokens.length_eq⟩

theorem holdsString_inMemory (text : List UInt8) : HoldsString (inMemory text) 0 text := by
  intro k hk
  unfold inMemory
  rw [Nat.zero_add, List.getElem_append]
  split
  · rename_i hlt
    exact List.getD_eq_getElem _ _ hlt
  · rename_i hge
    rw [List.getD_eq_default _ _ (Nat.not_lt.mp hge), List.getElem_singleton]

/-- A caller needs an entry of its array for each token. -/
theorem staysInside_iff (paramsOf : (ℕ → List UInt8) → List UInt32) (hnul : 0 ∉ text) :
    StaysInside (p2pCtrlIface paramsOf) text ↔ (tokensOf text).length ≤ argvSize := by
  constructor
  · intro h
    have hholds := holdsString_inMemory text
    obtain ⟨argv, hargv, hinside⟩ := h (fun _ ↦ 0) (inMemory text) text.length (Nat.le_refl _) hholds
      (text.length + 1) (Nat.lt_succ_self _)
    obtain ⟨argv', hargv', hstored⟩ := p2pCtrlIface_stored paramsOf (fun _ ↦ 0) hnul hholds
      (Nat.le_refl _) (Nat.lt_succ_self _)
    obtain rfl := Option.some.inj (hargv.symm.trans hargv')
    rw [hstored] at hinside
    by_contra hlt
    exact absurd (hinside argvSize (List.mem_range.mpr (Nat.not_le.mp hlt))) (Nat.lt_irrefl _)
  · intro hle testmode cmd limit hlimit hholds fuel hfuel
    obtain ⟨argv, hargv, hstored⟩ := p2pCtrlIface_stored paramsOf testmode hnul hholds hlimit hfuel
    apply Exists.intro argv
    apply And.intro hargv
    intro i hi
    rw [hstored, List.mem_range] at hi
    exact Nat.lt_of_lt_of_le hi hle

theorem tokensOf_eq_piecesOf_iff (text : List UInt8) : tokensOf text = piecesOf text ↔ text ≠ [] := by
  unfold tokensOf
  split
  · rename_i hempty
    rw [hempty]
    exact iff_of_false (by decide) (not_not_intro rfl)
  · rename_i hne
    exact iff_of_true rfl hne

/-- The pieces are the tokens of every command but the empty one. -/
theorem tokenized_pieces_iff (hnul : 0 ∉ text) :
    (∀ cmd, HoldsString cmd 0 text → ∀ fuel, text.length < fuel →
        ∃ final, tokenizeSpaceArgv fuel cmd text.length = some final ∧
          List.Forall₂ (HoldsString final.cmd) final.argv (piecesOf text)) ↔ text ≠ [] := by
  constructor
  · intro h hempty
    obtain ⟨final, hfinal, hpieces⟩ := h (inMemory text) (holdsString_inMemory text) (text.length + 1)
      (Nat.lt_succ_self _)
    obtain ⟨final', hfinal', htokens⟩ := exists_tokenizeSpaceArgv hnul (holdsString_inMemory text)
      (Nat.lt_succ_self _)
    obtain rfl := Option.some.inj (hfinal.symm.trans hfinal')
    have hlength := hpieces.length_eq.symm.trans htokens.length_eq
    rw [hempty] at hlength
    exact absurd hlength (by decide)
  · intro hne cmd hholds fuel hfuel
    rw [← (tokensOf_eq_piecesOf_iff text).mpr hne]
    exact exists_tokenizeSpaceArgv hnul hholds hfuel

/-- Nothing but the number of pieces keeps the callers inside their array. -/
theorem tokenizesSafely_iff (hnul : 0 ∉ text) :
    TokenizesSafely text ↔ text ≠ [] ∧ (piecesOf text).length ≤ argvSize := by
  have hpieces := tokenized_pieces_iff hnul
  constructor
  · intro hsafe
    have hne := hpieces.mp hsafe.tokens
    apply And.intro hne
    rw [← (tokensOf_eq_piecesOf_iff text).mpr hne]
    exact (staysInside_iff noaParams hnul).mp hsafe.setNoa
  · intro h
    obtain ⟨hne, hle⟩ := h
    rw [← (tokensOf_eq_piecesOf_iff text).mpr hne] at hle
    exact ⟨hpieces.mpr hne, (staysInside_iff noaParams hnul).mpr hle,
      (staysInside_iff psParams hnul).mpr hle⟩

theorem tokenizesSafely_setNoa :
    TokenizesSafely (bytesOf "P2P_SET_NOA 255 100 3") ↔
      bytesOf "P2P_SET_NOA 255 100 3" ≠ [] ∧
        (piecesOf (bytesOf "P2P_SET_NOA 255 100 3")).length ≤ argvSize :=
  tokenizesSafely_iff (by decide)

/-- A command of 65 tokens, most of them empty. -/
theorem not_tokenizesSafely :
    ¬ TokenizesSafely (bytesOf "P2P_SET_NOA" ++ List.replicate 64 32 ++ bytesOf "3") := by
  intro hsafe
  have hle := (staysInside_iff noaParams (by decide)).mp hsafe.setNoa
  rw [length_tokensOf] at hle
  exact absurd hle (by decide)

end Commands

end HardwareMediatek.Supplicant
