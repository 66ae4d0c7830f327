import HtmlTemplate.Json.Token
import HtmlTemplate.Proofs.Json.Numbers

/-!
# `HtmlTemplate.Proofs.Json.Lexing`: tokens come back from their text

Tokens are written one after the other without space, and the lexer finds
them again (`tokens?_compactText`). Only a number does not say itself
where it ends, so a delimiter or the end of the text has to follow it.
`Separated` lists keep this rule.

The lexer reads one character at a time. The lemmas `foldlM_step?_…` say
where it is after the text of a token, one lemma for each of its modes.
A number is not a token yet when its last character is read. But the
lexer goes on as if it were (`finish?_after_number`).

`decode?_pieces` is the step from the pieces of a string to its text.
-/

set_option autoImplicit false

namespace HtmlTemplate.Json

/-! ### The text of a string -/

/-- A code unit that is no half of a surrogate pair is a character. -/
theorem decodeChars?_unit {code : Nat} (h : code < 0xD800) (ps : List Piece) :
    decodeChars? (.unit code :: ps) = (decodeChars? ps).map (Char.ofNat code :: ·) := by
  have hhigh : isHighSurrogate code = false := by simp [isHighSurrogate]; omega
  have hlow : isLowSurrogate code = false := by simp [isLowSurrogate]; omega
  -- The reader looks for a second unit before it decides.
  rw [decodeChars?.eq_def]
  cases ps with
  | nil => simp [hhigh, hlow]
  | cons p ps =>
    cases p with
    | char c => simp [hhigh, hlow]
    | unit low => simp [hhigh, hlow]

/-- The piece for a character stands for this character. A control character
is a code unit, and all others are themselves. -/
theorem decodeChars?_ofChar (c : Char) (ps : List Piece) :
    decodeChars? (Piece.ofChar c :: ps) = (decodeChars? ps).map (c :: ·) := by
  unfold Piece.ofChar
  split
  case isTrue h =>
    have hcontrol : c.toNat < 0x20 := by simp [isControl] at h; exact h.1
    rw [decodeChars?_unit (by omega), Char.ofNat_toNat]
  case isFalse => rfl

/-- The pieces of a text stand for this text. -/
theorem decode?_pieces (s : String) : decode? (pieces s) = some s := by
  have hchars : ∀ cs : List Char, decodeChars? (cs.map Piece.ofChar) = some cs := by
    intro cs
    induction cs with
    | nil => rfl
    | cons c cs ih => rw [List.map_cons, decodeChars?_ofChar, ih]; rfl
  rw [decode?, pieces, hchars, Option.map_some, String.ofList_toList]

/-! ### Lists of tokens that can be told apart -/

/-- A token that is always written the same way. -/
def Token.isFixed : Token → Bool
  | .string _ => false
  | .number _ => false
  | _ => true

/-- The tokens that can follow a value. -/
def Token.isDelimiter : Token → Bool
  | .comma => true
  | .closeArray => true
  | .closeObject => true
  | _ => false

/-- Nothing, or tokens with a delimiter in front. -/
def Delimited (ts : List Token) : Prop := ∀ t ∈ ts.head?, t.isDelimiter = true

/-- Tokens as they are written, with a delimiter after each number. -/
inductive Separated : List Token → Prop where
  | nil : Separated []
  | fixed {t : Token} {ts : List Token} (ht : t.isFixed = true) (hts : Separated ts) :
      Separated (t :: ts)
  | string (s : String) {ts : List Token} (hts : Separated ts) :
      Separated (.string (pieces s) :: ts)
  | number {l : NumberLiteral} {ts : List Token} (hl : l.IsWritten) (hend : Delimited ts)
      (hts : Separated ts) : Separated (.number l :: ts)

namespace Lexer

/-! ### Fixed tokens -/

/-- Between two tokens, the lexer reads a fixed token as a whole. -/
theorem foldlM_step?_fixed {t : Token} (ht : t.isFixed = true) (ts : List Token) :
    t.chars.foldlM step? ⟨ts, .between⟩ = some ⟨t :: ts, .between⟩ := by
  cases t with
  | string ps => cases ht
  | number l => cases ht
  | bool b => cases b <;> rfl
  | openArray => rfl
  | closeArray => rfl
  | openObject => rfl
  | closeObject => rfl
  | comma => rfl
  | colon => rfl
  | null => rfl

/-! ### Strings -/

/-- A hexadecimal digit is read as the number that it was written for. -/
theorem hexValue?_digitChar (n : Nat) (h : n < 16) : hexValue? (Nat.digitChar n) = some n := by
  revert n
  decide

/-- Four hexadecimal digits are the number of a code unit. -/
theorem foldlM_step?_hex4 (ts : List Token) (ps : List Piece) {code : Nat} (h : code < 0x10000) :
    (hex4 code).foldlM step? ⟨ts, .unit ps 4 0⟩ = some ⟨ts, .string (.unit code :: ps)⟩ := by
  -- A digit multiplies what is there by sixteen. The fourth one ends the unit.
  have hstep : ∀ n missing value : Nat, n < 16 → missing ≠ 1 →
      step? ⟨ts, .unit ps missing value⟩ (Nat.digitChar n)
        = some ⟨ts, .unit ps (missing - 1) (16 * value + n)⟩ := by
    intro n missing value hn hmissing
    simp [step?, hexValue?_digitChar n hn, hmissing]
  have hlast : ∀ n value : Nat, n < 16 →
      step? ⟨ts, .unit ps 1 value⟩ (Nat.digitChar n)
        = some ⟨ts, .string (.unit (16 * value + n) :: ps)⟩ := by
    intro n value hn
    simp [step?, hexValue?_digitChar n hn]
  have hvalue : 16 * (16 * (16 * (16 * 0 + code / 4096 % 16) + code / 256 % 16) + code / 16 % 16)
      + code % 16 = code := by omega
  have hlt : ∀ n : Nat, n % 16 < 16 := fun n => Nat.mod_lt n (by decide)
  unfold hex4
  simp only [List.map_cons, List.map_nil, List.foldlM_cons, List.foldlM_nil,
    hstep _ 4 _ (hlt _) (by decide), hstep _ 3 _ (hlt _) (by decide),
    hstep _ 2 _ (hlt _) (by decide), hlast _ _ (hlt _), Option.bind_eq_bind, Option.bind_some,
    Nat.reduceSub, hvalue]
  rfl

/-- A short escape is read as the character that it was written for. -/
theorem escaped?_of_shortEscape? {c letter : Char} (h : shortEscape? c = some letter) :
    letter ≠ 'u' ∧ escaped? letter = some c := by
  unfold shortEscape? at h
  split at h <;> cases h <;> decide

/-- The piece for a character is read back, whichever way it is written. -/
theorem foldlM_step?_ofChar (ts : List Token) (ps : List Piece) (c : Char) :
    (Piece.ofChar c).chars.foldlM step? ⟨ts, .string ps⟩
      = some ⟨ts, .string (Piece.ofChar c :: ps)⟩ := by
  have hbackslash : step? ⟨ts, .string ps⟩ '\\' = some ⟨ts, .escape ps⟩ := rfl
  unfold Piece.ofChar
  cases hshort : shortEscape? c with
  | some letter =>
    -- A backslash and a letter.
    obtain ⟨hu, hback⟩ := escaped?_of_shortEscape? hshort
    have hletter : step? ⟨ts, .escape ps⟩ letter = some ⟨ts, .string (.char c :: ps)⟩ := by
      simp [step?, hu, hback]
    simp [Piece.chars, hshort, hbackslash, hletter]
  | none =>
    by_cases hcontrol : isControl c = true
    · -- A code unit.
      have hcode : c.toNat < 0x20 := of_decide_eq_true hcontrol
      have hu : step? ⟨ts, .escape ps⟩ 'u' = some ⟨ts, .unit ps 4 0⟩ := rfl
      have hdigits := foldlM_step?_hex4 ts ps (by omega : c.toNat < 0x10000)
      simp [Piece.chars, hcontrol, hbackslash, hu, hdigits]
    · -- The character itself. It is neither a quote nor a backslash, since these have escapes.
      have hquote : c ≠ '"' := by
        rintro rfl
        cases hshort
      have hslash : c ≠ '\\' := by
        rintro rfl
        cases hshort
      simp [Piece.chars, hcontrol, hshort, step?, inString?, hquote, hslash]

/-- Inside a string, the lexer collects the pieces, the last one in front.
-/
theorem foldlM_step?_pieces (ts : List Token) (ps : List Piece) (cs : List Char) :
    ((cs.map Piece.ofChar).flatMap Piece.chars).foldlM step? ⟨ts, .string ps⟩
      = some ⟨ts, .string ((cs.map Piece.ofChar).reverse ++ ps)⟩ := by
  induction cs generalizing ps with
  | nil => rfl
  | cons c cs ih =>
    rw [List.map_cons, List.flatMap_cons, List.foldlM_append, foldlM_step?_ofChar]
    show ((cs.map Piece.ofChar).flatMap Piece.chars).foldlM step?
      ⟨ts, .string (Piece.ofChar c :: ps)⟩ = _
    rw [ih, List.reverse_cons, List.append_assoc]
    rfl

/-- The lexer reads a string from quote to quote. -/
theorem foldlM_step?_string (ts : List Token) (s : String) :
    (Token.string (pieces s)).chars.foldlM step? ⟨ts, .between⟩
      = some ⟨.string (pieces s) :: ts, .between⟩ := by
  have hopen : step? ⟨ts, .between⟩ '"' = some ⟨ts, .string []⟩ := rfl
  have hclose : ∀ ps : List Piece, step? ⟨ts, .string ps⟩ '"'
      = some ⟨.string ps.reverse :: ts, .between⟩ := fun ps => rfl
  unfold Token.chars pieces
  rw [List.foldlM_cons, hopen]
  show ((s.toList.map Piece.ofChar).flatMap Piece.chars ++ ['"']).foldlM step? ⟨ts, .string []⟩ = _
  rw [List.foldlM_append, foldlM_step?_pieces]
  show ['"'].foldlM step? ⟨ts, .string ((s.toList.map Piece.ofChar).reverse ++ [])⟩ = _
  rw [List.foldlM_cons, hclose, List.append_nil, List.reverse_reverse]
  rfl

/-! ### Numbers -/

/-- A number can hold digits. -/
theorem isNumberChar_of_isDigit {c : Char} (h : c.isDigit = true) : isNumberChar c = true := by
  simp [isNumberChar, h]

/-- It can hold what an exponent is made of. -/
theorem isNumberChar_of_mem_exponentChars {e : Option (Bool × List Char)}
    (h : ∀ negative ds, e = some (negative, ds) → ds ≠ [] ∧ ∀ c ∈ ds, c.isDigit = true)
    {c : Char} (hc : c ∈ NumberLiteral.exponentChars e) : isNumberChar c = true := by
  cases e with
  | none => cases hc
  | some p =>
    obtain ⟨negative, ds⟩ := p
    obtain ⟨-, hds⟩ := h negative ds rfl
    simp only [NumberLiteral.exponentChars, List.mem_cons] at hc
    rcases hc with rfl | rfl | hc
    · rfl
    · cases negative <;> rfl
    · exact isNumberChar_of_isDigit (hds c hc)

/-- A literal is made of characters that a number can hold. -/
theorem isNumberChar_of_mem_chars {l : NumberLiteral} (h : l.IsWritten) {c : Char}
    (hc : c ∈ l.chars) : isNumberChar c = true := by
  unfold NumberLiteral.chars at hc
  simp only [List.mem_append] at hc
  rcases hc with ((hc | hc) | hc) | hc
  · cases hnegative : l.negative with
    | true =>
      rw [hnegative] at hc
      cases List.mem_singleton.mp hc
      rfl
    | false =>
      rw [hnegative] at hc
      cases hc
  · exact isNumberChar_of_isDigit (h.whole c hc)
  · by_cases hfraction : l.fraction = []
    · rw [if_pos hfraction] at hc
      cases hc
    · rw [if_neg hfraction] at hc
      rcases List.mem_cons.mp hc with rfl | hc
      · rfl
      · exact isNumberChar_of_isDigit (h.fraction c hc)
  · exact isNumberChar_of_mem_exponentChars h.exponent hc

/-- A literal begins with a minus sign or a digit. -/
theorem exists_chars_eq_cons {l : NumberLiteral} (h : l.IsWritten) :
    ∃ c cs, l.chars = c :: cs ∧ (c = '-' ∨ c.isDigit = true) := by
  rw [NumberLiteral.chars_eq_append]
  cases l.negative with
  | true => exact ⟨'-', l.whole ++ l.tail, rfl, Or.inl rfl⟩
  | false =>
    obtain ⟨c, cs, hcs, hdigit⟩ := NumberLiteral.exists_whole_eq_cons h
    rw [hcs]
    exact ⟨c, cs ++ l.tail, rfl, Or.inr hdigit⟩

/-- Inside a number, the lexer collects the characters, the last one in
front. -/
theorem foldlM_step?_numberChars (ts : List Token) (read : List Char) {cs : List Char}
    (h : ∀ c ∈ cs, isNumberChar c = true) :
    cs.foldlM step? ⟨ts, .number read⟩ = some ⟨ts, .number (cs.reverse ++ read)⟩ := by
  induction cs generalizing read with
  | nil => rfl
  | cons c cs ih =>
    have hstep : step? ⟨ts, .number read⟩ c = some ⟨ts, .number (c :: read)⟩ := by
      simp [step?, h c List.mem_cons_self]
    rw [List.foldlM_cons, hstep]
    show cs.foldlM step? ⟨ts, .number (c :: read)⟩ = _
    rw [ih (c :: read) fun d hd => h d (List.mem_cons_of_mem c hd), List.reverse_cons,
      List.append_assoc]
    rfl

/-- After the text of a number, the lexer is still in this number. -/
theorem foldlM_step?_number (ts : List Token) {l : NumberLiteral} (h : l.IsWritten) :
    l.chars.foldlM step? ⟨ts, .between⟩ = some ⟨ts, .number l.chars.reverse⟩ := by
  obtain ⟨c, cs, hcs, hfirst⟩ := exists_chars_eq_cons h
  have hstart : step? ⟨ts, .between⟩ c = some ⟨ts, .number [c]⟩ := by
    rcases hfirst with rfl | hdigit
    · rfl
    · have hspace : isSpace c = false := by
        -- White space is no digit.
        cases hspace : isSpace c with
        | false => rfl
        | true =>
          simp only [isSpace, Bool.or_eq_true, decide_eq_true_eq] at hspace
          rcases hspace with ((rfl | rfl) | rfl) | rfl <;> cases hdigit
      simp [step?, start?, hspace, hdigit]
  have hrest : ∀ d ∈ cs, isNumberChar d = true := fun d hd =>
    isNumberChar_of_mem_chars h (hcs ▸ List.mem_cons_of_mem c hd)
  rw [hcs, List.foldlM_cons, hstart]
  show cs.foldlM step? ⟨ts, .number [c]⟩ = _
  rw [foldlM_step?_numberChars ts [c] hrest, List.reverse_cons]

/-- In front of a delimiter or at the end of the text, it makes no
difference whether the lexer is still in a number or has finished it. -/
theorem finish?_after_number (done : List Token) {l : NumberLiteral} (hl : l.IsWritten)
    {ts : List Token} (hts : Delimited ts) :
    ((ts.flatMap Token.chars).foldlM step? ⟨done, .number l.chars.reverse⟩).bind finish?
      = ((ts.flatMap Token.chars).foldlM step? ⟨.number l :: done, .between⟩).bind finish? := by
  have hback : NumberLiteral.ofChars? l.chars.reverse.reverse = some l := by
    rw [List.reverse_reverse]
    exact NumberLiteral.ofChars?_chars hl
  -- A character that ends the number is read as if between two tokens.
  have hstep : ∀ c : Char, isNumberChar c = false →
      step? ⟨done, .number l.chars.reverse⟩ c = step? ⟨.number l :: done, .between⟩ c := by
    intro c hc
    simp only [step?, hc, hback]
    rfl
  cases ts with
  | nil =>
    -- The end of the text ends the number as well.
    show finish? ⟨done, .number l.chars.reverse⟩ = finish? ⟨.number l :: done, .between⟩
    simp only [finish?, hback]
    rfl
  | cons t ts =>
    have ht : t.isDelimiter = true := hts t rfl
    rw [List.flatMap_cons]
    cases t with
    | comma =>
      show ((',' :: ts.flatMap Token.chars).foldlM step? _).bind finish? = _
      rw [List.foldlM_cons, hstep ',' rfl]
      rfl
    | closeArray =>
      show ((']' :: ts.flatMap Token.chars).foldlM step? _).bind finish? = _
      rw [List.foldlM_cons, hstep ']' rfl]
      rfl
    | closeObject =>
      show (('}' :: ts.flatMap Token.chars).foldlM step? _).bind finish? = _
      rw [List.foldlM_cons, hstep '}' rfl]
      rfl
    | _ => cases ht

end Lexer

/-! ### Whole texts -/

open Lexer in
/-- The lexer finds separated tokens in their text. -/
theorem finish?_flatMap_chars {ts : List Token} (h : Separated ts) (done : List Token) :
    ((ts.flatMap Token.chars).foldlM step? ⟨done, .between⟩).bind finish?
      = some (done.reverse ++ ts) := by
  -- Token by token, with the tokens that are done in a stack.
  induction h generalizing done with
  | nil =>
    show finish? ⟨done, .between⟩ = _
    rw [List.append_nil]
    rfl
  | @fixed t ts ht hts ih =>
    rw [List.flatMap_cons, List.foldlM_append, foldlM_step?_fixed ht]
    show ((ts.flatMap Token.chars).foldlM step? ⟨t :: done, .between⟩).bind finish? = _
    rw [ih, List.reverse_cons, List.append_assoc]
    rfl
  | @string s ts hts ih =>
    rw [List.flatMap_cons, List.foldlM_append, foldlM_step?_string]
    show ((ts.flatMap Token.chars).foldlM step? ⟨.string (pieces s) :: done, .between⟩).bind
      finish? = _
    rw [ih, List.reverse_cons, List.append_assoc]
    rfl
  | @number l ts hl hend hts ih =>
    have hchars : (Token.number l).chars = l.chars := rfl
    rw [List.flatMap_cons, List.foldlM_append, hchars, foldlM_step?_number done hl]
    show ((ts.flatMap Token.chars).foldlM step? ⟨done, .number l.chars.reverse⟩).bind finish? = _
    rw [finish?_after_number done hl hend, ih, List.reverse_cons, List.append_assoc]
    rfl

/-- The characters of the compact text are those of the tokens. -/
theorem toList_compactText (ts : List Token) :
    (compactText ts).toList = ts.flatMap Token.chars := by
  -- The text grows at its end, character by character and token by token.
  have hpush : ∀ (cs : List Char) (out : String),
      (cs.foldl String.push out).toList = out.toList ++ cs := by
    intro cs
    induction cs with
    | nil => intro out; simp
    | cons c cs ih => intro out; simp [ih]
  have htokens : ∀ out : String,
      (ts.foldl (fun out t => t.chars.foldl String.push out) out).toList
        = out.toList ++ ts.flatMap Token.chars := by
    induction ts with
    | nil => intro out; simp
    | cons t ts ih =>
      intro out
      rw [List.foldl_cons, ih, hpush, List.flatMap_cons, List.append_assoc]
  exact htokens ""

/-- Separated tokens come back from their compact text. -/
theorem tokens?_compactText {ts : List Token} (h : Separated ts) :
    tokens? (compactText ts).toList = some ts := by
  rw [toList_compactText, tokens?, finish?_flatMap_chars h]
  rfl

end HtmlTemplate.Json
