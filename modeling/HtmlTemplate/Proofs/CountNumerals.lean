import HtmlTemplate.Environment
import HtmlTemplate.Proofs.Json.Numbers
import Mathlib.Data.List.TakeWhile

/-!
# `HtmlTemplate.Proofs.CountNumerals`: which texts are counts

A number in an environment variable is read digit by digit, and the reader
stops where the number gets too large or the digits end. The main theorem,
`count_reads_numerals`, says what comes of this without following the
reader.

* A number is read exactly if the trimmed text is a `Numeral`: digits, with
  at most one plus sign in front, below `2 ^ 64`. Zeros in front do not
  matter, however many there are.
* Otherwise the first of three reasons is given that applies: the text is
  empty, its run of digits (`digitRun`) is too large by itself, or it has a
  character that does not belong there. So a large number wins over a bad
  character behind it.

`appendDigits_eq` is the invariant of the reader: the number so far is below
the limit, and digits never make it smaller (`le_ofDigitChars`), so it is
too large in the end exactly if it is too large at some point.

Which text is the trimmed one is said by `IsTrimmed`: white space is cut off
at both ends, and none is left there.
-/

set_option autoImplicit false

namespace HtmlTemplate

/-! ### Digits one after the other -/

/-- More digits do not make a number smaller. -/
theorem le_ofDigitChars (n : Nat) (ds : List Char) : n ≤ Nat.ofDigitChars 10 ds n := by
  rw [Nat.ofDigitChars_eq_ofDigitChars_zero]
  exact Nat.le_add_right_of_le (Nat.le_mul_of_pos_left n (Nat.pow_pos (by decide)))

/-- The reader fails if the digits at the start make too large a number, and
else at the first character that is no digit. -/
theorem appendDigits_eq {n : Nat} (hn : n < 0x10000000000000000) (cs : List Char) :
    appendDigits n cs =
      if 0x10000000000000000 ≤ Nat.ofDigitChars 10 (cs.takeWhile Char.isDigit) n then
        .error .tooLarge
      else if cs.all Char.isDigit then .ok (Nat.ofDigitChars 10 cs n)
      else .error .invalidDigit := by
  induction cs generalizing n with
  | nil =>
    rw [List.takeWhile_nil, Nat.ofDigitChars_nil, if_neg (Nat.not_le.mpr hn)]
    rfl
  | cons c cs ih =>
    unfold appendDigits
    by_cases hc : c.isDigit = true
    · rw [if_pos hc, List.takeWhile_cons_of_pos hc, List.all_cons, hc, Bool.true_and,
        Nat.ofDigitChars_cons, Nat.ofDigitChars_cons]
      by_cases hnext : 10 * n + (c.toNat - '0'.toNat) < 0x10000000000000000
      · exact (if_pos hnext).trans (ih hnext)
      · -- The number is too large already, and stays so.
        have hlarge := le_ofDigitChars (10 * n + (c.toNat - '0'.toNat))
          (cs.takeWhile Char.isDigit)
        rw [if_pos (Nat.le_trans (Nat.not_lt.mp hnext) hlarge)]
        exact if_neg hnext
    · rw [if_neg hc, List.takeWhile_cons_of_neg hc, Nat.ofDigitChars_nil,
        if_neg (Nat.not_le.mpr hn), List.all_cons, Bool.eq_false_iff.mpr hc, Bool.false_and,
        if_neg Bool.false_ne_true]

/-! ### Numerals -/

/-- A numeral and its number: one or more digits, perhaps after one plus
sign. -/
inductive Numeral : List Char → Nat → Prop where
  | digits (ds : List Char) (hne : ds ≠ []) (hds : ∀ c ∈ ds, c.isDigit = true) :
      Numeral ds (ofDigits ds)
  | plus (ds : List Char) (hne : ds ≠ []) (hds : ∀ c ∈ ds, c.isDigit = true) :
      Numeral ('+' :: ds) (ofDigits ds)

/-- What follows the sign, if there is one. -/
def afterPlus : List Char → List Char
  | '+' :: cs => cs
  | cs => cs

/-- All digits at the start, or after the sign. -/
def digitRun (cs : List Char) : List Char := (afterPlus cs).takeWhile Char.isDigit

/-- A text that does not begin with a plus sign is left as it is. -/
theorem afterPlus_of_ne {cs : List Char} (h : ∀ ds, cs ≠ '+' :: ds) : afterPlus cs = cs := by
  unfold afterPlus
  split
  case h_1 ds => exact absurd rfl (h ds)
  case h_2 => rfl

/-- A text is a numeral if what follows the sign is digits, and not
nothing. -/
theorem numeral_iff {cs : List Char} {n : Nat} :
    Numeral cs n ↔ afterPlus cs ≠ [] ∧ (afterPlus cs).all Char.isDigit = true ∧
      n = ofDigits (afterPlus cs) := by
  constructor
  · intro h
    cases h with
    | digits ds hne hds =>
      -- A plus sign is no digit, so nothing is cut off.
      have hsign : afterPlus cs = cs := by
        refine afterPlus_of_ne fun ds heq => ?_
        have hplus : '+' ∈ cs := heq ▸ List.mem_cons_self
        exact absurd (hds '+' hplus) (by decide)
      rw [hsign]
      exact ⟨hne, List.all_eq_true.mpr hds, rfl⟩
    | plus ds hne hds => exact ⟨hne, List.all_eq_true.mpr hds, rfl⟩
  · rintro ⟨hne, hds, rfl⟩
    by_cases hplus : ∃ ds, cs = '+' :: ds
    · obtain ⟨ds, rfl⟩ := hplus
      exact .plus ds hne (List.all_eq_true.mp hds)
    · have hsign : afterPlus cs = cs := afterPlus_of_ne (not_exists.mp hplus)
      rw [hsign] at hne hds ⊢
      exact .digits cs hne (List.all_eq_true.mp hds)

/-- What is read after the sign. -/
theorem map_appendDigits {cs : List Char} (hne : cs ≠ []) :
    (appendDigits 0 cs).map UInt64.ofNat =
      if 0x10000000000000000 ≤ ofDigits (cs.takeWhile Char.isDigit) then .error .tooLarge
      else if cs ≠ [] ∧ cs.all Char.isDigit = true then .ok (UInt64.ofNat (ofDigits cs))
      else .error .invalidDigit := by
  rw [appendDigits_eq (by decide)]
  show Except.map _ (if 0x10000000000000000 ≤ ofDigits (cs.takeWhile Char.isDigit) then _
    else if cs.all Char.isDigit = true then .ok (ofDigits cs) else _) = _
  by_cases hlarge : 0x10000000000000000 ≤ ofDigits (cs.takeWhile Char.isDigit)
  · rw [if_pos hlarge, if_pos hlarge]
    rfl
  · rw [if_neg hlarge, if_neg hlarge]
    by_cases hall : cs.all Char.isDigit = true
    · rw [if_pos hall, if_pos ⟨hne, hall⟩]
      rfl
    · rw [if_neg hall, if_neg fun h => hall h.2]
      rfl

/-- The reader of counts, by what stands after the sign. -/
theorem count?_eq (cs : List Char) :
    count? cs =
      if cs = [] then .error .empty
      else if 0x10000000000000000 ≤ ofDigits (digitRun cs) then .error .tooLarge
      else if afterPlus cs ≠ [] ∧ (afterPlus cs).all Char.isDigit = true then
        .ok (UInt64.ofNat (ofDigits (afterPlus cs)))
      else .error .invalidDigit := by
  unfold count? digitRun
  -- Nothing at all, a sign on its own, a sign and more, and no sign.
  split
  case h_1 => rfl
  case h_2 => rfl
  case h_3 cs hne =>
    rw [if_neg (List.cons_ne_nil _ _)]
    exact map_appendDigits fun h => hne h
  case h_4 cs hne hplus hsign =>
    rw [if_neg hne, afterPlus_of_ne hsign]
    exact map_appendDigits hne

/-- Only a text without characters is empty. A sign on its own is not. -/
theorem count?_eq_empty_iff (cs : List Char) : count? cs = .error .empty ↔ cs = [] := by
  rw [count?_eq]
  by_cases hcs : cs = []
  · rw [if_pos hcs]
    exact iff_of_true rfl hcs
  · refine iff_of_false ?_ hcs
    rw [if_neg hcs]
    split
    · exact nofun
    · split <;> exact nofun

/-- A count is too large exactly if its run of digits is, whatever comes
behind the run. -/
theorem count?_eq_tooLarge_iff (cs : List Char) :
    count? cs = .error .tooLarge ↔ 0x10000000000000000 ≤ ofDigits (digitRun cs) := by
  rw [count?_eq]
  by_cases hcs : cs = []
  · subst hcs
    rw [if_pos rfl]
    exact iff_of_false nofun (by decide)
  · rw [if_neg hcs]
    by_cases hlarge : 0x10000000000000000 ≤ ofDigits (digitRun cs)
    · rw [if_pos hlarge]
      exact iff_of_true rfl hlarge
    · refine iff_of_false ?_ hlarge
      rw [if_neg hlarge]
      split <;> exact nofun

/-- The run of digits in a numeral is all of its digits. -/
theorem Numeral.ofDigits_digitRun {cs : List Char} {n : Nat} (h : Numeral cs n) :
    ofDigits (digitRun cs) = n := by
  obtain ⟨-, hall, rfl⟩ := numeral_iff.mp h
  have hrun : digitRun cs = afterPlus cs :=
    List.takeWhile_eq_self_iff.mpr (List.all_eq_true.mp hall)
  rw [hrun]

/-- A numeral has a character. -/
theorem Numeral.ne_nil {cs : List Char} {n : Nat} (h : Numeral cs n) : cs ≠ [] := by
  cases h with
  | digits ds hne _ => exact hne
  | plus ds _ _ => exact List.cons_ne_nil _ _

/-- The numbers that are read are those of the numerals below `2 ^ 64`. -/
theorem count?_eq_ok_iff (cs : List Char) (n : UInt64) :
    count? cs = .ok n ↔ Numeral cs n.toNat := by
  rw [count?_eq]
  constructor
  · -- A number comes up in one branch of the reader only.
    intro h
    split at h
    · cases h
    · split at h
      · cases h
      · rename_i hlarge
        split at h
        · rename_i hdigits
          have hnumeral : Numeral cs (ofDigits (afterPlus cs)) :=
            numeral_iff.mpr ⟨hdigits.1, hdigits.2, rfl⟩
          -- The number is below `2 ^ 64`, so its 64 bits are the number itself.
          have hlt : ofDigits (afterPlus cs) < 2 ^ 64 := by
            rw [hnumeral.ofDigits_digitRun] at hlarge
            exact Nat.not_le.mp hlarge
          cases h
          rw [UInt64.toNat_ofNat_of_lt' hlt]
          exact hnumeral
        · cases h
  · intro h
    have hlarge : ¬ 0x10000000000000000 ≤ ofDigits (digitRun cs) := by
      rw [h.ofDigits_digitRun]
      exact Nat.not_le.mpr n.toNat_lt
    obtain ⟨hne, hall, hn⟩ := numeral_iff.mp h
    rw [if_neg h.ne_nil, if_neg hlarge, if_pos ⟨hne, hall⟩, ← hn, UInt64.ofNat_toNat]

/-- The last reason is left for what is not empty, not too large, and no
numeral. -/
theorem count?_eq_invalidDigit_iff (cs : List Char) :
    count? cs = .error .invalidDigit ↔
      cs ≠ [] ∧ ofDigits (digitRun cs) < 0x10000000000000000 ∧ ∀ n, ¬ Numeral cs n := by
  rw [← Nat.not_le, ← count?_eq_tooLarge_iff, Ne, ← count?_eq_empty_iff]
  constructor
  · intro h
    refine ⟨?_, ?_, ?_⟩
    · rw [h]
      exact nofun
    · rw [h]
      exact nofun
    · -- A numeral that is not too large would have been read.
      intro n hn
      have hlarge : ¬ 0x10000000000000000 ≤ n := by
        rw [← hn.ofDigits_digitRun, ← count?_eq_tooLarge_iff, h]
        exact nofun
      have hn' : (UInt64.ofNat n).toNat = n :=
        UInt64.toNat_ofNat_of_lt' (Nat.not_le.mp hlarge)
      rw [← hn', ← count?_eq_ok_iff, h] at hn
      cases hn
  · rintro ⟨hempty, hlarge, hnumeral⟩
    cases h : count? cs with
    | ok n => exact absurd ((count?_eq_ok_iff cs n).mp h) (hnumeral n.toNat)
    | error fault =>
      cases fault with
      | empty => exact absurd h hempty
      | invalidDigit => rfl
      | tooLarge => exact absurd h hlarge

/-! ### White space at the ends -/

/-- The text without the white space at both ends. -/
structure IsTrimmed (cs trimmed : List Char) : Prop where
  split : ∃ before after, cs = before ++ trimmed ++ after ∧
    (∀ c ∈ before, isBlank c = true) ∧ ∀ c ∈ after, isBlank c = true
  head : ∀ c, trimmed.head? = some c → isBlank c = false
  last : ∀ c, trimmed.getLast? = some c → isBlank c = false

/-- Nothing is cut off where no white space is in front. -/
theorem dropWhile_of_head?_eq_false {l : List Char}
    (h : ∀ c, l.head? = some c → isBlank c = false) : l.dropWhile isBlank = l := by
  cases l with
  | nil => rfl
  | cons c cs => exact List.dropWhile_cons_of_neg (Bool.eq_false_iff.mp (h c rfl))

/-- What is left begins with no white space. -/
theorem isBlank_of_head?_dropWhile {l : List Char} {c : Char}
    (h : (l.dropWhile isBlank).head? = some c) : isBlank c = false := by
  have hnot := List.head?_dropWhile_not isBlank l
  rw [h] at hnot
  exact hnot

/-- What is cut off is white space. -/
theorem exists_append_dropWhile (cs : List Char) :
    ∃ before, cs = before ++ cs.dropWhile isBlank ∧ ∀ c ∈ before, isBlank c = true :=
  ⟨cs.takeWhile isBlank, List.takeWhile_append_dropWhile.symm,
    List.all_eq_true.mp List.all_takeWhile⟩

/-- Trimming leaves the trimmed text. -/
theorem isTrimmed_trimBlank (cs : List Char) : IsTrimmed cs (trimBlank cs) := by
  unfold trimBlank
  obtain ⟨before, hbefore, hblank⟩ := exists_append_dropWhile cs
  obtain ⟨after, hafter, hblank'⟩ := exists_append_dropWhile (cs.dropWhile isBlank).reverse
  have hsplit : cs.dropWhile isBlank =
      ((cs.dropWhile isBlank).reverse.dropWhile isBlank).reverse ++ after.reverse := by
    rw [← List.reverse_append, ← hafter, List.reverse_reverse]
  refine ⟨⟨before, after.reverse, ?_, hblank, ?_⟩, ?_, ?_⟩
  · rw [List.append_assoc, ← hsplit]
    exact hbefore
  · intro c hc
    exact hblank' c (List.mem_reverse.mp hc)
  · -- What is left of a text that starts with no blank starts with none.
    intro c hc
    refine isBlank_of_head?_dropWhile (l := cs) ?_
    rw [hsplit, List.head?_append, hc]
    rfl
  · intro c hc
    rw [List.getLast?_reverse] at hc
    exact isBlank_of_head?_dropWhile hc

/-- There is only one trimmed text. -/
theorem IsTrimmed.eq_trimBlank {cs trimmed : List Char} (h : IsTrimmed cs trimmed) :
    trimmed = trimBlank cs := by
  obtain ⟨⟨before, after, rfl, hbefore, hafter⟩, hhead, hlast⟩ := h
  have hafter' : ∀ c ∈ after.reverse, isBlank c = true := fun c hc =>
    hafter c (List.mem_reverse.mp hc)
  unfold trimBlank
  rw [List.append_assoc, List.dropWhile_append_of_pos hbefore]
  cases htrimmed : trimmed with
  | nil =>
    have hall : after.dropWhile isBlank = [] := List.dropWhile_eq_nil_iff.mpr hafter
    rw [List.nil_append, hall]
    rfl
  | cons c cs =>
    -- Neither end of the trimmed text is blank, so both cuts stop there.
    rw [← htrimmed, dropWhile_of_head?_eq_false (l := trimmed ++ after), List.reverse_append,
      List.dropWhile_append_of_pos hafter', dropWhile_of_head?_eq_false, List.reverse_reverse]
    · intro c hc
      exact hlast c (List.getLast?_eq_head?_reverse.trans hc)
    · intro d hd
      refine hhead d ?_
      rw [htrimmed] at hd ⊢
      exact hd

/-! ### Numbers in variables -/

/-- Zeros in front do not change the number. -/
theorem numeral_zeros_digits (zeros n : Nat) :
    Numeral (List.replicate zeros '0' ++ digits n) n := by
  have hvalue : ofDigits (List.replicate zeros '0' ++ digits n) = n := by
    rw [ofDigits_append, ofDigits_zeros, ofDigits_digits, Nat.zero_mul, Nat.zero_add]
  have hnumeral := Numeral.digits (List.replicate zeros '0' ++ digits n)
    (List.append_ne_nil_of_right_ne_nil _ (digits_ne_nil n)) fun c hc =>
      (List.mem_append.mp hc).elim isDigit_of_mem_zeros isDigit_of_mem_digits
  rwa [hvalue] at hnumeral

/-- Digits are no white space. Each range of white space is on one side of
them. -/
theorem isBlank_of_isDigit {c : Char} (hc : c.isDigit = true) : isBlank c = false := by
  have hdigit : 48 ≤ c.toNat ∧ c.toNat ≤ 57 := by
    simp only [Char.isDigit, Bool.and_eq_true, decide_eq_true_eq] at hc
    exact hc
  have hranges : ∀ range ∈ blankRanges, range.2 < 48 ∨ 57 < range.1 := by decide
  -- No range has the character, because all ranges stay clear of the digits.
  refine List.any_eq_false.mpr fun range hmem => ?_
  have hfar := hranges range hmem
  simp only [Bool.and_eq_true, decide_eq_true_eq]
  omega

/-- A numeral has no white space. -/
theorem Numeral.isBlank_eq_false {cs : List Char} {n : Nat} (h : Numeral cs n) {c : Char}
    (hc : c ∈ cs) : isBlank c = false := by
  cases h with
  | digits ds _ hds => exact isBlank_of_isDigit (hds c hc)
  | plus ds _ hds =>
    rcases List.mem_cons.mp hc with rfl | hc
    · rfl
    · exact isBlank_of_isDigit (hds c hc)

/-- A numeral between white space is what is left of it. -/
theorem Numeral.isTrimmed {cs before after : List Char} {n : Nat} (h : Numeral cs n)
    (hbefore : ∀ c ∈ before, isBlank c = true) (hafter : ∀ c ∈ after, isBlank c = true) :
    IsTrimmed (before ++ cs ++ after) cs where
  split := ⟨before, after, rfl, hbefore, hafter⟩
  head _ hc := h.isBlank_eq_false (List.mem_of_mem_head? hc)
  last _ hc := h.isBlank_eq_false (List.mem_of_getLast? hc)

namespace Environment

variable {env : Environment} {name text : String} {bytes : ByteArray}

/-- A variable that is not set gives the fallback. -/
theorem count_of_unset (h : env.bytes? name = none) (fallback : UInt64) :
    env.count name fallback = .ok fallback := by
  unfold count Environment.text
  rw [h]
  rfl

/-- Bytes that are no text are an error with the name of the variable. -/
theorem count_of_not_unicode (hbytes : env.bytes? name = some bytes)
    (htext : String.fromUTF8? bytes = none) (fallback : UInt64) :
    env.count name fallback = .error (.notUnicode name) := by
  unfold count Environment.text
  rw [hbytes]
  simp only [htext]
  rfl

/-- A text is trimmed and then read. An error gets the name and the text. -/
theorem count_of_text (hbytes : env.bytes? name = some bytes)
    (htext : String.fromUTF8? bytes = some text) (fallback : UInt64) :
    env.count name fallback =
      (count? (trimBlank text.toList)).mapError (.notCount name text) := by
  unfold count Environment.text
  rw [hbytes]
  simp only [htext]
  rfl

/-- The error about bytes that are no text has no other reason. -/
theorem count_eq_notUnicode_iff {fallback : UInt64} :
    env.count name fallback = .error (.notUnicode name) ↔
      ∃ bytes, env.bytes? name = some bytes ∧ String.fromUTF8? bytes = none := by
  constructor
  · intro h
    cases hbytes : env.bytes? name with
    | none =>
      rw [count_of_unset hbytes] at h
      cases h
    | some bytes =>
      refine ⟨bytes, rfl, ?_⟩
      cases htext : String.fromUTF8? bytes with
      | none => rfl
      | some text =>
        rw [count_of_text hbytes htext] at h
        cases hcount : count? (trimBlank text.toList) with
        | ok n =>
          rw [hcount] at h
          cases h
        | error fault =>
          rw [hcount] at h
          cases h
  · rintro ⟨bytes, hbytes, htext⟩
    exact count_of_not_unicode hbytes htext fallback

/-- The fallback does not matter for a variable that is set. -/
theorem count_eq_count (h : env.bytes? name ≠ none) (fallback other : UInt64) :
    env.count name other = env.count name fallback := by
  obtain ⟨bytes, hbytes⟩ := Option.ne_none_iff_exists'.mp h
  cases htext : String.fromUTF8? bytes with
  | none => rw [count_of_not_unicode hbytes htext, count_of_not_unicode hbytes htext]
  | some text => rw [count_of_text hbytes htext, count_of_text hbytes htext]

/-- Only an unset variable gives every fallback. -/
theorem forall_count_eq_ok_iff :
    (∀ other, env.count name other = .ok other) ↔ env.bytes? name = none := by
  constructor
  · intro h
    refine Decidable.not_not.mp fun hset => ?_
    -- Two fallbacks are enough to tell.
    have hsame := count_eq_count hset 0 1
    rw [h 0, h 1] at hsame
    exact absurd (Except.ok.inj hsame) (by decide)
  · exact fun h other => count_of_unset h other

section
variable (hbytes : env.bytes? name = some bytes) (htext : String.fromUTF8? bytes = some text)
include hbytes htext

/-- The numbers that a text gives are those of its trimmed numeral. -/
theorem count_eq_ok_iff (fallback n : UInt64) :
    env.count name fallback = .ok n ↔ Numeral (trimBlank text.toList) n.toNat := by
  rw [count_of_text hbytes htext, ← count?_eq_ok_iff]
  cases count? (trimBlank text.toList) with
  | ok m =>
    constructor
    · intro h
      cases h
      rfl
    · intro h
      cases h
      rfl
  | error fault => exact iff_of_false nofun nofun

/-- The error for a text has the reason that the reader gives for what is
left of it. -/
theorem count_eq_notCount_iff (fallback : UInt64) (fault : CountFault) :
    env.count name fallback = .error (.notCount name text fault) ↔
      count? (trimBlank text.toList) = .error fault := by
  rw [count_of_text hbytes htext]
  cases count? (trimBlank text.toList) with
  | ok m => exact iff_of_false nofun nofun
  | error other =>
    constructor
    · intro h
      cases h
      rfl
    · intro h
      cases h
      rfl

end

/-- The number that a variable gives.

- An unset variable gives the fallback, whatever it is. A variable that is
  set gives the same for every fallback.
- Bytes that are no text are an error, which names the variable.
- A text gives the number of the numeral that is left of it without the
  white space at its ends. If none is left, the error names the variable,
  the text and the first of three reasons that applies.
- So the decimal notation of each number of 64 bits gives this number, also
  after zeros and between white space. -/
theorem count_reads_numerals (env : Environment) (name : String) (fallback : UInt64) :
    ((∀ other, env.count name other = .ok other) ↔ env.bytes? name = none) ∧
    (env.bytes? name ≠ none → ∀ other, env.count name other = env.count name fallback) ∧
    (env.count name fallback = .error (.notUnicode name) ↔
      ∃ bytes, env.bytes? name = some bytes ∧ String.fromUTF8? bytes = none) ∧
    ∀ bytes text, env.bytes? name = some bytes → String.fromUTF8? bytes = some text →
      (∃ trimmed, IsTrimmed text.toList trimmed ∧
        (∀ n : UInt64, env.count name fallback = .ok n ↔ Numeral trimmed n.toNat) ∧
        (env.count name fallback = .error (.notCount name text .empty) ↔ trimmed = []) ∧
        (env.count name fallback = .error (.notCount name text .tooLarge) ↔
          0x10000000000000000 ≤ ofDigits (digitRun trimmed)) ∧
        (env.count name fallback = .error (.notCount name text .invalidDigit) ↔
          trimmed ≠ [] ∧ ofDigits (digitRun trimmed) < 0x10000000000000000 ∧
            ∀ n, ¬ Numeral trimmed n)) ∧
      ∀ (before after : List Char) (zeros : Nat) (n : UInt64),
        (∀ c ∈ before, isBlank c = true) → (∀ c ∈ after, isBlank c = true) →
        text.toList = before ++ (List.replicate zeros '0' ++ digits n.toNat) ++ after →
        env.count name fallback = .ok n := by
  refine ⟨forall_count_eq_ok_iff, fun hset other => count_eq_count hset fallback other,
    count_eq_notUnicode_iff, fun bytes text hbytes htext => ⟨?_, ?_⟩⟩
  · refine ⟨trimBlank text.toList, isTrimmed_trimBlank _, ?_, ?_, ?_, ?_⟩
    · exact count_eq_ok_iff hbytes htext fallback
    · rw [count_eq_notCount_iff hbytes htext, count?_eq_empty_iff]
    · rw [count_eq_notCount_iff hbytes htext, count?_eq_tooLarge_iff]
    · rw [count_eq_notCount_iff hbytes htext, count?_eq_invalidDigit_iff]
  · intro before after zeros n hbefore hafter hchars
    have hnumeral := numeral_zeros_digits zeros n.toNat
    have htrimmed := (hnumeral.isTrimmed hbefore hafter).eq_trimBlank
    rw [count_eq_ok_iff hbytes htext, hchars, ← htrimmed]
    exact hnumeral

/-- A number between white space, a number that is too large before it has a
bad character, bytes that are no text, and a variable that is not set. -/
theorem count_reads_numerals_bounds :
    let env : Environment := ⟨[("SPACED", "\t0042\u3000".toUTF8),
      ("LARGE", "18446744073709551616x".toUTF8), ("BYTES", ⟨#[0xff]⟩)]⟩
    env.count "SPACED" 4 = .ok 42 ∧
      env.count "LARGE" 4 = .error (.notCount "LARGE" "18446744073709551616x" .tooLarge) ∧
      env.count "BYTES" 4 = .error (.notUnicode "BYTES") ∧ env.count "UNSET" 4 = .ok 4 := by
  intro env
  obtain ⟨-, -, -, hspaced⟩ := count_reads_numerals env "SPACED" 4
  obtain ⟨-, -, -, hlarge⟩ := count_reads_numerals env "LARGE" 4
  obtain ⟨-, -, hunicode, -⟩ := count_reads_numerals env "BYTES" 4
  obtain ⟨hunset, -, -, -⟩ := count_reads_numerals env "UNSET" 4
  obtain ⟨-, hdecimal⟩ := hspaced "\t0042\u3000".toUTF8 "\t0042\u3000"
    (by decide +kernel) (by decide +kernel)
  obtain ⟨⟨trimmed, htrimmed, -, -, hlarge, -⟩, -⟩ := hlarge "18446744073709551616x".toUTF8
    "18446744073709551616x" (by decide +kernel) (by decide +kernel)
  refine ⟨?_, hlarge.mpr ?_, hunicode.mpr ?_, hunset.mpr (by decide +kernel) 4⟩
  · exact hdecimal ['\t'] ['\u3000'] 2 42 (List.forall_mem_singleton.mpr rfl)
      (List.forall_mem_singleton.mpr rfl) (by decide +kernel)
  · rw [htrimmed.eq_trimBlank]
    decide +kernel
  · exact ⟨⟨#[0xff]⟩, by decide +kernel, by decide +kernel⟩

end Environment

end HtmlTemplate
