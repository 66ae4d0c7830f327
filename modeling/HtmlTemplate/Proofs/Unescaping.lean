import HtmlTemplate.Proofs.Substitution

/-!
# `HtmlTemplate.Proofs.Unescaping`: escaping can be undone

`unescape` reads a text once from left to right. Where an entity begins,
it takes the whole entity and puts the character in its place. All else
is copied. What it has put down is not read again, so `&amp;lt;` gives
`&lt;` and not `<`.

The main theorem, `unescape_escape`, says that `unescape` undoes `escape`,
and which texts are the escaped ones: those without markup in which every
`&` begins an entity. On these, `escape` undoes `unescape`.

For both directions `unescape` is followed along its own recursion. The
reading stays in step with the characters of the original text, because
an entity is taken as a whole, and no other character than `&` begins one.
-/

set_option autoImplicit false

namespace HtmlTemplate

/-- One scan that replaces each entity by its character. -/
def unescapeChars : List Char → List Char
  | '&' :: 'a' :: 'm' :: 'p' :: ';' :: cs => '&' :: unescapeChars cs
  | '&' :: 'l' :: 't' :: ';' :: cs => '<' :: unescapeChars cs
  | '&' :: 'g' :: 't' :: ';' :: cs => '>' :: unescapeChars cs
  | '&' :: 'q' :: 'u' :: 'o' :: 't' :: ';' :: cs => '"' :: unescapeChars cs
  | '&' :: '#' :: '3' :: '9' :: ';' :: cs => '\'' :: unescapeChars cs
  | c :: cs => c :: unescapeChars cs
  | [] => []

/-- The text with the character in place of each entity. -/
def unescape (text : String) : String := String.ofList (unescapeChars text.toList)

/-- An entity is replaced as a whole. -/
theorem unescapeChars_escapeChar_append {c : Char} (hc : c ∈ specials.toList) (cs : List Char) :
    unescapeChars (escapeChar c ++ cs) = c :: unescapeChars cs := by
  have hcases : c = '&' ∨ c = '<' ∨ c = '>' ∨ c = '"' ∨ c = '\'' := by
    simpa [specials] using hc
  rcases hcases with rfl | rfl | rfl | rfl | rfl
  · rfl
  · rfl
  · rfl
  · rfl
  · rfl

/-- A character that begins no entity is copied. -/
theorem unescapeChars_cons_of_ne {c : Char} (hc : c ≠ '&') (cs : List Char) :
    unescapeChars (c :: cs) = c :: unescapeChars cs := by
  rw [unescapeChars]
  all_goals
    intros
    contradiction

/-! ### Undoing what escaping did -/

/-- The scan takes back what was put in place of each character. -/
theorem unescapeChars_flatMap_escapeChar (cs : List Char) :
    unescapeChars (cs.flatMap escapeChar) = cs := by
  induction cs with
  | nil => rfl
  | cons c cs ih =>
    rw [List.flatMap_cons]
    by_cases hc : c ∈ specials.toList
    · rw [unescapeChars_escapeChar_append hc, ih]
    · have hamp : c ≠ '&' := by
        rintro rfl
        exact hc (by decide)
      rw [escapeChar_of_not_mem hc, List.singleton_append, unescapeChars_cons_of_ne hamp, ih]

/-- Undoing an escape gives the text back. -/
theorem unescape_escape_eq (text : String) : unescape (escape text) = text := by
  rw [unescape, toList_escape, unescapeChars_flatMap_escapeChar, String.ofList_toList]

/-! ### Escaped texts -/

/-- The end of a text in which every `&` begins an entity is such a text. -/
theorem AmpersandsBeginEntities.of_append (front : List Char) {cs : List Char}
    (h : AmpersandsBeginEntities (fun _ => false) (front ++ cs)) :
    AmpersandsBeginEntities (fun _ => false) cs := by
  intro before after hsplit
  refine h (front ++ before) after ?_
  rw [hsplit, List.append_assoc]

/-- What begins with an entity begins with what stands for a special
character. -/
theorem BeginsEntity.exists_special {cs : List Char} (h : BeginsEntity cs) :
    ∃ c ∈ specials.toList, ∃ rest, cs = escapeChar c ++ rest := by
  obtain ⟨entity, hentity, rest, hrest⟩ := h
  have hmem : entity.toList ∈ specials.toList.map escapeChar := by
    rw [map_escapeChar_specials]
    exact List.mem_map_of_mem hentity
  obtain ⟨c, hc, hchars⟩ := List.mem_map.mp hmem
  exact ⟨c, hc, rest, by rw [hchars, hrest]⟩

/-- A special character is an `&` or markup. -/
theorem not_mem_specials {c : Char} (hamp : c ≠ '&') (hmarkup : isMarkup c = false) :
    c ∉ specials.toList := by
  simp only [isMarkup, Bool.or_eq_false_iff, decide_eq_false_iff_not] at hmarkup
  simp [specials, hamp, hmarkup]

/-- In a text without markup in which every `&` begins an entity, the scan
takes what escaping would write. The induction is on what is left to
read: after an entity, that is the text behind it. -/
theorem flatMap_escapeChar_unescapeChars {cs : List Char} (hmarkup : cs.filter isMarkup = [])
    (hamp : AmpersandsBeginEntities (fun _ => false) cs) :
    (unescapeChars cs).flatMap escapeChar = cs := by
  induction hlength : cs.length using Nat.strongRecOn generalizing cs with
  | ind length ih =>
    cases cs with
    | nil => rfl
    | cons c cs =>
      by_cases hc : c = '&'
      · -- An entity begins here, and the reading goes on behind it.
        subst hc
        have hentity : BeginsEntity ('&' :: cs) :=
          (hamp [] cs rfl).resolve_left Bool.false_ne_true
        obtain ⟨d, hd, rest, hsplit⟩ := hentity.exists_special
        obtain ⟨e, es, hes⟩ := exists_escapeChar_eq_cons hd
        have hshorter : rest.length < length := by
          rw [← hlength, hsplit, hes, List.length_append]
          simp
        rw [hsplit] at hmarkup hamp
        rw [List.filter_append, List.append_eq_nil_iff] at hmarkup
        rw [hsplit, unescapeChars_escapeChar_append hd, List.flatMap_cons,
          ih rest.length hshorter hmarkup.2 (.of_append _ hamp) rfl]
      · -- The character is no markup, so it is copied both ways.
        rw [List.filter_cons] at hmarkup
        cases hplain : isMarkup c with
        | true => simp [hplain] at hmarkup
        | false =>
          rw [hplain, if_neg Bool.false_ne_true] at hmarkup
          have hshorter : cs.length < length := by
            rw [← hlength]
            exact Nat.lt_succ_self _
          have hrest : AmpersandsBeginEntities (fun _ => false) cs :=
            AmpersandsBeginEntities.of_append [c] hamp
          rw [unescapeChars_cons_of_ne hc, List.flatMap_cons,
            escapeChar_of_not_mem (not_mem_specials hc hplain),
            ih cs.length hshorter hmarkup hrest rfl]
          rfl

/-- An escaped text that is undone can be escaped again. -/
theorem escape_unescape_eq {text : String} (hmarkup : markup text = [])
    (hentities : EntitiesOnly text) : escape (unescape text) = text := by
  rw [← String.toList_inj, toList_escape, unescape, String.toList_ofList,
    flatMap_escapeChar_unescapeChars hmarkup (entitiesOnly_iff.mp hentities)]

/-! ### The main theorem -/

/-- Undoing an escape gives the text back, so different texts have
different escaped forms. The escaped forms are the texts without markup in
which every `&` begins an entity, and exactly these come back when they
are undone and escaped again. -/
theorem unescape_escape :
    (∀ text : String, unescape (escape text) = text) ∧
    (∀ text other : String, escape text = escape other ↔ text = other) ∧
    (∀ e : String, (∃ text, escape text = e) ↔ markup e = [] ∧ EntitiesOnly e) ∧
    ∀ e : String, escape (unescape e) = e ↔ markup e = [] ∧ EntitiesOnly e := by
  have hescaped : ∀ text, markup (escape text) = [] ∧ EntitiesOnly (escape text) :=
    fun text => ⟨markup_escape text, entitiesOnly_iff.mpr (ampersandsBeginEntities_escape text)⟩
  refine ⟨unescape_escape_eq, ?_, ?_, ?_⟩
  · intro text other
    constructor
    · intro h
      rw [← unescape_escape_eq text, h, unescape_escape_eq]
    · exact congrArg escape
  · intro e
    constructor
    · rintro ⟨text, rfl⟩
      exact hescaped text
    · rintro ⟨hmarkup, hentities⟩
      exact ⟨unescape e, escape_unescape_eq hmarkup hentities⟩
  · intro e
    constructor
    · intro h
      rw [← h]
      exact hescaped (unescape e)
    · rintro ⟨hmarkup, hentities⟩
      exact escape_unescape_eq hmarkup hentities

example : unescape "&amp;lt;&amp;" = "&lt;&" := by decide

end HtmlTemplate
