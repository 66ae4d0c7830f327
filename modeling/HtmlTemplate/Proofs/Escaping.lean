import HtmlTemplate.Escape

/-!
# `HtmlTemplate.Proofs.Escaping`: what escaping does to a text

`escapeInto` appends to a buffer what a scan makes of a text, and that is
the text with its entities (`escapeInto_eq_append_substitute`): each
character is replaced by `escapeChar`, once. The rest of the file reads
two safety facts off this equation.

* `markup_escape`: an escaped text holds none of `<`, `>`, `"`, `'`.
  `markup` is the subsequence of these four characters in a text.
* `ampersandsBeginEntities_escape`: every `&` of an escaped text begins
  one of the five `entities`.

The second fact speaks about positions, and it has to survive when
escaped texts are joined with fragments that are not escaped. So the
predicate `AmpersandsBeginEntities` takes the positions that are exempt
as a parameter, and `AmpersandsBeginEntities.append` joins two texts.
`EntitiesOnly` says of a text that no position is exempt.
-/

set_option autoImplicit false

namespace HtmlTemplate

/-! ### The escaped form, character by character -/

/-- The scan never cuts a character in two, so the buffer gets the whole
text. -/
theorem escapeInto_eq_append_substitute (out text : String) :
    escapeInto out text = out ++ substitute text :=
  Option.get_of_eq_some _ (scanInto?_eq_some out text)

/-- The escaped form of a text, whether or not anything was replaced. -/
theorem escape_eq_substitute (text : String) : escape text = substitute text := by
  have hscan : escape? text = _ := Option.get_of_eq_some _ (scan?_eq_some text)
  rw [escape, hscan]
  by_cases h : text.toList.any (fun c => (entity? c).isSome)
  · rw [if_pos h, Option.getD_some]
  · rw [if_neg h, Option.getD_none]
    exact (substitute_of_plain (by simpa using h)).symm

/-- Appending to a buffer is the same as escaping on its own and
appending the result. -/
theorem escapeInto_eq_append (out text : String) : escapeInto out text = out ++ escape text := by
  rw [escapeInto_eq_append_substitute, escape_eq_substitute]

/-- The escaped form, as a list of characters. -/
theorem toList_escape (text : String) :
    (escape text).toList = text.toList.flatMap escapeChar := by
  rw [escape_eq_substitute, substitute, String.toList_ofList]

/-! ### No markup comes out of escaping -/

/-- The four characters that make markup: they open and close tags and
attribute values. -/
def isMarkup (c : Char) : Bool := c = '<' || c = '>' || c = '"' || c = '\''

/-- The markup characters of a text, in order. -/
def markup (text : String) : List Char := text.toList.filter isMarkup

/-- An empty text has no markup. -/
@[simp] theorem markup_empty : markup "" = [] := rfl

/-- The markup of two texts one after the other. -/
@[simp] theorem markup_append (s t : String) : markup (s ++ t) = markup s ++ markup t := by
  simp [markup]

/-- What stands for a character holds no markup, whatever the character is.
-/
theorem filter_isMarkup_escapeChar (c : Char) : (escapeChar c).filter isMarkup = [] := by
  unfold escapeChar entity?
  split
  case h_6 _ hlt hgt hquot hapos =>
    -- No entity: `c` itself is none of the four.
    have hc : isMarkup c = false := by
      simp only [isMarkup, Bool.or_eq_false_iff, decide_eq_false_iff_not]
      exact ⟨⟨⟨hlt, hgt⟩, hquot⟩, hapos⟩
    simp [hc]
  all_goals decide

/-- An escaped text holds no markup. -/
@[simp] theorem markup_escape (text : String) : markup (escape text) = [] := by
  unfold markup
  rw [toList_escape]
  induction text.toList with
  | nil => rfl
  | cons c cs ih => rw [List.flatMap_cons, List.filter_append, filter_isMarkup_escapeChar, ih]; rfl

/-! ### Every ampersand begins an entity -/

/-- The texts that escaping puts in place of the special characters. -/
def entities : List String := ["&amp;", "&lt;", "&gt;", "&quot;", "&#39;"]

/-- The characters `cs` begin with one of the entities. -/
def BeginsEntity (cs : List Char) : Prop := ∃ e ∈ entities, e.toList <+: cs

/-- What comes behind an entity does not matter. -/
theorem BeginsEntity.append {cs : List Char} (h : BeginsEntity cs) (ds : List Char) :
    BeginsEntity (cs ++ ds) := by
  obtain ⟨e, he, hpre⟩ := h
  exact ⟨e, he, hpre.trans (List.prefix_append cs ds)⟩

/-- Every `&` among the characters `cs` begins an entity, unless its
position is exempt. -/
def AmpersandsBeginEntities (exempt : Nat → Bool) (cs : List Char) : Prop :=
  ∀ before after : List Char, cs = before ++ '&' :: after →
    exempt before.length = true ∨ BeginsEntity ('&' :: after)

namespace AmpersandsBeginEntities

/-- Two texts one after the other. The positions of the second one are
counted from its own start. -/
theorem append {p q r : Nat → Bool} {cs ds : List Char}
    (hcs : AmpersandsBeginEntities p cs) (hds : AmpersandsBeginEntities q ds)
    (hp : ∀ i, i < cs.length → p i = true → r i = true)
    (hq : ∀ i, q i = true → r (cs.length + i) = true) :
    AmpersandsBeginEntities r (cs ++ ds) := by
  intro before after h
  rcases List.append_eq_append_iff.mp h with ⟨mid, hbefore, hmid⟩ | ⟨mid, hcut, hmid⟩
  · -- The `&` lies in `ds`.
    rcases hds mid after hmid with hex | hent
    · left
      rw [hbefore, List.length_append]
      exact hq _ hex
    · exact Or.inr hent
  · cases mid with
    | nil =>
      -- The `&` is the first character of `ds`.
      have hlen : before.length = cs.length + 0 := by rw [hcut, List.append_nil, Nat.add_zero]
      rcases hds [] after (by simpa using hmid.symm) with hex | hent
      · left
        rw [hlen]
        exact hq 0 hex
      · exact Or.inr hent
    | cons c mid =>
      -- The `&` lies in `cs`, and `ds` only adds to what follows it.
      obtain ⟨rfl, rfl⟩ := List.cons_eq_cons.mp hmid
      rcases hcs before mid hcut with hex | hent
      · left
        refine hp _ ?_ hex
        rw [hcut, List.length_append, List.length_cons]
        omega
      · exact Or.inr (hent.append ds)

end AmpersandsBeginEntities

/-- Among the characters that stand for `c`, only the first one can be
an `&`, and it begins an entity. -/
theorem ampersandsBeginEntities_escapeChar (c : Char) :
    AmpersandsBeginEntities (fun _ => false) (escapeChar c) := by
  intro before after h
  right
  unfold escapeChar entity? at h
  split at h
  case h_6 hamp _ _ _ _ =>
    -- A character without an entity is no `&`.
    have hmem : '&' ∈ [c] := by
      show '&' ∈ (none : Option String).elim [c] String.toList
      rw [h]
      simp
    exact absurd (List.mem_singleton.mp hmem).symm hamp
  all_goals
    -- The `&` is the first character of the entity, since no other one is an `&`.
    rcases before with _ | ⟨b, before⟩
    · rw [List.nil_append] at h
      rw [← h]
      exact ⟨_, by decide, List.prefix_rfl⟩
    · have hmem : '&' ∈ (b :: before ++ '&' :: after).tail := by simp
      rw [← h] at hmem
      exact absurd hmem (by decide)

/-- Every `&` of an escaped text begins an entity. -/
theorem ampersandsBeginEntities_escape (text : String) :
    AmpersandsBeginEntities (fun _ => false) (escape text).toList := by
  rw [toList_escape]
  induction text.toList with
  | nil => intro before after h; simp at h
  | cons c cs ih =>
    rw [List.flatMap_cons]
    exact (ampersandsBeginEntities_escapeChar c).append ih (fun _ _ h => h) (fun _ h => h)

/-! ### Texts in which `&` begins entities only -/

/-- Every `&` of a text begins an entity. -/
def EntitiesOnly (text : String) : Prop :=
  ∀ before after : List Char, text.toList = before ++ '&' :: after → BeginsEntity ('&' :: after)

/-- These are the texts in which no position is exempt. -/
theorem entitiesOnly_iff {text : String} :
    EntitiesOnly text ↔ AmpersandsBeginEntities (fun _ => false) text.toList := by
  simp [EntitiesOnly, AmpersandsBeginEntities]

namespace EntitiesOnly

/-- Two such texts one after the other. -/
theorem append {s t : String} (hs : EntitiesOnly s) (ht : EntitiesOnly t) :
    EntitiesOnly (s ++ t) := by
  rw [entitiesOnly_iff] at hs ht ⊢
  rw [String.toList_append]
  exact hs.append ht (fun _ _ h => h) (fun _ h => h)

/-- A text without `&` is fine as it is. -/
theorem of_plain {text : String} (h : '&' ∉ text.toList) : EntitiesOnly text := by
  intro before after hsplit
  simp [hsplit] at h

/-- A text that escaped text interrupts. -/
theorem hole {before text after : String} (hbefore : '&' ∉ before.toList)
    (hafter : EntitiesOnly after) : EntitiesOnly (before ++ (escape text ++ after)) := by
  have hescape : EntitiesOnly (escape text) :=
    entitiesOnly_iff.mpr (ampersandsBeginEntities_escape text)
  exact (of_plain hbefore).append (hescape.append hafter)

/-- Any number of such texts one after the other. -/
theorem join {texts : List String} (h : ∀ text ∈ texts, EntitiesOnly text) :
    EntitiesOnly (String.join texts) := by
  induction texts with
  | nil => exact of_plain (by decide)
  | cons text texts ih =>
    obtain ⟨htext, htexts⟩ := List.forall_mem_cons.mp h
    rw [String.join_cons]
    exact htext.append (ih htexts)

end EntitiesOnly

end HtmlTemplate
