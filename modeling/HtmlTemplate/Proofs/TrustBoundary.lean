import HtmlTemplate.Proofs.Injection
import HtmlTemplate.Proofs.Reachable

/-!
# `HtmlTemplate.Proofs.TrustBoundary`: what JSON data can put into the HTML

Data from outside becomes markup only by way of the fragments of marked
objects, and only of those that reading comes to (`Json.Reaches`). The
text of an object without the marker is full of quotes and may contain a
whole template, but it is escaped like any other text.

`Json.staticFragments` collects the fragments that count, in document
order. The main theorem, `markup_stringify_ofJson`, has three parts.

* The markup characters of the HTML are those of these fragments.
* These fragments are exactly the strings among the fragments of the
  marked objects within reach.
* Data without a marked object within reach is always read, and its HTML
  has no markup at all.
-/

set_option autoImplicit false

namespace HtmlTemplate

/-! ### Fragments in document order -/

/-- Fragments with what belongs to the values in between. What one list
has left when the other one ends comes last. -/
def weave : List String → List (List String) → List String
  | f :: fs, vs :: vss => f :: (vs ++ weave fs vss)
  | fs, vss => fs ++ vss.flatten

/-- Weaving neither adds nor drops a text. -/
theorem mem_weave {f : String} {fs : List String} {vss : List (List String)} :
    f ∈ weave fs vss ↔ f ∈ fs ∨ ∃ vs ∈ vss, f ∈ vs := by
  induction fs generalizing vss with
  | nil => simp [weave]
  | cons g fs ih =>
    cases vss with
    | nil => simp [weave]
    | cons vs vss =>
      rw [weave, List.mem_cons, List.mem_append, ih]
      simp only [List.mem_cons, exists_eq_or_imp]
      -- The same four places, in another order.
      constructor
      · rintro (h | h | h | h) <;> simp [h]
      · rintro ((h | h) | h | h) <;> simp [h]

/-- The fragments of a template are its own ones, woven with those of
its values. -/
theorem Template.staticFragments_eq_weave (t : Template) :
    t.staticFragments = weave t.fragments (t.values.map Value.staticFragments) := by
  cases t with
  | last f => rfl
  | hole f v rest =>
    have hrest : staticOf rest.leaves = _ := Template.staticFragments_eq_weave rest
    rw [Template.staticFragments, Template.leaves, staticOf_fragment, staticOf_append, hrest]
    rfl

namespace Json

/-- The text of a string. -/
def text? : Json → Option String
  | .string s => some s
  | _ => none

/-- The strings among the fragments of a marked object. -/
def fragmentTexts (members : List (String × Json)) : List String :=
  match member? "fragments" members with
  | some (.array items) => items.filterMap text?
  | _ => []

mutual

/-- The fragments of all marked objects that reading comes to, in
document order. -/
def staticFragments : Json → List String
  | .array items => (staticFragmentsEach items).flatten
  | .object members =>
    if hasMarker members then weave (fragmentTexts members) (staticFragmentsValues members) else []
  | _ => []

/-- The same for each item of an array. -/
def staticFragmentsEach : List Json → List (List String)
  | [] => []
  | j :: js => j.staticFragments :: staticFragmentsEach js

/-- The same for each value of a marked object. -/
def staticFragmentsValues : List (String × Json) → List (List String)
  | [] => []
  | (k, j) :: ms =>
    if k = "values" then
      match j with
      | .array items => staticFragmentsEach items
      | _ => []
    else staticFragmentsValues ms

end

/-- The items of an array are looked at one by one. -/
theorem staticFragmentsEach_eq_map (js : List Json) :
    staticFragmentsEach js = js.map staticFragments := by
  induction js with
  | nil => rfl
  | cons j js ih => rw [staticFragmentsEach, ih, List.map_cons]

/-- So are the data for the values. -/
theorem staticFragmentsValues_eq_map (members : List (String × Json)) :
    staticFragmentsValues members = (valuesOf members).map staticFragments := by
  induction members with
  | nil => rfl
  | cons m ms ih =>
    obtain ⟨k, j⟩ := m
    unfold valuesOf at ih ⊢
    unfold staticFragmentsValues member?
    by_cases hk : k = "values"
    · rw [if_pos hk, if_pos hk]
      cases j with
      | array items => exact staticFragmentsEach_eq_map items
      -- Values that are not an array do not count.
      | null => rfl
      | bool b => rfl
      | number n => rfl
      | string s => rfl
      | object members => rfl
    · rw [if_neg hk, if_neg hk, ih]

/-- Data that reaches no object has no fragments. -/
theorem mem_staticFragments_iff_of_not_reaches {f : String} {j : Json}
    (hnone : j.staticFragments = []) (hreach : ∀ members, ¬ j.Reaches (.object members)) :
    f ∈ j.staticFragments ↔
      ∃ members, j.Reaches (.object members) ∧ hasMarker members = true ∧
        f ∈ fragmentTexts members := by
  rw [hnone]
  constructor
  · intro h
    cases h
  · rintro ⟨members, h, -⟩
    exact absurd h (hreach members)

/-- The collected fragments are the strings among the fragments of the
marked objects within reach, and no others. -/
theorem mem_staticFragments_iff {f : String} (j : Json) :
    f ∈ j.staticFragments ↔
      ∃ members, j.Reaches (.object members) ∧ hasMarker members = true ∧
        f ∈ fragmentTexts members := by
  induction j using Json.readInduction with
  | null => exact mem_staticFragments_iff_of_not_reaches rfl fun _ h => nomatch h
  | bool b => exact mem_staticFragments_iff_of_not_reaches rfl fun _ h => nomatch h
  | number n => exact mem_staticFragments_iff_of_not_reaches rfl fun _ h => nomatch h
  | string s => exact mem_staticFragments_iff_of_not_reaches rfl fun _ h => nomatch h
  | array items ih =>
    rw [staticFragments, staticFragmentsEach_eq_map, ← List.flatMap_def, List.mem_flatMap]
    constructor
    · rintro ⟨i, hi, hf⟩
      obtain ⟨members, hreach, hrest⟩ := (ih i hi).mp hf
      exact ⟨members, .item hi hreach, hrest⟩
    · rintro ⟨members, hreach, hrest⟩
      cases hreach with
      | item hi hreach => exact ⟨_, hi, (ih _ hi).mpr ⟨members, hreach, hrest⟩⟩
  | object members ih =>
    rw [staticFragments, staticFragmentsValues_eq_map]
    cases hmarked : hasMarker members with
    | false =>
      rw [if_neg Bool.false_ne_true]
      constructor
      · intro h
        cases h
      · -- An object without the marker reaches no other one.
        rintro ⟨inner, hreach, hinner, -⟩
        cases hreach with
        | refl =>
          rw [hmarked] at hinner
          cases hinner
        | value hm _ _ =>
          rw [hmarked] at hm
          cases hm
    | true =>
      -- The fragments of the object itself, or those within one of its values.
      rw [if_pos rfl, mem_weave]
      constructor
      · rintro (hf | ⟨fs, hfs, hf⟩)
        · exact ⟨members, .refl _, hmarked, hf⟩
        · obtain ⟨i, hi, rfl⟩ := List.mem_map.mp hfs
          obtain ⟨inner, hreach, hrest⟩ := (ih i hi).mp hf
          exact ⟨inner, .value hmarked hi hreach, hrest⟩
      · rintro ⟨inner, hreach, hinner, hf⟩
        cases hreach with
        | refl => exact Or.inl hf
        | value _ hi hreach =>
          exact Or.inr ⟨_, List.mem_map_of_mem hi, (ih _ hi).mpr ⟨inner, hreach, hinner, hf⟩⟩

end Json

/-! ### Reading keeps the fragments -/

/-- A sequence has the fragments of its elements, in their order. -/
theorem Value.staticFragments_sequence (vs : List Value) :
    (Value.sequence vs).staticFragments = (vs.map Value.staticFragments).flatten := by
  rw [Value.staticFragments, Value.leaves]
  induction vs with
  | nil => rfl
  | cons v vs ih =>
    rw [Value.leavesAll, staticOf_append, ih]
    rfl

/-- What holds of each piece of a list that is read holds of the list. -/
theorem Value.map_staticFragments_of_ofJsons {js : List Json} {vs : List Value}
    (hjs : ∀ j ∈ js, ∀ v, Value.ofJson j = .ok v → v.staticFragments = j.staticFragments)
    (h : Value.ofJsons js = .ok vs) :
    vs.map Value.staticFragments = js.map Json.staticFragments := by
  induction js generalizing vs with
  | nil =>
    cases h
    rfl
  | cons j js ih =>
    rw [Value.ofJsons] at h
    obtain ⟨v, hv, h⟩ := bind_eq_ok_iff.mp h
    obtain ⟨ws, hws, h⟩ := bind_eq_ok_iff.mp h
    cases h
    rw [List.map_cons, List.map_cons, hjs j List.mem_cons_self v hv,
      ih (fun k hk => hjs k (List.mem_cons_of_mem j hk)) hws]

/-- A value has the fragments of the data that it was read from. -/
theorem Value.staticFragments_of_ofJson {j : Json} {v : Value} (h : Value.ofJson j = .ok v) :
    v.staticFragments = j.staticFragments := by
  induction j using Json.readInduction generalizing v with
  | null =>
    cases h
    rfl
  | bool b =>
    cases h
    rfl
  | number n =>
    cases h
    rfl
  | string s =>
    cases h
    rfl
  | array items ih =>
    rw [Value.ofJson] at h
    obtain ⟨vs, hvs, rfl⟩ := map_eq_ok_iff.mp h
    have hmap := Value.map_staticFragments_of_ofJsons (fun j hj v => ih j hj) hvs
    rw [Json.staticFragments, Json.staticFragmentsEach_eq_map, ← hmap]
    exact Value.staticFragments_sequence vs
  | object members ih =>
    cases hmarked : Json.hasMarker members with
    | false =>
      -- The object became its own text, which is a scalar.
      rw [Value.ofJson, hmarked, if_neg Bool.false_ne_true] at h
      cases h
      rw [Json.staticFragments, hmarked]
      rfl
    | true =>
      rw [Value.ofJson_marked hmarked] at h
      obtain ⟨t, ht, rfl⟩ := map_eq_ok_iff.mp h
      -- The members hold the fragments as strings and the data of the values.
      obtain ⟨hfs, -, hvs⟩ := Template.ofMembers_eq_ok_iff.mp ht
      have hmap := Value.map_staticFragments_of_ofJsons (fun j hj v => ih j hj) hvs
      have htexts : Json.fragmentTexts members = t.fragments := by
        unfold Json.fragmentTexts
        rw [hfs]
        simp [List.filterMap_map, Function.comp_def, Json.text?]
      rw [Json.staticFragments, if_pos hmarked, Json.staticFragmentsValues_eq_map, htexts, ← hmap]
      exact t.staticFragments_eq_weave

/-! ### The main theorem -/

/-- Among scalars alone, no position is in a fragment. -/
theorem inFragment_eq_false {ls : List Leaf} (h : staticOf ls = []) (i : Nat) :
    inFragment ls i = false := by
  induction ls generalizing i with
  | nil => rfl
  | cons l ls ih =>
    cases l with
    | fragment text => cases h
    | scalar s =>
      unfold inFragment
      split
      · rfl
      · exact ih h _

/-- The markup characters of the HTML of a value that was read are those
of the fragments of the marked objects within reach. Without such an
object, reading succeeds, and the HTML has no markup characters and no
`&` that does not begin an entity. -/
theorem markup_stringify_ofJson (j : Json) :
    (∀ v, Value.ofJson j = .ok v →
      markup v.stringify = markup (String.join j.staticFragments)) ∧
    (∀ f, f ∈ j.staticFragments ↔
      ∃ members, j.Reaches (.object members) ∧ Json.hasMarker members = true ∧
        f ∈ Json.fragmentTexts members) ∧
    ((∀ members, j.Reaches (.object members) → Json.hasMarker members = false) →
      ∃ v, Value.ofJson j = .ok v ∧ markup v.stringify = [] ∧
        ∀ before after, v.stringify.toList = before ++ '&' :: after →
          BeginsEntity ('&' :: after)) := by
  have hmarkup : ∀ v, Value.ofJson j = .ok v →
      markup v.stringify = markup (String.join j.staticFragments) := by
    intro v hv
    rw [Value.stringify_eq_htmlOf, markup_htmlOf, ← Value.staticFragments_of_ofJson hv]
    rfl
  refine ⟨hmarkup, fun f => j.mem_staticFragments_iff, ?_⟩
  -- What is left is data without a marked object within reach.
  intro hunmarked
  have hno : ∀ members, j.Reaches (.object members) → ¬ Json.hasMarker members = true := by
    intro members hreach
    rw [hunmarked members hreach]
    exact Bool.false_ne_true
  -- No marked object can be malformed.
  obtain ⟨v, hv⟩ := Value.ofJson_isOk j fun members hreach hmarked =>
    absurd hmarked (hno members hreach)
  -- No marked object can bring in a fragment.
  have hnone : j.staticFragments = [] := by
    refine List.eq_nil_iff_forall_not_mem.mpr fun f hf => ?_
    obtain ⟨members, hreach, hmarked, -⟩ := j.mem_staticFragments_iff.mp hf
    exact hno members hreach hmarked
  refine ⟨v, hv, ?_, ?_⟩
  · rw [hmarkup v hv, hnone]
    rfl
  · intro before after h
    have hfrag : staticOf v.leaves = [] := (Value.staticFragments_of_ofJson hv).trans hnone
    rw [Value.stringify_eq_htmlOf] at h
    rcases ampersandsBeginEntities_htmlOf v.leaves before after h with hin | hent
    · rw [inFragment_eq_false hfrag] at hin
      cases hin
    · exact hent

/-- A whole template inside an object without the marker. The object as a
value of a template leaves the markup of the template alone, and on its
own it makes no markup. -/
theorem markup_stringify_ofJson_unmarked :
    (∃ v, Value.ofJson (.ofParts ["<b>", "</b>"] [.object [("inner", .ofParts ["<script>"] [])]])
        = .ok v ∧ markup v.stringify = ['<', '>', '<', '>']) ∧
    (∀ members, (Json.object [("inner", .ofParts ["<script>"] [])]).Reaches (.object members) →
      Json.hasMarker members = false) ∧
    ∃ v, Value.ofJson (.object [("inner", .ofParts ["<script>"] [])]) = .ok v ∧
      markup v.stringify = [] := by
  have hunmarked : ∀ members,
      (Json.object [("inner", .ofParts ["<script>"] [])]).Reaches (.object members) →
      Json.hasMarker members = false := by
    intro members hreach
    cases hreach with
    | refl => decide
    | value hmarked _ _ => exact absurd hmarked (by decide)
  refine ⟨⟨_, rfl, ?_⟩, hunmarked, ?_⟩
  · have hmarked := markup_stringify_ofJson
      (.ofParts ["<b>", "</b>"] [.object [("inner", .ofParts ["<script>"] [])]])
    rw [hmarked.1 _ rfl]
    decide
  · obtain ⟨v, hv, hmarkup, -⟩ := (markup_stringify_ofJson _).2.2 hunmarked
    exact ⟨v, hv, hmarkup⟩

end HtmlTemplate
