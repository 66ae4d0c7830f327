import HtmlTemplate.Proofs.Reachable

/-!
# `HtmlTemplate.Proofs.Faults`: which fault of the data is reported

Data can have many faults at once, and reading reports one of them.
`Json.FirstFault` says which one, in terms of the data alone. In an array
it is the first fault of the first item that has any. In a marked object
the order is: no array of fragments, values that are not an array, the
first fragment that is not a string, the first fault of the first value
that has any, and last the lengths of the two lists.

`Json.IsSound` says that there is no fault. Each piece of data is sound
or has a first fault (`Json.isSound_or_firstFault`), and reading succeeds
on the former and reports the latter. So both are exact, which is the
main theorem, `ofJson_eq_error_iff`.

The faults do not depend on anything else that the data holds.
`Json.UnreadChange` relates data that differ in other members of a marked
object, or in an object without the marker.
-/

set_option autoImplicit false

namespace HtmlTemplate

/-! ### The error of a step -/

/-- The error of a step, if the step fails. -/
def fault? {ε α : Type} : Except ε α → Option ε
  | .ok _ => none
  | .error e => some e

/-- A step that succeeds has no fault. -/
@[simp] theorem fault?_ok {ε α : Type} (a : α) : fault? (.ok a : Except ε α) = none := rfl

/-- A step that fails has its error. -/
@[simp] theorem fault?_error {ε α : Type} (e : ε) : fault? (.error e : Except ε α) = some e := rfl

/-- What is done with the result does not matter. -/
@[simp] theorem fault?_map {ε α β : Type} (f : α → β) (x : Except ε α) :
    fault? (x.map f) = fault? x := by
  cases x <;> rfl

/-- What is done with the error is done with the fault. -/
@[simp] theorem fault?_mapError {ε δ α : Type} (f : ε → δ) (x : Except ε α) :
    fault? (x.mapError f) = (fault? x).map f := by
  cases x <;> rfl

/-- The fault is the error. -/
theorem fault?_eq_some_iff {ε α : Type} {x : Except ε α} {e : ε} :
    fault? x = some e ↔ x = .error e := by
  cases x <;> simp

/-- Without a fault there is a result. -/
theorem fault?_eq_none_iff {ε α : Type} {x : Except ε α} :
    fault? x = none ↔ ∃ a, x = .ok a := by
  cases x <;> simp

/-- A step fails after another one with the error of the first that
fails. -/
theorem fault?_bind {ε α β : Type} {x : Except ε α} {next : α → Except ε β} {e : Option ε}
    (h : ∀ a, x = .ok a → fault? (next a) = e) : fault? (x >>= next) = (fault? x).or e := by
  cases x with
  | error e' => rfl
  | ok a =>
    show fault? (next a) = e
    exact h a rfl

/-- A step over a list fails with the error of the first element that
fails. -/
theorem fault?_mapM {ε α β : Type} (f : α → Except ε β) (l : List α) :
    fault? (l.mapM f) = l.findSome? fun a => fault? (f a) := by
  induction l with
  | nil => rfl
  | cons a l ih =>
    -- Putting the results together does not fail.
    have hrest : ∀ b, f a = .ok b →
        fault? (l.mapM f >>= fun bs => pure (b :: bs)) = l.findSome? fun a => fault? (f a) := by
      intro b _
      have hpure : fault? (l.mapM f >>= fun bs => pure (b :: bs)) = (fault? (l.mapM f)).or none :=
        fault?_bind fun bs _ => rfl
      rw [hpure, Option.or_none, ih]
    rw [List.mapM_cons, fault?_bind hrest, List.findSome?_cons]
    cases fault? (f a) <;> rfl

/-- The items of an array are read one after the other. -/
theorem Value.ofJsons_eq_mapM (js : List Json) : Value.ofJsons js = js.mapM Value.ofJson := by
  induction js with
  | nil => rfl
  | cons j js ih =>
    rw [Value.ofJsons, List.mapM_cons, ih]

/-- A list of values fails with the error of the first one that fails. -/
theorem Value.fault?_ofJsons (js : List Json) :
    fault? (Value.ofJsons js) = js.findSome? fun j => fault? (Value.ofJson j) := by
  rw [Value.ofJsons_eq_mapM, fault?_mapM]

/-- Two lists make a template if their lengths fit. Otherwise the error
has the lengths. -/
theorem Template.fault?_ofParts (fs : List String) (vs : List Value) :
    fault? (Template.ofParts fs vs) =
      if fs.length = vs.length + 1 then none else some ⟨fs.length, vs.length⟩ := by
  by_cases h : fs.length = vs.length + 1
  · obtain ⟨t, ht⟩ := Template.exists_of_length h
    rw [if_pos h, Template.ofParts_eq_ok_iff.mpr ht]
    rfl
  · rw [if_neg h]
    unfold Template.ofParts
    cases hi : Template.interleave? fs vs with
    | none => rfl
    | some t =>
      -- The parts of a template would fit.
      obtain ⟨rfl, rfl⟩ := Template.parts_of_interleave? hi
      exact absurd t.length_fragments h

/-! ### Sound data and first faults -/

namespace Json

/-- The values of a marked object are an array or absent. -/
def ValuesAbsentOrArray (members : List (String × Json)) : Prop :=
  ∀ j, member? "values" members = some j → ∃ items, j = .array items

/-- Every marked object that reading comes to is well formed. -/
def IsSound (j : Json) : Prop :=
  ∀ members, j.Reaches (.object members) → hasMarker members = true → IsWellFormed members

/-- The fault of data that comes first. -/
inductive FirstFault : Json → DecodeError → Prop where
  /-- In an array, the items before the one at fault are sound. -/
  | item {before after : List Json} {j : Json} {e : DecodeError}
      (hbefore : ∀ k ∈ before, k.IsSound) (hj : FirstFault j e) :
      FirstFault (.array (before ++ j :: after)) e
  /-- The fragments are missing, or are no array. -/
  | noFragments {members : List (String × Json)} (hmarked : hasMarker members = true)
      (hfragments : ∀ items, member? "fragments" members ≠ some (.array items)) :
      FirstFault (.object members) .noFragments
  /-- There are fragments, and values that are no array. -/
  | valuesNotArray {members : List (String × Json)} {items : List Json}
      (hmarked : hasMarker members = true)
      (hfragments : member? "fragments" members = some (.array items))
      (hvalues : ¬ ValuesAbsentOrArray members) :
      FirstFault (.object members) .valuesNotArray
  /-- The fragments before the one at fault are strings. -/
  | fragment {members : List (String × Json)} {texts : List String} {after : List Json} {j : Json}
      (hmarked : hasMarker members = true)
      (hfragments : member? "fragments" members = some (.array (texts.map .string ++ j :: after)))
      (hvalues : ValuesAbsentOrArray members) (hj : ∀ text, j ≠ .string text) :
      FirstFault (.object members) (.fragmentNotString j)
  /-- All fragments are strings, and the values before the one at fault are sound. -/
  | value {members : List (String × Json)} {texts : List String} {before after : List Json}
      {j : Json} {e : DecodeError} (hmarked : hasMarker members = true)
      (hfragments : member? "fragments" members = some (.array (texts.map .string)))
      (hvalues : ValuesAbsentOrArray members) (hsplit : valuesOf members = before ++ j :: after)
      (hbefore : ∀ k ∈ before, k.IsSound) (hj : FirstFault j e) :
      FirstFault (.object members) e
  /-- All fragments are strings and all values are sound, but their numbers do not fit. -/
  | shape {members : List (String × Json)} {texts : List String}
      (hmarked : hasMarker members = true)
      (hfragments : member? "fragments" members = some (.array (texts.map .string)))
      (hvalues : ValuesAbsentOrArray members) (hsound : ∀ k ∈ valuesOf members, k.IsSound)
      (hlengths : texts.length ≠ (valuesOf members).length + 1) :
      FirstFault (.object members) (.shape ⟨texts.length, (valuesOf members).length⟩)

/-- The check on the values passes if there is nothing wrong with their
kind. -/
theorem checkValues_eq_ok_iff {members : List (String × Json)} :
    checkValues members = .ok () ↔ ValuesAbsentOrArray members := by
  unfold checkValues ValuesAbsentOrArray
  cases member? "values" members with
  | none => simp
  | some j => cases j <;> simp

/-- The only fault of the member for the values is not to be an array. -/
theorem checkValues_eq_error {members : List (String × Json)}
    (h : ¬ ValuesAbsentOrArray members) : checkValues members = .error .valuesNotArray := by
  cases hcheck : checkValues members with
  | ok u => exact absurd (checkValues_eq_ok_iff.mp hcheck) h
  | error e =>
    unfold checkValues at hcheck
    split at hcheck <;> cases hcheck
    rfl

/-- What well formed means, with the check on the values spelled out. -/
theorem isWellFormed_iff {members : List (String × Json)} :
    IsWellFormed members ↔
      (∃ texts : List String, member? "fragments" members = some (.array (texts.map .string)) ∧
        texts.length = (valuesOf members).length + 1) ∧ ValuesAbsentOrArray members := by
  constructor
  · intro h
    exact ⟨h.fragments, checkValues_eq_ok_iff.mp h.values⟩
  · rintro ⟨hfragments, hvalues⟩
    exact ⟨hfragments, checkValues_eq_ok_iff.mpr hvalues⟩

/-- An array is sound if its items are. -/
theorem isSound_array_iff {items : List Json} :
    (Json.array items).IsSound ↔ ∀ j ∈ items, j.IsSound := by
  constructor
  · intro h j hj members hreach
    exact h members (.item hj hreach)
  · intro h members hreach
    cases hreach with
    | item hj hreach => exact h _ hj members hreach

/-- A marked object is sound if it is well formed and its values are
sound. -/
theorem isSound_object_iff {members : List (String × Json)} (hmarked : hasMarker members = true) :
    (Json.object members).IsSound ↔
      IsWellFormed members ∧ ∀ j ∈ valuesOf members, j.IsSound := by
  constructor
  · intro h
    refine ⟨h members (.refl _) hmarked, ?_⟩
    intro j hj inner hreach
    exact h inner (.value hmarked hj hreach)
  · rintro ⟨hwf, hvalues⟩ inner hreach
    cases hreach with
    | refl => exact fun _ => hwf
    | value _ hj hreach => exact hvalues _ hj inner hreach

/-- An object without the marker is sound, whatever is in it. -/
theorem isSound_of_unmarked {members : List (String × Json)} (hmarked : hasMarker members = false) :
    (Json.object members).IsSound := by
  intro inner hreach hinner
  cases hreach with
  | refl => simp [hmarked] at hinner
  | value hm _ _ => simp [hmarked] at hm

end Json

/-! ### Each fault in its turn

One lemma for each step of putting a template together, in the order of
the steps. The outcome of reading the values is a parameter, because it
only counts once the earlier steps have passed.
-/

section Steps

variable {members : List (String × Json)} {values : Except DecodeError (List Value)}

/-- The fragments come first. -/
theorem Template.ofMembers_noFragments
    (h : ∀ items, Json.member? "fragments" members ≠ some (.array items)) :
    Template.ofMembers members values = .error .noFragments := by
  have hnone : Json.fragmentsOf members = .error .noFragments := by
    unfold Json.fragmentsOf
    split
    case h_1 items hitems => exact absurd hitems (h items)
    case h_2 => rfl
  rw [Template.ofMembers, hnone]
  rfl

/-- Then the kind of the values, before any fragment is looked at. -/
theorem Template.ofMembers_valuesNotArray {items : List Json}
    (hitems : Json.member? "fragments" members = some (.array items))
    (h : ¬ Json.ValuesAbsentOrArray members) :
    Template.ofMembers members values = .error .valuesNotArray := by
  rw [Template.ofMembers, Json.fragmentsOf_eq_ok_iff.mpr hitems, Json.checkValues_eq_error h]
  rfl

/-- A fragment that is no string is reported as it is. -/
theorem Json.fragmentText_eq_error {j : Json} (h : ∀ text, j ≠ .string text) :
    Json.fragmentText j = .error (.fragmentNotString j) := by
  cases j with
  | string text => exact absurd rfl (h text)
  | null => rfl
  | bool b => rfl
  | number n => rfl
  | array items => rfl
  | object members => rfl

/-- The first fragment that is not a string is the one that counts. -/
theorem Template.ofMembers_fragmentNotString {texts : List String} {after : List Json} {j : Json}
    (hitems : Json.member? "fragments" members = some (.array (texts.map .string ++ j :: after)))
    (hvalues : Json.ValuesAbsentOrArray members) (h : ∀ text, j ≠ .string text) :
    Template.ofMembers members values = .error (.fragmentNotString j) := by
  have hfirst : (texts.map Json.string ++ j :: after).mapM Json.fragmentText
      = .error (.fragmentNotString j) := by
    rw [← fault?_eq_some_iff, fault?_mapM]
    refine List.findSome?_eq_some_iff.mpr ⟨texts.map .string, j, after, rfl, ?_, ?_⟩
    · rw [Json.fragmentText_eq_error h, fault?_error]
    · intro k hk
      obtain ⟨text, -, rfl⟩ := List.mem_map.mp hk
      rfl
  rw [Template.ofMembers, Json.fragmentsOf_eq_ok_iff.mpr hitems,
    Json.checkValues_eq_ok_iff.mpr hvalues]
  show (texts.map Json.string ++ j :: after).mapM Json.fragmentText >>= _ = _
  rw [hfirst]
  rfl

/-- Once the fragments are read, the values count, and then the two
lengths. -/
theorem Template.ofMembers_of_texts {texts : List String}
    (hitems : Json.member? "fragments" members = some (.array (texts.map .string)))
    (hvalues : Json.ValuesAbsentOrArray members) :
    Template.ofMembers members values =
      values >>= fun vs => (Template.ofParts texts vs).mapError .shape := by
  rw [Template.ofMembers, Json.fragmentsOf_eq_ok_iff.mpr hitems,
    Json.checkValues_eq_ok_iff.mpr hvalues]
  show (texts.map Json.string).mapM Json.fragmentText >>= _ = _
  rw [mapM_fragmentText_eq_ok_iff.mpr rfl]
  rfl

end Steps

/-- A list with an item at fault fails with its error if the items before
it are sound. -/
theorem Value.ofJsons_eq_error {before after : List Json} {j : Json} {e : DecodeError}
    (hbefore : ∀ k ∈ before, k.IsSound) (hj : Value.ofJson j = .error e) :
    Value.ofJsons (before ++ j :: after) = .error e := by
  rw [← fault?_eq_some_iff, Value.fault?_ofJsons]
  refine List.findSome?_eq_some_iff.mpr ⟨before, j, after, rfl, fault?_eq_some_iff.mpr hj, ?_⟩
  intro k hk
  exact fault?_eq_none_iff.mpr (Value.ofJson_isOk k (hbefore k hk))

/-- Reading fails with the first fault of the data. -/
theorem Value.ofJson_of_firstFault {j : Json} {e : DecodeError} (h : j.FirstFault e) :
    Value.ofJson j = .error e := by
  -- A fault lies in an item, in a value, or in the object itself. The rules
  -- for the object go through the steps in the order of reading.
  induction h with
  | item hbefore _ ih =>
    rw [Value.ofJson, Value.ofJsons_eq_error hbefore ih]
    rfl
  | noFragments hmarked hfragments =>
    rw [Value.ofJson_marked hmarked, Template.ofMembers_noFragments hfragments]
    rfl
  | valuesNotArray hmarked hfragments hvalues =>
    rw [Value.ofJson_marked hmarked, Template.ofMembers_valuesNotArray hfragments hvalues]
    rfl
  | fragment hmarked hfragments hvalues hj =>
    rw [Value.ofJson_marked hmarked, Template.ofMembers_fragmentNotString hfragments hvalues hj]
    rfl
  | value hmarked hfragments hvalues hsplit hbefore _ ih =>
    rw [Value.ofJson_marked hmarked, Template.ofMembers_of_texts hfragments hvalues, hsplit,
      Value.ofJsons_eq_error hbefore ih]
    rfl
  | @shape members texts hmarked hfragments hvalues hsound hlengths =>
    -- The values are read, and the lengths are those of the data.
    obtain ⟨vs, hvs⟩ := Value.ofJsons_isOk fun k hk => Value.ofJson_isOk k (hsound k hk)
    have hlen : vs.length = (Json.valuesOf members).length := Value.length_of_ofJsons hvs
    have hparts : Template.ofParts texts vs = .error ⟨texts.length, vs.length⟩ := by
      rw [← fault?_eq_some_iff, Template.fault?_ofParts, hlen, if_neg hlengths]
    rw [Value.ofJson_marked hmarked, Template.ofMembers_of_texts hfragments hvalues, hvs, ← hlen]
    show ((Template.ofParts texts vs).mapError _).map _ = _
    rw [hparts]
    rfl

/-! ### No data is left out -/

/-- All elements of a list have one property, or there is a first one
with the other. -/
theorem forall_or_exists_first {α : Type} {P Q : α → Prop} {l : List α}
    (h : ∀ a ∈ l, P a ∨ Q a) :
    (∀ a ∈ l, P a) ∨
      ∃ before a after, l = before ++ a :: after ∧ (∀ b ∈ before, P b) ∧ Q a := by
  induction l with
  | nil => exact Or.inl fun a ha => nomatch ha
  | cons a l ih =>
    -- Either `a` is the first one, or it comes in front of the first one.
    rcases h a List.mem_cons_self with hP | hQ
    · rcases ih fun b hb => h b (List.mem_cons_of_mem a hb) with hall | hfirst
      · exact Or.inl (List.forall_mem_cons.mpr ⟨hP, hall⟩)
      · obtain ⟨before, b, after, rfl, hbefore, hb⟩ := hfirst
        exact Or.inr ⟨a :: before, b, after, rfl, List.forall_mem_cons.mpr ⟨hP, hbefore⟩, hb⟩
    · exact Or.inr ⟨[], a, l, rfl, List.forall_mem_nil P, hQ⟩

namespace Json

/-- Data that are strings are the strings of some texts. -/
theorem exists_texts {items : List Json} (h : ∀ j ∈ items, ∃ text, j = .string text) :
    ∃ texts : List String, items = texts.map .string := by
  induction items with
  | nil => exact ⟨[], rfl⟩
  | cons j js ih =>
    obtain ⟨⟨text, rfl⟩, hjs⟩ := List.forall_mem_cons.mp h
    obtain ⟨texts, rfl⟩ := ih hjs
    exact ⟨text :: texts, rfl⟩

/-- A marked object is sound or has a first fault, if its values do. -/
theorem isSound_or_firstFault_of_marked {members : List (String × Json)}
    (hmarked : hasMarker members = true)
    (ih : ∀ j ∈ valuesOf members, j.IsSound ∨ ∃ e, j.FirstFault e) :
    (Json.object members).IsSound ∨ ∃ e, (Json.object members).FirstFault e := by
  by_cases hfragments : ∃ items, member? "fragments" members = some (.array items)
  case neg => exact Or.inr ⟨_, .noFragments hmarked fun items h => hfragments ⟨items, h⟩⟩
  obtain ⟨items, hitems⟩ := hfragments
  by_cases hvalues : ValuesAbsentOrArray members
  case neg => exact Or.inr ⟨_, .valuesNotArray hmarked hitems hvalues⟩
  -- The fragments are strings, or there is a first one that is none.
  rcases forall_or_exists_first fun j (_ : j ∈ items) => Classical.em (∃ text, j = .string text)
    with hstrings | ⟨before, j, after, rfl, hstrings, hj⟩
  case inr =>
    obtain ⟨texts, rfl⟩ := exists_texts hstrings
    exact Or.inr ⟨_, .fragment hmarked hitems hvalues fun text h => hj ⟨text, h⟩⟩
  obtain ⟨texts, rfl⟩ := exists_texts hstrings
  -- The values are sound, or there is a first one with a fault.
  rcases forall_or_exists_first ih
    with hsound | ⟨before, j, after, hsplit, hbefore, e, hj⟩
  case inr => exact Or.inr ⟨e, .value hmarked hitems hvalues hsplit hbefore hj⟩
  by_cases hlengths : texts.length = (valuesOf members).length + 1
  case neg => exact Or.inr ⟨_, .shape hmarked hitems hvalues hsound hlengths⟩
  have hwf : IsWellFormed members := isWellFormed_iff.mpr ⟨⟨texts, hitems, hlengths⟩, hvalues⟩
  exact Or.inl ((isSound_object_iff hmarked).mpr ⟨hwf, hsound⟩)

/-- Data that reading never looks into is sound. -/
theorem isSound_of_not_reaches {j : Json} (h : ∀ members, ¬ j.Reaches (.object members)) :
    j.IsSound :=
  fun members hreach => absurd hreach (h members)

/-- All data is sound or has a first fault. -/
theorem isSound_or_firstFault (j : Json) : j.IsSound ∨ ∃ e, j.FirstFault e := by
  induction j using Json.readInduction with
  | null => exact Or.inl (isSound_of_not_reaches fun _ h => nomatch h)
  | bool b => exact Or.inl (isSound_of_not_reaches fun _ h => nomatch h)
  | number n => exact Or.inl (isSound_of_not_reaches fun _ h => nomatch h)
  | string s => exact Or.inl (isSound_of_not_reaches fun _ h => nomatch h)
  | array items ih =>
    rcases forall_or_exists_first ih
      with hsound | ⟨before, j, after, rfl, hbefore, e, hj⟩
    · exact Or.inl (isSound_array_iff.mpr hsound)
    · exact Or.inr ⟨e, .item hbefore hj⟩
  | object members ih =>
    cases hmarked : hasMarker members with
    | false => exact Or.inl (isSound_of_unmarked hmarked)
    | true => exact isSound_or_firstFault_of_marked hmarked ih

end Json

/-- Reading succeeds exactly on sound data. -/
theorem Value.ofJson_isOk_iff (j : Json) : (∃ v, Value.ofJson j = .ok v) ↔ j.IsSound := by
  constructor
  · rintro ⟨v, hv⟩
    rcases j.isSound_or_firstFault with hsound | ⟨e, he⟩
    · exact hsound
    · -- With a first fault, reading would have failed.
      rw [Value.ofJson_of_firstFault he] at hv
      cases hv
  · exact Value.ofJson_isOk j

/-- Reading reports the first fault, and no other one. -/
theorem Value.ofJson_eq_error_iff_firstFault (j : Json) (e : DecodeError) :
    Value.ofJson j = .error e ↔ j.FirstFault e := by
  constructor
  · intro h
    rcases j.isSound_or_firstFault with hsound | ⟨e', he'⟩
    · obtain ⟨v, hv⟩ := Value.ofJson_isOk j hsound
      rw [h] at hv
      cases hv
    · -- The fault that is there is the one that was reported.
      have hsame : Except.error e' = Except.error e := (Value.ofJson_of_firstFault he').symm.trans h
      cases hsame
      exact he'
  · exact Value.ofJson_of_firstFault

/-! ### What plays no part -/

/-- A change of data in a place that has no part in its faults: among the
other members of a marked object, in an object without the marker, or in
such a place of an item or a value. -/
inductive Json.UnreadChange : Json → Json → Prop where
  /-- Other members of a marked object come, go or change. -/
  | members {ms ns : List (String × Json)} (hms : hasMarker ms = true) (hns : hasMarker ns = true)
      (hfragments : member? "fragments" ms = member? "fragments" ns)
      (hvalues : member? "values" ms = member? "values" ns) :
      UnreadChange (.object ms) (.object ns)
  /-- An object without the marker is a text, whatever it holds. -/
  | unmarked {ms ns : List (String × Json)} (hms : hasMarker ms = false)
      (hns : hasMarker ns = false) : UnreadChange (.object ms) (.object ns)
  /-- The change is in an item of an array. -/
  | item {before after : List Json} {j k : Json} (h : UnreadChange j k) :
      UnreadChange (.array (before ++ j :: after)) (.array (before ++ k :: after))
  /-- The change is in a value of a marked object. -/
  | value {ms ns : List (String × Json)} {before after : List Json} {j k : Json}
      (hms : hasMarker ms = true) (hns : hasMarker ns = true)
      (hfragments : member? "fragments" ms = member? "fragments" ns)
      (hj : member? "values" ms = some (.array (before ++ j :: after)))
      (hk : member? "values" ns = some (.array (before ++ k :: after)))
      (h : UnreadChange j k) : UnreadChange (.object ms) (.object ns)

/-- The fault of a list is that of the list with another item in place of
one that has the same fault. -/
theorem Value.fault?_ofJsons_replace {before after : List Json} {j k : Json}
    (h : fault? (Value.ofJson j) = fault? (Value.ofJson k)) :
    fault? (Value.ofJsons (before ++ j :: after)) =
      fault? (Value.ofJsons (before ++ k :: after)) := by
  rw [Value.fault?_ofJsons, Value.fault?_ofJsons, List.findSome?_append, List.findSome?_append,
    List.findSome?_cons, List.findSome?_cons, h]

/-- Of the values of a marked object, only their fault and their number
decide which fault the object has. -/
theorem Template.fault?_ofMembers_congr {ms ns : List (String × Json)}
    {xs ys : Except DecodeError (List Value)}
    (hfragments : Json.fragmentsOf ms = Json.fragmentsOf ns)
    (hcheck : Json.checkValues ms = Json.checkValues ns) (hfault : fault? xs = fault? ys)
    (hlength : ∀ vs ws, xs = .ok vs → ys = .ok ws → vs.length = ws.length) :
    fault? (Template.ofMembers ms xs) = fault? (Template.ofMembers ns ys) := by
  -- What comes after the fragments agrees whatever they are.
  have hlast : ∀ fs : List String,
      fault? (xs >>= fun vs => (Template.ofParts fs vs).mapError DecodeError.shape) =
        fault? (ys >>= fun ws => (Template.ofParts fs ws).mapError DecodeError.shape) := by
    intro fs
    cases xs with
    | error e =>
      have hys : ys = .error e := fault?_eq_some_iff.mp hfault.symm
      rw [hys]
    | ok vs =>
      obtain ⟨ws, rfl⟩ := fault?_eq_none_iff.mp hfault.symm
      have hlen : vs.length = ws.length := hlength vs ws rfl rfl
      show fault? ((Template.ofParts fs vs).mapError _) =
        fault? ((Template.ofParts fs ws).mapError _)
      rw [fault?_mapError, fault?_mapError, Template.fault?_ofParts, Template.fault?_ofParts, hlen]
  unfold Template.ofMembers
  rw [hfragments, hcheck]
  cases Json.fragmentsOf ns with
  | error e => rfl
  | ok items =>
    cases Json.checkValues ns with
    | error e => rfl
    | ok u =>
      show fault? (items.mapM Json.fragmentText >>= _) = fault? (items.mapM Json.fragmentText >>= _)
      cases items.mapM Json.fragmentText with
      | error e => rfl
      | ok fs => exact hlast fs

/-- Such a change leaves the fault as it is, also when there is none. -/
theorem Value.fault?_ofJson_of_unreadChange {j k : Json} (h : j.UnreadChange k) :
    fault? (Value.ofJson j) = fault? (Value.ofJson k) := by
  induction h with
  | @members ms ns hms hns hfragments hvalues =>
    have hof : Json.valuesOf ms = Json.valuesOf ns := by
      rw [Json.valuesOf, Json.valuesOf, hvalues]
    rw [Value.ofJson_marked hms, Value.ofJson_marked hns, fault?_map, fault?_map, hof]
    refine Template.fault?_ofMembers_congr ?_ ?_ rfl ?_
    · rw [Json.fragmentsOf, Json.fragmentsOf, hfragments]
    · rw [Json.checkValues, Json.checkValues, hvalues]
    · intro vs ws hvs hws
      rw [hvs] at hws
      cases hws
      rfl
  | unmarked hms hns =>
    rw [Value.ofJson, Value.ofJson, hms, hns]
    rfl
  | item _ ih =>
    rw [Value.ofJson, Value.ofJson, fault?_map, fault?_map, Value.fault?_ofJsons_replace ih]
  | @value ms ns before after j k hms hns hfragments hj hk _ ih =>
    have hofj : Json.valuesOf ms = before ++ j :: after := by rw [Json.valuesOf, hj]
    have hofk : Json.valuesOf ns = before ++ k :: after := by rw [Json.valuesOf, hk]
    rw [Value.ofJson_marked hms, Value.ofJson_marked hns, fault?_map, fault?_map, hofj, hofk]
    refine Template.fault?_ofMembers_congr ?_ ?_ (Value.fault?_ofJsons_replace ih) ?_
    · rw [Json.fragmentsOf, Json.fragmentsOf, hfragments]
    · rw [Json.checkValues, Json.checkValues, hj, hk]
    · -- Both lists have one value for each item.
      intro vs ws hvs hws
      rw [Value.length_of_ofJsons hvs, Value.length_of_ofJsons hws]
      simp

/-! ### The main theorem -/

/-- Reading a value succeeds exactly if every marked object within reach
has an array of strings as its fragments, values that are an array or
absent, and one more fragment than values. Otherwise it reports the first
fault of the data. Nothing else in the data has a part in this. Reading a
template gives the template that is read as a value, and the same error
where the data claims to be a template. All other data is reported as no
template. -/
theorem ofJson_eq_error_iff (j : Json) :
    ((∃ v, Value.ofJson j = .ok v) ↔
      ∀ members, j.Reaches (.object members) → Json.hasMarker members = true →
        (∃ texts : List String,
          Json.member? "fragments" members = some (.array (texts.map .string)) ∧
          texts.length = (Json.valuesOf members).length + 1) ∧
        Json.ValuesAbsentOrArray members) ∧
    (∀ e, Value.ofJson j = .error e ↔ j.FirstFault e) ∧
    (∀ k, j.UnreadChange k → ∀ e, Value.ofJson j = .error e ↔ Value.ofJson k = .error e) ∧
    (∀ t, Template.ofJson j = .ok t ↔ Value.ofJson j = .ok (.nested t)) ∧
    (j.isTemplate = true → ∀ e, Template.ofJson j = .error e ↔ Value.ofJson j = .error e) ∧
    (j.isTemplate = false → Template.ofJson j = .error (.notTemplate j)) := by
  refine ⟨?_, Value.ofJson_eq_error_iff_firstFault j, ?_, Template.ofJson_eq_ok_iff j, ?_, ?_⟩
  · simp only [← Json.isWellFormed_iff]
    exact Value.ofJson_isOk_iff j
  · intro k hk e
    rw [← fault?_eq_some_iff, ← fault?_eq_some_iff, Value.fault?_ofJson_of_unreadChange hk]
  · intro hj e
    rw [← fault?_eq_some_iff, ← fault?_eq_some_iff, Value.ofJson_eq_map_of_isTemplate hj,
      fault?_map]
  · intro hj
    exact Template.ofJson_of_not_isTemplate hj

/-- A template with as many values as fragments, and a marked object
without fragments inside its first value. The fault inside is reported,
with or without one more member. -/
theorem ofJson_eq_error_iff_inside :
    (Json.ofParts ["<b>", "</b>"]
      [.array [.null, .object [(markerKey, .string marker)]], .null]).FirstFault .noFragments ∧
    Template.ofJson (.ofParts ["<b>", "</b>"]
      [.array [.null, .object [(markerKey, .string marker)]], .null]) = .error .noFragments ∧
    Value.ofJson (.ofParts ["<b>", "</b>"]
      [.array [.null, .object [(markerKey, .string marker), ("title", .null)]], .null])
        = .error .noFragments ∧
    Template.ofJson .null = .error (.notTemplate .null) := by
  have hread : Value.ofJson (.ofParts ["<b>", "</b>"]
      [.array [.null, .object [(markerKey, .string marker)]], .null]) = .error .noFragments := rfl
  have hchange : (Json.ofParts ["<b>", "</b>"]
        [.array [.null, .object [(markerKey, .string marker)]], .null]).UnreadChange
      (.ofParts ["<b>", "</b>"]
        [.array [.null, .object [(markerKey, .string marker), ("title", .null)]], .null]) := by
    -- The change is in the second item of the first value.
    have hitem := @Json.UnreadChange.item [.null] [] (.object [(markerKey, .string marker)])
      (.object [(markerKey, .string marker), ("title", .null)]) (.members rfl rfl rfl rfl)
    exact @Json.UnreadChange.value _ _ [] _ _ _ rfl rfl rfl rfl rfl hitem
  obtain ⟨-, hfault, hunread, -, htemplate, -⟩ := ofJson_eq_error_iff (.ofParts ["<b>", "</b>"]
    [.array [.null, .object [(markerKey, .string marker)]], .null])
  obtain ⟨-, -, -, -, -, hnull⟩ := ofJson_eq_error_iff .null
  exact ⟨(hfault _).mp hread, (htemplate rfl _).mpr hread, (hunread _ hchange _).mp hread,
    hnull rfl⟩

end HtmlTemplate
