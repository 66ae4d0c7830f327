import HtmlTemplate.ValueJson

/-!
# `HtmlTemplate.Proofs.Decoding`: when reading JSON data succeeds

Reading a value is a chain of steps that stops at the first fault. The
lemmas here say what a successful step has read, so that proofs about
`Value.ofJson` never open the chain.

* `Template.ofParts_eq_ok_iff`: two lists make a template exactly when
  they are its fragments and its values.
* `Template.ofMembers_eq_ok_iff`: the members of a marked object make a
  template exactly when they hold its fragments as strings, and the
  outcome of reading the values is the values of the template.
* `Value.ofValues_eq`: the values of a marked object are read from the
  member with the key `values`, which `Json.valuesOf` looks up.
* `Template.ofJson_eq_ok_iff`: a template is read where a value is read
  that is this template. Whether it is one can be told from the data
  (`Value.isTemplate_of_ofJson`).
-/

set_option autoImplicit false

namespace HtmlTemplate

/-! ### Chains of steps that can fail -/

/-- A step succeeds after another one when both do. -/
theorem bind_eq_ok_iff {ε α β : Type} {x : Except ε α} {next : α → Except ε β} {b : β} :
    (x >>= next) = .ok b ↔ ∃ a, x = .ok a ∧ next a = .ok b := by
  cases x with
  | error e =>
    constructor
    · intro h
      cases h
    · rintro ⟨a, ha, -⟩
      cases ha
  | ok a =>
    show next a = .ok b ↔ _
    constructor
    · intro h
      exact ⟨a, rfl, h⟩
    · rintro ⟨a', ha, h⟩
      cases ha
      exact h

/-- A result that is changed afterwards comes from a result. -/
theorem map_eq_ok_iff {ε α β : Type} {x : Except ε α} {f : α → β} {b : β} :
    x.map f = .ok b ↔ ∃ a, x = .ok a ∧ f a = b := by
  cases x with
  | error e => simp [Except.map]
  | ok a => simp [Except.map]

/-! ### Putting templates together -/

/-- The two lists of a template make up the template again. -/
theorem Template.interleave?_fragments_values (t : Template) :
    Template.interleave? t.fragments t.values = some t := by
  cases t with
  | last f => rfl
  | hole f v rest =>
    rw [Template.fragments, Template.values, Template.interleave?,
      Template.interleave?_fragments_values rest, Option.map_some]

/-- Interleaving fails, or gives a template with these fragments and
values. -/
theorem Template.parts_of_interleave? {fs : List String} {vs : List Value} {t : Template}
    (h : Template.interleave? fs vs = some t) : t.fragments = fs ∧ t.values = vs := by
  induction fs, vs using Template.interleave?.induct generalizing t with
  | case1 f =>
    cases h
    exact ⟨rfl, rfl⟩
  | case2 f fs v vs ih =>
    rw [Template.interleave?] at h
    obtain ⟨rest, hrest, rfl⟩ := Option.map_eq_some_iff.mp h
    obtain ⟨hfs, hvs⟩ := ih hrest
    exact ⟨congrArg (f :: ·) hfs, congrArg (v :: ·) hvs⟩
  | case3 fs vs hlast hhole =>
    -- The counts do not fit. The catch-all equation needs both facts.
    rw [Template.interleave?] at h
    · cases h
    · exact hlast
    · exact hhole

/-- Two lists make a template exactly when they are its fragments and
its values. -/
theorem Template.ofParts_eq_ok_iff {fs : List String} {vs : List Value} {t : Template} :
    Template.ofParts fs vs = .ok t ↔ t.fragments = fs ∧ t.values = vs := by
  constructor
  · intro h
    unfold Template.ofParts at h
    cases hi : Template.interleave? fs vs with
    | none =>
      rw [hi] at h
      cases h
    | some u =>
      rw [hi] at h
      cases h
      exact Template.parts_of_interleave? hi
  · rintro ⟨rfl, rfl⟩
    rw [Template.ofParts, Template.interleave?_fragments_values]

/-! ### Marked objects -/

/-- The fragments of a marked object are read exactly when they are
strings. -/
theorem mapM_fragmentText_eq_ok_iff {js : List Json} {fs : List String} :
    js.mapM Json.fragmentText = .ok fs ↔ js = fs.map Json.string := by
  induction js generalizing fs with
  | nil =>
    cases fs with
    | nil => simp [pure, Except.pure]
    | cons f fs => simp [pure, Except.pure]
  | cons j js ih =>
    rw [List.mapM_cons, bind_eq_ok_iff]
    constructor
    · rintro ⟨f, hf, hrest⟩
      obtain ⟨gs, hgs, hfs⟩ := bind_eq_ok_iff.mp hrest
      cases hfs
      -- `j` was read as a fragment, so it is a string.
      rw [ih.mp hgs, List.map_cons]
      cases j <;> cases hf
      rfl
    · intro h
      cases fs with
      | nil => cases h
      | cons f fs =>
        obtain ⟨rfl, rfl⟩ := List.cons_eq_cons.mp h
        exact ⟨f, rfl, bind_eq_ok_iff.mpr ⟨fs, ih.mpr rfl, rfl⟩⟩

/-- The fragments of a marked object are the items of an array. -/
theorem Json.fragmentsOf_eq_ok_iff {members : List (String × Json)} {js : List Json} :
    Json.fragmentsOf members = .ok js ↔ Json.member? "fragments" members = some (.array js) := by
  unfold Json.fragmentsOf
  split
  case h_1 items h => simp [h]
  case h_2 hno =>
    constructor
    · intro h
      cases h
    · intro h
      exact absurd h (hno js)

/-- The members of a marked object make a template exactly when they
hold its fragments as strings, their values are an array or absent, and
reading the values gives those of the template. -/
theorem Template.ofMembers_eq_ok_iff {members : List (String × Json)}
    {values : Except DecodeError (List Value)} {t : Template} :
    Template.ofMembers members values = .ok t ↔
      Json.member? "fragments" members = some (.array (t.fragments.map Json.string)) ∧
      Json.checkValues members = .ok () ∧ values = .ok t.values := by
  unfold Template.ofMembers
  constructor
  · -- A success has passed all five steps.
    intro h
    obtain ⟨js, hjs, h⟩ := bind_eq_ok_iff.mp h
    obtain ⟨⟨⟩, hcheck, h⟩ := bind_eq_ok_iff.mp h
    obtain ⟨fs, hfs, h⟩ := bind_eq_ok_iff.mp h
    obtain ⟨vs, hvs, h⟩ := bind_eq_ok_iff.mp h
    cases hparts : Template.ofParts fs vs with
    | error e =>
      rw [hparts] at h
      cases h
    | ok u =>
      rw [hparts] at h
      cases h
      -- The parts that were read are those of the template.
      obtain ⟨rfl, rfl⟩ := Template.ofParts_eq_ok_iff.mp hparts
      rw [Json.fragmentsOf_eq_ok_iff.mp hjs, mapM_fragmentText_eq_ok_iff.mp hfs]
      exact ⟨rfl, hcheck, hvs⟩
  · -- Each step in turn has what it needs.
    rintro ⟨hjs, hcheck, rfl⟩
    refine bind_eq_ok_iff.mpr ⟨_, Json.fragmentsOf_eq_ok_iff.mpr hjs, ?_⟩
    refine bind_eq_ok_iff.mpr ⟨(), hcheck, ?_⟩
    refine bind_eq_ok_iff.mpr ⟨_, mapM_fragmentText_eq_ok_iff.mpr rfl, ?_⟩
    refine bind_eq_ok_iff.mpr ⟨_, rfl, ?_⟩
    rw [Template.ofParts_eq_ok_iff.mpr ⟨rfl, rfl⟩]
    rfl

/-- The data for the values of a marked object, none if they are absent
or not in an array. -/
def Json.valuesOf (members : List (String × Json)) : List Json :=
  match Json.member? "values" members with
  | some (.array items) => items
  | _ => []

/-- The values of a marked object are read one by one. -/
theorem Value.ofValues_eq (members : List (String × Json)) :
    Value.ofValues members = Value.ofJsons (Json.valuesOf members) := by
  induction members with
  | nil => rfl
  | cons m ms ih =>
    obtain ⟨k, j⟩ := m
    -- Both sides search the members for the first key `values`.
    unfold Json.valuesOf at ih ⊢
    unfold Value.ofValues Json.member?
    by_cases hk : k = "values"
    · rw [if_pos hk, if_pos hk]
      cases j <;> rfl
    · rw [if_neg hk, if_neg hk, ih]

/-! ### Templates and values -/

/-- A marked object is read as a template. -/
theorem Value.ofJson_marked {members : List (String × Json)}
    (hmarked : Json.hasMarker members = true) :
    Value.ofJson (.object members) =
      (Template.ofMembers members (Value.ofJsons (Json.valuesOf members))).map .nested := by
  rw [Value.ofJson, if_pos hmarked, Value.ofValues_eq]

/-- So it is where a template is asked for. -/
theorem Template.ofJson_marked {members : List (String × Json)}
    (hmarked : Json.hasMarker members = true) :
    Template.ofJson (.object members) =
      Template.ofMembers members (Value.ofJsons (Json.valuesOf members)) := by
  rw [Template.ofJson, if_pos hmarked, Value.ofValues_eq]

/-- Data that claims to be a template is read as the same template either
way, or fails either way. -/
theorem Value.ofJson_eq_map_of_isTemplate {j : Json} (h : j.isTemplate = true) :
    Value.ofJson j = (Template.ofJson j).map .nested := by
  cases j with
  | object members =>
    have hmarked : Json.hasMarker members = true := h
    rw [Value.ofJson_marked hmarked, Template.ofJson_marked hmarked]
  | _ => cases h

/-- All other data is no template. -/
theorem Template.ofJson_of_not_isTemplate {j : Json} (h : j.isTemplate = false) :
    Template.ofJson j = .error (.notTemplate j) := by
  cases j with
  | object members =>
    have hmarked : Json.hasMarker members = false := h
    rw [Template.ofJson, hmarked]
    rfl
  | _ => rfl

/-- A value that is read from data is a template if the data claims to be
one, and not otherwise. -/
theorem Value.isTemplate_of_ofJson {j : Json} {v : Value} (h : Value.ofJson j = .ok v) :
    v.isTemplate = j.isTemplate := by
  cases hj : j.isTemplate with
  | true =>
    rw [Value.ofJson_eq_map_of_isTemplate hj] at h
    obtain ⟨t, -, rfl⟩ := map_eq_ok_iff.mp h
    rfl
  | false =>
    cases j with
    | array items =>
      rw [Value.ofJson] at h
      obtain ⟨vs, -, rfl⟩ := map_eq_ok_iff.mp h
      rfl
    | object members =>
      have hmarked : Json.hasMarker members = false := hj
      rw [Value.ofJson, hmarked] at h
      cases h
      rfl
    | _ =>
      cases h
      rfl

/-- A template is read exactly where a value is read that is this template.
-/
theorem Template.ofJson_eq_ok_iff (j : Json) (t : Template) :
    Template.ofJson j = .ok t ↔ Value.ofJson j = .ok (.nested t) := by
  -- Only data that claims to be a template is read as one, in either way.
  cases hj : j.isTemplate with
  | true =>
    rw [Value.ofJson_eq_map_of_isTemplate hj, map_eq_ok_iff]
    constructor
    · intro h
      exact ⟨t, h, rfl⟩
    · rintro ⟨u, hu, hsame⟩
      cases hsame
      exact hu
  | false =>
    rw [Template.ofJson_of_not_isTemplate hj]
    constructor
    · intro h
      cases h
    · intro h
      have hsame := Value.isTemplate_of_ofJson h
      rw [hj] at hsame
      cases hsame

end HtmlTemplate
