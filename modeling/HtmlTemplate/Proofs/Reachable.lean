import HtmlTemplate.Proofs.Decoding

/-!
# `HtmlTemplate.Proofs.Reachable`: the parts of JSON data that are read

Reading a value looks into arrays and into the values of marked objects,
and nowhere else. `Json.Reaches` is this relation between data and its
parts. What an object without the marker holds, and what stands under
other keys of a marked object, is out of reach. `Json.readInduction` is
the induction that goes with it, since the recursion of the data also
goes into all members of an object.

`Value.ofJson_isOk` gives the condition under which reading succeeds: it
is enough that each marked object within reach is well formed. A marked
object is well formed (`Json.IsWellFormed`) when its fragments are
strings, its values are an array or absent, and it has one more fragment
than values.
-/

set_option autoImplicit false

namespace HtmlTemplate

namespace Json

/-- Reading `j` comes to the data `k` inside it. -/
inductive Reaches : Json → Json → Prop where
  | refl (j : Json) : Reaches j j
  | item {items : List Json} {j k : Json} (hj : j ∈ items) (hk : Reaches j k) :
      Reaches (.array items) k
  | value {members : List (String × Json)} {j k : Json} (hmarked : hasMarker members = true)
      (hj : j ∈ valuesOf members) (hk : Reaches j k) : Reaches (.object members) k

/-- What a key stands for is smaller than the object. -/
theorem sizeOf_lt_of_member? {key : String} {members : List (String × Json)} {j : Json}
    (h : member? key members = some j) : sizeOf j < sizeOf members := by
  induction members with
  | nil => cases h
  | cons m ms ih =>
    obtain ⟨k, i⟩ := m
    have hcons : sizeOf ((k, i) :: ms) = 1 + (1 + sizeOf k + sizeOf i) + sizeOf ms := rfl
    unfold member? at h
    -- The first member has the key, or the search goes on behind it.
    by_cases hk : k = key
    · rw [if_pos hk] at h
      cases h
      omega
    · rw [if_neg hk] at h
      have hrest := ih h
      omega

/-- So is each of its values. -/
theorem sizeOf_lt_of_mem_valuesOf {members : List (String × Json)} {j : Json}
    (h : j ∈ valuesOf members) : sizeOf j < sizeOf members := by
  unfold valuesOf at h
  split at h
  case h_1 items hitems =>
    have hlt := sizeOf_lt_of_member? hitems
    have hmem := List.sizeOf_lt_of_mem h
    have harray := Json.array.sizeOf_spec items
    omega
  case h_2 => cases h

/-- Induction over the data that reading can come to: the items of an
array, and the values of an object. -/
@[elab_as_elim]
theorem readInduction {P : Json → Prop} (null : P .null) (bool : ∀ b, P (.bool b))
    (number : ∀ n, P (.number n)) (string : ∀ s, P (.string s))
    (array : ∀ items, (∀ j ∈ items, P j) → P (.array items))
    (object : ∀ members, (∀ j ∈ valuesOf members, P j) → P (.object members)) : ∀ j, P j
  | .null => null
  | .bool b => bool b
  | .number n => number n
  | .string s => string s
  | .array items => array items fun j hj => by
      -- `hlt` is for the termination proof.
      have hlt := List.sizeOf_lt_of_mem hj
      exact readInduction null bool number string array object j
  | .object members => object members fun j hj => by
      have hlt := sizeOf_lt_of_mem_valuesOf hj
      exact readInduction null bool number string array object j
termination_by j => sizeOf j
decreasing_by
  · rw [Json.array.sizeOf_spec]
    omega
  · rw [Json.object.sizeOf_spec]
    omega

/-- The members of a marked object make up a template, as far as they
themselves decide this. -/
structure IsWellFormed (members : List (String × Json)) : Prop where
  /-- The fragments are strings, and there is one more of them than
  there are values. -/
  fragments : ∃ fs : List String, member? "fragments" members = some (.array (fs.map .string)) ∧
    fs.length = (valuesOf members).length + 1
  values : checkValues members = .ok ()

end Json

/-- Two lists whose lengths fit make a template. -/
theorem Template.exists_of_length {fs : List String} {vs : List Value}
    (h : fs.length = vs.length + 1) : ∃ t : Template, t.fragments = fs ∧ t.values = vs := by
  induction vs generalizing fs with
  | nil =>
    obtain ⟨f, rfl⟩ := List.length_eq_one_iff.mp h
    exact ⟨.last f, rfl, rfl⟩
  | cons v vs ih =>
    cases fs with
    | nil => cases h
    | cons f fs =>
      -- The first fragment and value go in front of a template of the others.
      obtain ⟨rest, hfs, hvs⟩ := ih (Nat.succ.inj h)
      exact ⟨.hole f v rest, congrArg (f :: ·) hfs, congrArg (v :: ·) hvs⟩

/-- There is a value for each piece of data. -/
theorem Value.length_of_ofJsons {js : List Json} {vs : List Value}
    (h : Value.ofJsons js = .ok vs) : vs.length = js.length := by
  induction js generalizing vs with
  | nil =>
    cases h
    rfl
  | cons j js ih =>
    rw [Value.ofJsons] at h
    obtain ⟨v, -, h⟩ := bind_eq_ok_iff.mp h
    obtain ⟨ws, hws, h⟩ := bind_eq_ok_iff.mp h
    cases h
    exact congrArg Nat.succ (ih hws)

/-- A well-formed marked object makes a template if its values are
read. -/
theorem Template.ofMembers_isOk {members : List (String × Json)} {vs : List Value}
    (hwf : Json.IsWellFormed members) (hvs : Value.ofJsons (Json.valuesOf members) = .ok vs) :
    ∃ t, Template.ofMembers members (.ok vs) = .ok t := by
  obtain ⟨fs, hfs, hlen⟩ := hwf.fragments
  rw [← Value.length_of_ofJsons hvs] at hlen
  obtain ⟨t, rfl, rfl⟩ := Template.exists_of_length hlen
  exact ⟨t, Template.ofMembers_eq_ok_iff.mpr ⟨hfs, hwf.values, rfl⟩⟩

/-- A list is read if each piece of it is. -/
theorem Value.ofJsons_isOk {js : List Json} (h : ∀ j ∈ js, ∃ v, Value.ofJson j = .ok v) :
    ∃ vs, Value.ofJsons js = .ok vs := by
  induction js with
  | nil => exact ⟨[], rfl⟩
  | cons j js ih =>
    obtain ⟨v, hv⟩ := h j List.mem_cons_self
    obtain ⟨vs, hvs⟩ := ih fun k hk => h k (List.mem_cons_of_mem j hk)
    refine ⟨v :: vs, ?_⟩
    rw [Value.ofJsons, hv, hvs]
    rfl

/-- Reading succeeds if every marked object within reach is well
formed. -/
theorem Value.ofJson_isOk (j : Json)
    (h : ∀ members, j.Reaches (.object members) → Json.hasMarker members = true →
      Json.IsWellFormed members) : ∃ v, Value.ofJson j = .ok v := by
  induction j using Json.readInduction with
  | null => exact ⟨_, rfl⟩
  | bool b => exact ⟨_, rfl⟩
  | number n => exact ⟨_, rfl⟩
  | string s => exact ⟨_, rfl⟩
  | array items ih =>
    obtain ⟨vs, hvs⟩ := Value.ofJsons_isOk fun j hj =>
      ih j hj fun members hreach => h members (.item hj hreach)
    refine ⟨.sequence vs, ?_⟩
    rw [Value.ofJson, hvs]
    rfl
  | object members ih =>
    cases hmarked : Json.hasMarker members with
    | false =>
      -- No marker, no conditions: the object becomes its text.
      refine ⟨.text (Json.object members).compact, ?_⟩
      rw [Value.ofJson, hmarked]
      rfl
    | true =>
      obtain ⟨vs, hvs⟩ := Value.ofJsons_isOk fun j hj =>
        ih j hj fun inner hreach => h inner (.value hmarked hj hreach)
      obtain ⟨t, ht⟩ := Template.ofMembers_isOk (h members (.refl _) hmarked) hvs
      refine ⟨.nested t, ?_⟩
      rw [Value.ofJson_marked hmarked, hvs, ht]
      rfl

end HtmlTemplate
