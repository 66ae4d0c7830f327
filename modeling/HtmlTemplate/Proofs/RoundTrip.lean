import HtmlTemplate.Proofs.Decoding
import HtmlTemplate.Proofs.Leaves

/-!
# `HtmlTemplate.Proofs.RoundTrip`: what comes back from JSON data

JSON data has one kind of text, one kind of integer, and no number that
is not finite. So a value that goes to JSON data and back does not
return as it was, but as its normal form, `Value.norm`:

* a character returns as a text,
* an unsigned integer returns as a signed one if it fits,
* a number that is not finite returns as the absence of a value.

All else stays, templates and sequences with all their parts included.
The main theorem is `ofJson_toJson`: reading what was written always
succeeds and gives the normal form. The normal form is written the same
way as the value, so it is what two values with the same JSON form have
in common. As long as all numbers are finite, the HTML stays the same.

Writing and reading are two recursions over two types. The proofs follow
the one that writes, and `Template.ofMembers_eq_ok_iff` covers the
object in between.
-/

set_option autoImplicit false

namespace HtmlTemplate

/-- What a scalar is after the way to JSON data and back. -/
def Scalar.norm : Scalar → Value
  | .str text => .scalar (.str text)
  | .char c => .scalar (.str (String.singleton c))
  | .int i => .scalar (.int i)
  | .uint n =>
    if n.toNat < 0x8000000000000000 then .scalar (.int (Int64.ofNat n.toNat)) else .scalar (.uint n)
  | .float x => if x.isFinite then .scalar (.float x) else .empty
  | .bool b => .scalar (.bool b)

mutual

/-- What a value is after the way to JSON data and back. -/
def Value.norm : Value → Value
  | .empty => .empty
  | .nested t => .nested t.norm
  | .sequence vs => .sequence (Value.norms vs)
  | .scalar s => s.norm

/-- What a template is after this way. The fragments stay. -/
def Template.norm : Template → Template
  | .last f => .last f
  | .hole f v rest => .hole f v.norm rest.norm

/-- What the elements of a sequence are after it. -/
def Value.norms : List Value → List Value
  | [] => []
  | v :: vs => v.norm :: Value.norms vs

end

/-! ### Reading what was written

Reading gives the normal form. The three statements for values follow the
functions that write, and the one for scalars is their base case.
-/

/-- A scalar comes back as its normal form, one case for each kind. -/
theorem Scalar.ofJson_toJson_eq_norm (s : Scalar) : Value.ofJson s.toJson = .ok s.norm := by
  cases s with
  | str text => rfl
  | char c => rfl
  | bool b => rfl
  | int i =>
    have hlt : i.toInt < 0x8000000000000000 := i.toInt_lt
    simp only [Scalar.toJson, Value.ofJson, Scalar.ofNumber, Scalar.norm]
    rw [if_pos hlt, Int64.ofInt_toInt]
  | uint n =>
    simp only [Scalar.toJson, Value.ofJson, Scalar.ofNumber, Scalar.norm]
    -- The number is written as it is, and its size decides how it is read.
    by_cases h : n.toNat < 0x8000000000000000
    · have hint : (n.toNat : Int) < 0x8000000000000000 := by omega
      rw [if_pos hint, if_pos h, Int64.ofInt_eq_ofNat]
    · have hint : ¬ (n.toNat : Int) < 0x8000000000000000 := by omega
      rw [if_neg hint, if_neg h, Int.toNat_natCast, UInt64.ofNat_toNat]
  | float x =>
    -- There is a number to write only for a finite `x`.
    simp only [Scalar.toJson, Json.Number.ofBinary?, Scalar.norm]
    by_cases h : x.isFinite = true
    · rw [dif_pos h, if_pos h]
      rfl
    · rw [dif_neg h, if_neg h]
      rfl

/-- A template keeps its fragments on the way. -/
theorem Template.fragments_norm (t : Template) : t.norm.fragments = t.fragments := by
  cases t with
  | last f => rfl
  | hole f v rest =>
    rw [Template.norm, Template.fragments, Template.fragments, Template.fragments_norm rest]

/-- The object that a template is written as has the marker, so reading
it depends on its values alone. They make a template again if they are
as many as before. -/
theorem Value.ofJson_ofParts {t : Template} {values : List Json}
    (h : Value.ofJsons values = .ok t.values) :
    Value.ofJson (Json.ofParts t.fragments values) = .ok (.nested t) := by
  have hmarked : ∀ rest, Json.hasMarker ((markerKey, .string marker) :: rest) = true := by
    intro rest
    simp [Json.hasMarker, Json.member?]
  have hparts : Template.ofMembers
      [(markerKey, .string marker), ("fragments", .array (t.fragments.map .string)),
        ("values", .array values)] (.ok t.values) = .ok t :=
    Template.ofMembers_eq_ok_iff.mpr ⟨rfl, rfl, rfl⟩
  -- The three keys differ, so the search for `values` finds the array.
  rw [Json.ofParts, Value.ofJson_marked (hmarked _)]
  show (Template.ofMembers _ (Value.ofJsons values)).map Value.nested = _
  rw [h, hparts]
  rfl

mutual

/-- A value comes back as its normal form. -/
theorem Value.ofJson_toJson_eq_norm : (v : Value) → Value.ofJson v.toJson = .ok v.norm
  | .empty => rfl
  | .nested t => by
      rw [Value.toJson, ← t.fragments_norm, Value.norm]
      exact Value.ofJson_ofParts (Template.ofJsons_valuesToJson t)
  | .sequence vs => by
      rw [Value.toJson, Value.ofJson, Value.ofJsons_toJsons vs]
      rfl
  | .scalar s => s.ofJson_toJson_eq_norm

/-- So do the values of a template. -/
theorem Template.ofJsons_valuesToJson :
    (t : Template) → Value.ofJsons t.valuesToJson = .ok t.norm.values
  | .last _ => rfl
  | .hole f v rest => by
      rw [Template.valuesToJson, Value.ofJsons, Value.ofJson_toJson_eq_norm v,
        Template.ofJsons_valuesToJson rest]
      rfl

/-- So do the elements of a sequence. -/
theorem Value.ofJsons_toJsons :
    (vs : List Value) → Value.ofJsons (Value.toJsons vs) = .ok (Value.norms vs)
  | [] => rfl
  | v :: vs => by
      rw [Value.toJsons, Value.ofJsons, Value.ofJson_toJson_eq_norm v, Value.ofJsons_toJsons vs]
      rfl

end

/-- A scalar is written without arrays and objects. -/
theorem Scalar.toJson_cases (s : Scalar) :
    s.toJson = .null ∨ (∃ b, s.toJson = .bool b) ∨ (∃ n, s.toJson = .number n) ∨
      ∃ text, s.toJson = .string text := by
  cases s with
  | str text => exact Or.inr (Or.inr (Or.inr ⟨_, rfl⟩))
  | char c => exact Or.inr (Or.inr (Or.inr ⟨_, rfl⟩))
  | int i => exact Or.inr (Or.inr (Or.inl ⟨_, rfl⟩))
  | uint n => exact Or.inr (Or.inr (Or.inl ⟨_, rfl⟩))
  | bool b => exact Or.inr (Or.inl ⟨_, rfl⟩)
  | float x =>
    simp only [Scalar.toJson]
    cases Json.Number.ofBinary? x with
    | none => exact Or.inl rfl
    | some n => exact Or.inr (Or.inr (Or.inl ⟨n, rfl⟩))

/-! ### Writing the normal form

The normal form is written as the value is.
-/

/-- A scalar is written like its normal form. -/
theorem Scalar.toJson_norm (s : Scalar) : s.norm.toJson = s.toJson := by
  cases s with
  | str text => rfl
  | char c => rfl
  | int i => rfl
  | bool b => rfl
  | uint n =>
    simp only [Scalar.norm]
    by_cases h : n.toNat < 0x8000000000000000
    · -- It is a signed integer now, with the same number.
      rw [if_pos h]
      have hint : (Int64.ofNat n.toNat).toInt = n.toNat := Int64.toInt_ofNat_of_lt h
      simp [Value.toJson, Scalar.toJson, hint]
    · rw [if_neg h]
      rfl
  | float x =>
    simp only [Scalar.norm]
    by_cases h : x.isFinite = true
    · rw [if_pos h]
      rfl
    · -- There is no number for it, so nothing is written either way.
      rw [if_neg h]
      simp [Value.toJson, Scalar.toJson, Json.Number.ofBinary?, h]

mutual

/-- So is a value. -/
theorem Value.toJson_norm : (v : Value) → v.norm.toJson = v.toJson
  | .empty => rfl
  | .nested t => by
      rw [Value.norm, Value.toJson, Value.toJson, Template.fragments_norm,
        Template.valuesToJson_norm t]
  | .sequence vs => by
      rw [Value.norm, Value.toJson, Value.toJson, Value.toJsons_norms vs]
  | .scalar s => s.toJson_norm

/-- So are the values of a template. -/
theorem Template.valuesToJson_norm : (t : Template) → t.norm.valuesToJson = t.valuesToJson
  | .last _ => rfl
  | .hole f v rest => by
      rw [Template.norm, Template.valuesToJson, Template.valuesToJson, Value.toJson_norm v,
        Template.valuesToJson_norm rest]

/-- So are the elements of a sequence. -/
theorem Value.toJsons_norms : (vs : List Value) → Value.toJsons (Value.norms vs) = Value.toJsons vs
  | [] => rfl
  | v :: vs => by
      rw [Value.norms, Value.toJsons, Value.toJsons, Value.toJson_norm v, Value.toJsons_norms vs]

end

/-- Two values have the same JSON form exactly when their normal forms
are the same. -/
theorem toJson_eq_iff (v w : Value) : v.toJson = w.toJson ↔ v.norm = w.norm := by
  constructor
  · -- What is read is the normal form of each of the two.
    intro h
    have hv := v.ofJson_toJson_eq_norm
    rw [h, w.ofJson_toJson_eq_norm] at hv
    exact (Except.ok.inj hv).symm
  · intro h
    rw [← v.toJson_norm, h, w.toJson_norm]

/-! ### The HTML of the normal form

The normal form has the HTML of the value if all numbers are finite. A
number that is not finite has a text of its own, but its normal form has
none.
-/

/-- All floating-point numbers among some leaves are finite. -/
def AllFinite (ls : List Leaf) : Prop :=
  ∀ x : Binary64, Leaf.scalar (.float x) ∈ ls → x.isFinite = true

/-- Leaves can be looked at part by part. -/
theorem allFinite_append {ls ms : List Leaf} :
    AllFinite (ls ++ ms) ↔ AllFinite ls ∧ AllFinite ms := by
  constructor
  · intro h
    exact ⟨fun x hx => h x (List.mem_append_left ms hx),
      fun x hx => h x (List.mem_append_right ls hx)⟩
  · rintro ⟨hls, hms⟩ x hx
    rcases List.mem_append.mp hx with hx | hx
    · exact hls x hx
    · exact hms x hx

/-- The normal form of a scalar has the HTML of the scalar, unless the
scalar is a number that is not finite. -/
theorem Scalar.stringify_norm (s : Scalar) (h : AllFinite [.scalar s]) :
    s.norm.stringify = escape s.canonical := by
  cases s with
  | str text => simp [Scalar.norm]
  | char c => simp [Scalar.norm, Scalar.canonical]
  | int i => simp [Scalar.norm]
  | bool b => simp [Scalar.norm]
  | uint n =>
    simp only [Scalar.norm]
    by_cases hn : n.toNat < 0x8000000000000000
    · rw [if_pos hn]
      have hint : (Int64.ofNat n.toNat).toInt = n.toNat := Int64.toInt_ofNat_of_lt hn
      rw [Value.stringify_scalar, Scalar.canonical, Scalar.canonical, hint]
    · rw [if_neg hn]
      simp
  | float x =>
    -- This is where the hypothesis is needed.
    have hx : x.isFinite = true := h x (List.mem_singleton.mpr rfl)
    simp [Scalar.norm, hx]

mutual

/-- The normal form of a value has the HTML of the value. -/
theorem Value.stringify_norm : (v : Value) → AllFinite v.leaves → v.norm.stringify = v.stringify
  | .empty, _ => rfl
  | .nested t, h => by
      rw [Value.norm, Value.stringify_nested, Value.stringify_nested]
      exact Template.serialize_norm t h
  | .sequence vs, h => Value.stringify_norms vs h
  | .scalar s, h => by
      rw [Value.norm, Value.stringify_scalar]
      exact s.stringify_norm h

/-- That of a template has the HTML of the template. -/
theorem Template.serialize_norm :
    (t : Template) → AllFinite t.leaves → t.norm.serialize = t.serialize
  | .last _, _ => rfl
  | .hole f v rest, h => by
      -- The leaves are the fragment, those of `v` and those of `rest`.
      have hparts : AllFinite v.leaves ∧ AllFinite rest.leaves :=
        allFinite_append.mp fun x hx => h x (List.mem_cons_of_mem _ hx)
      rw [Template.norm, Template.serialize_hole, Template.serialize_hole,
        Value.stringify_norm v hparts.1, Template.serialize_norm rest hparts.2]

/-- Those of the elements have the HTML of the sequence. -/
theorem Value.stringify_norms :
    (vs : List Value) → AllFinite (Value.leavesAll vs) →
      (Value.sequence (Value.norms vs)).stringify = (Value.sequence vs).stringify
  | [], _ => rfl
  | v :: vs, h => by
      have hparts : AllFinite v.leaves ∧ AllFinite (Value.leavesAll vs) := allFinite_append.mp h
      rw [Value.norms, Value.stringify_sequence_cons, Value.stringify_sequence_cons,
        Value.stringify_norm v hparts.1, Value.stringify_norms vs hparts.2]

end

/-! ### The main theorem -/

/-- Reading the JSON form of a value succeeds and gives the normal form
of the value. A scalar returns as a scalar or as nothing, so no text
becomes a template. The normal form has the same JSON form, and decides
which values share theirs. If all numbers are finite, it has the same
HTML. -/
theorem ofJson_toJson (v : Value) :
    Value.ofJson v.toJson = .ok v.norm ∧
    (∀ s : Scalar, Value.ofJson s.toJson = .ok .empty ∨
      ∃ s', Value.ofJson s.toJson = .ok (.scalar s')) ∧
    v.norm.toJson = v.toJson ∧
    (∀ w : Value, v.toJson = w.toJson ↔ v.norm = w.norm) ∧
    (AllFinite v.leaves → v.norm.stringify = v.stringify) := by
  refine ⟨v.ofJson_toJson_eq_norm, ?_, v.toJson_norm, toJson_eq_iff v, v.stringify_norm⟩
  -- The normal form of a scalar is a scalar, except for a number that is not finite.
  intro s
  rw [s.ofJson_toJson_eq_norm]
  cases s with
  | uint n =>
    right
    simp only [Scalar.norm]
    split
    · exact ⟨_, rfl⟩
    · exact ⟨_, rfl⟩
  | float x =>
    simp only [Scalar.norm]
    split
    · exact Or.inr ⟨_, rfl⟩
    · exact Or.inl rfl
  | str text => exact Or.inr ⟨_, rfl⟩
  | char c => exact Or.inr ⟨_, rfl⟩
  | int i => exact Or.inr ⟨_, rfl⟩
  | bool b => exact Or.inr ⟨_, rfl⟩

/-- A character, a small unsigned integer and a negative zero. The first
two return as other scalars, and the HTML is the same. -/
theorem ofJson_toJson_lossy :
    AllFinite (Value.sequence [.scalar (.char 'x'), .scalar (.uint 7),
      .scalar (.float (.ofMagnitude true 0))]).leaves ∧
    Value.ofJson (Value.sequence [.scalar (.char 'x'), .scalar (.uint 7),
        .scalar (.float (.ofMagnitude true 0))]).toJson
      = .ok (.sequence [.text "x", .scalar (.int 7), .scalar (.float (.ofMagnitude true 0))]) ∧
    (Value.sequence [.text "x", .scalar (.int 7),
        .scalar (.float (.ofMagnitude true 0))]).stringify
      = (Value.sequence [.scalar (.char 'x'), .scalar (.uint 7),
        .scalar (.float (.ofMagnitude true 0))]).stringify := by
  have hfinite : AllFinite (Value.sequence [.scalar (.char 'x'), .scalar (.uint 7),
      .scalar (.float (.ofMagnitude true 0))]).leaves := by
    intro x hx
    simp [Value.leaves, Value.leavesAll] at hx
    rw [hx]
    decide
  exact ⟨hfinite, (ofJson_toJson _).1, (ofJson_toJson _).2.2.2.2 hfinite⟩

end HtmlTemplate
