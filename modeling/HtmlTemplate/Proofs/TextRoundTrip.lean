import HtmlTemplate.Proofs.Json.Reading
import HtmlTemplate.Proofs.RoundTrip

/-!
# `HtmlTemplate.Proofs.TextRoundTrip`: what comes back from JSON text

A value can travel as JSON text. The main theorem, `parse?_compact_toJson`,
says how far: up to a depth of 127 the text is read, and the value returns
in its normal form (`Value.norm`). From a depth of 128 on the text is
refused. It says so although it was written without complaint.

The depth of a value (`Value.jsonDepth`) counts the arrays and objects that
are open at once in its text. A sequence is one array. A template is an
object with an array in it, so it counts twice.

The text that is read gives the JSON form of the value, and not just data
with the same meaning. In particular its objects are sorted already: the
keys of a template are written in their order. So writing what was read
gives the same text again.
-/

set_option autoImplicit false

namespace HtmlTemplate

/-! ### The depth of a value -/

mutual

/-- How deep the JSON form of a value nests. -/
def Value.jsonDepth : Value → Nat
  | .empty => 0
  | .nested t => t.jsonDepthOfValues + 2
  | .sequence vs => Value.jsonDepthOfAll vs + 1
  | .scalar _ => 0

/-- The greatest depth among the values of a template. -/
def Template.jsonDepthOfValues : Template → Nat
  | .last _ => 0
  | .hole _ v rest => max v.jsonDepth rest.jsonDepthOfValues

/-- The greatest depth in a list. -/
def Value.jsonDepthOfAll : List Value → Nat
  | [] => 0
  | v :: vs => max v.jsonDepth (Value.jsonDepthOfAll vs)

end

namespace Json

/-- An array is one level above its items. -/
theorem depth_array (items : List Json) :
    (Json.array items).depth = Tree.depthAll (itemTrees items) + 1 := rfl

/-- Strings do not nest. -/
theorem depthAll_strings (fs : List String) :
    Tree.depthAll (itemTrees (fs.map Json.string)) = 0 := by
  induction fs with
  | nil => rfl
  | cons f fs ih =>
    show max 0 (Tree.depthAll (itemTrees (fs.map Json.string))) = 0
    rw [ih]
    rfl

/-- The array of values lies inside the object of the template. -/
theorem depth_ofParts (fs : List String) (values : List Json) :
    (Json.ofParts fs values).depth = Tree.depthAll (itemTrees values) + 2 := by
  show max 0 (max (Tree.depthAll (itemTrees (fs.map Json.string)) + 1)
    (max (Tree.depthAll (itemTrees values) + 1) 0)) + 1 = _
  rw [depthAll_strings]
  omega

end Json

/-- A scalar does not nest. -/
theorem Scalar.depth_toJson (s : Scalar) : s.toJson.depth = 0 := by
  rcases s.toJson_cases with h | ⟨b, h⟩ | ⟨n, h⟩ | ⟨text, h⟩ <;> rw [h] <;> rfl

-- The lists of JSON forms are written by two functions of their own.
mutual

/-- The text of the JSON form nests as deep as the value says. -/
theorem Value.depth_toJson : (v : Value) → v.toJson.depth = v.jsonDepth
  | .empty => rfl
  | .nested t => by
      rw [Value.toJson, Json.depth_ofParts, Template.depth_valuesToJson t, Value.jsonDepth]
  | .sequence vs => by
      rw [Value.toJson, Json.depth_array, Value.depth_toJsons vs, Value.jsonDepth]
  | .scalar s => s.depth_toJson

/-- The same for the values of a template. -/
theorem Template.depth_valuesToJson : (t : Template) →
    Json.Tree.depthAll (Json.itemTrees t.valuesToJson) = t.jsonDepthOfValues
  | .last _ => rfl
  | .hole _ v rest => by
      rw [Template.jsonDepthOfValues, ← Value.depth_toJson v, ← Template.depth_valuesToJson rest]
      rfl

/-- The same for the elements of a sequence. -/
theorem Value.depth_toJsons : (vs : List Value) →
    Json.Tree.depthAll (Json.itemTrees (Value.toJsons vs)) = Value.jsonDepthOfAll vs
  | [] => rfl
  | v :: vs => by
      rw [Value.jsonDepthOfAll, ← Value.depth_toJson v, ← Value.depth_toJsons vs]
      rfl

end

/-! ### The JSON form is sorted -/

/-- A scalar is written without an object. -/
theorem Scalar.isSorted_toJson (s : Scalar) : s.toJson.IsSorted := by
  rcases s.toJson_cases with h | ⟨b, h⟩ | ⟨n, h⟩ | ⟨text, h⟩ <;> rw [h]
  · exact .null
  · exact .bool b
  · exact .number n
  · exact .string text

/-- The keys of a template are written in their order. -/
theorem Json.isSorted_ofParts (fs : List String) {values : List Json}
    (h : ∀ j ∈ values, j.IsSorted) : (Json.ofParts fs values).IsSorted := by
  refine .object ?_ ?_
  · have hkeys : [markerKey, "fragments", "values"].Pairwise (· < ·) := by decide
    exact List.pairwise_map.mp hkeys
  · intro m hm
    simp only [List.mem_cons, List.not_mem_nil, or_false] at hm
    rcases hm with rfl | rfl | rfl
    · exact .string marker
    · refine .array fun j hj => ?_
      obtain ⟨f, -, rfl⟩ := List.mem_map.mp hj
      exact .string f
    · exact .array h

mutual

/-- The JSON form of a value is sorted at all its levels. -/
theorem Value.isSorted_toJson : (v : Value) → v.toJson.IsSorted
  | .empty => .null
  | .nested t => Json.isSorted_ofParts _ (Template.isSorted_valuesToJson t)
  | .sequence vs => .array (Value.isSorted_toJsons vs)
  | .scalar s => s.isSorted_toJson

/-- So are those of the values of a template. -/
theorem Template.isSorted_valuesToJson : (t : Template) → ∀ j ∈ t.valuesToJson, j.IsSorted
  | .last _, j, hj => nomatch hj
  | .hole _ v rest, j, hj => by
      rcases List.mem_cons.mp hj with rfl | hj
      · exact Value.isSorted_toJson v
      · exact Template.isSorted_valuesToJson rest j hj

/-- So are those of the elements of a sequence. -/
theorem Value.isSorted_toJsons : (vs : List Value) → ∀ j ∈ Value.toJsons vs, j.IsSorted
  | [], j, hj => nomatch hj
  | v :: vs, j, hj => by
      rcases List.mem_cons.mp hj with rfl | hj
      · exact Value.isSorted_toJson v
      · exact Value.isSorted_toJsons vs j hj

end

/-! ### The main theorem -/

/-- The compact text of a value whose depth is at most 127 is read as the
JSON form of the value. It gives the normal form of the value, and the
same text when it is written again. The text of a deeper value is
refused. -/
theorem parse?_compact_toJson (v : Value) :
    (v.jsonDepth ≤ 127 → ∃ j, Json.parse? v.toJson.compact = some j ∧
      Value.ofJson j = .ok v.norm ∧ j.compact = v.toJson.compact) ∧
    (128 ≤ v.jsonDepth → Json.parse? v.toJson.compact = none) := by
  have hparse := Json.parse?_compact v.isSorted_toJson
  rw [v.depth_toJson] at hparse
  have hmax : Json.maxDepth = 127 := rfl
  rw [hmax] at hparse
  constructor
  · intro h
    rw [if_pos h] at hparse
    exact ⟨v.toJson, hparse, v.ofJson_toJson_eq_norm, rfl⟩
  · intro h
    rw [if_neg (by omega)] at hparse
    exact hparse

/-- A value inside `n` templates, one inside the other. -/
def Value.inTemplates (v : Value) : Nat → Value
  | 0 => v
  | n + 1 => .nested (.literal "" [(v.inTemplates n, "")])

/-- Each template costs two levels. -/
theorem Value.jsonDepth_inTemplates (v : Value) (n : Nat) :
    (v.inTemplates n).jsonDepth = v.jsonDepth + 2 * n := by
  induction n with
  | zero => rfl
  | succ n ih =>
    show max (v.inTemplates n).jsonDepth 0 + 2 = _
    rw [ih]
    omega

/-- The templates around a value come back as they are. -/
theorem Value.norm_inTemplates (v : Value) (n : Nat) :
    (v.inTemplates n).norm = v.norm.inTemplates n := by
  induction n with
  | zero => rfl
  | succ n ih =>
    show Value.nested (.hole "" (v.inTemplates n).norm (.last "")) = _
    rw [ih]
    rfl

/-- A sequence inside 63 templates is the deepest value that comes back,
and nothing comes back from 64 templates. -/
theorem parse?_compact_toJson_limit :
    ((Value.sequence [.scalar (.char 'x')]).inTemplates 63).jsonDepth ≤ 127 ∧
    (∃ j, Json.parse? ((Value.sequence [.scalar (.char 'x')]).inTemplates 63).toJson.compact
        = some j ∧
      Value.ofJson j = .ok ((Value.sequence [.text "x"]).inTemplates 63) ∧
      j.compact = ((Value.sequence [.scalar (.char 'x')]).inTemplates 63).toJson.compact) ∧
    128 ≤ (Value.empty.inTemplates 64).jsonDepth ∧
    Json.parse? (Value.empty.inTemplates 64).toJson.compact = none := by
  have hfits : ((Value.sequence [.scalar (.char 'x')]).inTemplates 63).jsonDepth ≤ 127 := by
    rw [Value.jsonDepth_inTemplates]
    decide
  have hdeep : 128 ≤ (Value.empty.inTemplates 64).jsonDepth := by
    rw [Value.jsonDepth_inTemplates]
    decide
  have hread := (parse?_compact_toJson _).1 hfits
  rw [Value.norm_inTemplates] at hread
  exact ⟨hfits, hread, hdeep, (parse?_compact_toJson _).2 hdeep⟩

end HtmlTemplate
