import HtmlTemplate.Proofs.Reachable
import HtmlTemplate.Proofs.RoundTrip

/-!
# `HtmlTemplate.Proofs.Stability`: the values that JSON data stands for

Not every value can be read from JSON data. One that can is stable
(`Value.IsStable`): at no depth does it contain a character, an unsigned
integer that fits a signed one, or a number that is not finite, and all
its templates are well shaped. Nothing else is true of these values in
general, because each stable value is read from its own JSON form.

So the stable values are the fixed points of the way to JSON data and
back. The data that they were read from may have been another one: with
more members in a marked object, without the member for the values, or
with an object that has become its text. What claims to be a template is
one afterwards, and claims to be one again when it is written.
-/

set_option autoImplicit false

namespace HtmlTemplate

/-! ### The parts of a value -/

/-- The value `v` is `w` or contains it at some depth. -/
inductive Value.Contains : Value → Value → Prop where
  | refl (v : Value) : Contains v v
  | item {vs : List Value} {v w : Value} (hv : v ∈ vs) (hw : Contains v w) :
      Contains (.sequence vs) w
  | hole {t : Template} {v w : Value} (hv : v ∈ t.values) (hw : Contains v w) :
      Contains (.nested t) w

/-- Whether JSON data can stand for a value, as far as the value decides
this apart from what it contains. -/
def Value.IsAdmissible : Value → Prop
  | .scalar (.char _) => False
  | .scalar (.uint n) => 0x8000000000000000 ≤ n.toNat
  | .scalar (.float x) => x.isFinite = true
  | .nested t => t.fragments.length = t.values.length + 1
  | _ => True

/-- All parts of a value are admissible, and the value itself is. -/
def Value.IsStable (v : Value) : Prop := ∀ w, v.Contains w → w.IsAdmissible

/-- A scalar contains nothing but itself. -/
theorem Value.isStable_scalar_iff {s : Scalar} :
    (Value.scalar s).IsStable ↔ (Value.scalar s).IsAdmissible := by
  constructor
  · intro h
    exact h _ (.refl _)
  · intro h w hw
    cases hw
    exact h

/-- A sequence is stable if its items are. -/
theorem Value.isStable_sequence_iff {vs : List Value} :
    (Value.sequence vs).IsStable ↔ ∀ v ∈ vs, v.IsStable := by
  constructor
  · intro h v hv w hw
    exact h w (.item hv hw)
  · intro h w hw
    cases hw with
    | refl => trivial
    | item hv hw => exact h _ hv w hw

/-- A template is stable if its values are. It is well shaped anyway. -/
theorem Value.isStable_nested_iff {t : Template} :
    (Value.nested t).IsStable ↔ ∀ v ∈ t.values, v.IsStable := by
  constructor
  · intro h v hv w hw
    exact h w (.hole hv hw)
  · intro h w hw
    cases hw with
    | refl => exact t.length_fragments
    | hole hv hw => exact h _ hv w hw

/-! ### Stable values are in normal form -/

/-- Of the three kinds of scalars that change on the way, none is
admissible. -/
theorem Scalar.norm_of_isAdmissible {s : Scalar} (h : (Value.scalar s).IsAdmissible) :
    s.norm = .scalar s := by
  cases s with
  | str text => rfl
  | int i => rfl
  | bool b => rfl
  | char c => cases h
  | uint n =>
    have hlarge : 0x8000000000000000 ≤ n.toNat := h
    rw [Scalar.norm, if_neg (Nat.not_lt.mpr hlarge)]
  | float x =>
    have hfinite : x.isFinite = true := h
    rw [Scalar.norm, if_pos hfinite]

mutual

/-- The way to JSON data and back leaves a stable value as it is. -/
theorem Value.norm_of_isStable : (v : Value) → v.IsStable → v.norm = v
  | .empty, _ => rfl
  | .nested t, h => by
      rw [Value.norm, Template.norm_of_isStable t (Value.isStable_nested_iff.mp h)]
  | .sequence vs, h => by
      rw [Value.norm, Value.norms_of_isStable vs (Value.isStable_sequence_iff.mp h)]
  | .scalar s, h => s.norm_of_isAdmissible (Value.isStable_scalar_iff.mp h)

/-- So it leaves a template with stable values. -/
theorem Template.norm_of_isStable :
    (t : Template) → (∀ v ∈ t.values, v.IsStable) → t.norm = t
  | .last _, _ => rfl
  | .hole f v rest, h => by
      obtain ⟨hv, hrest⟩ := List.forall_mem_cons.mp h
      rw [Template.norm, Value.norm_of_isStable v hv, Template.norm_of_isStable rest hrest]

/-- So it leaves stable values in a row. -/
theorem Value.norms_of_isStable :
    (vs : List Value) → (∀ v ∈ vs, v.IsStable) → Value.norms vs = vs
  | [], _ => rfl
  | v :: vs, h => by
      obtain ⟨hv, hvs⟩ := List.forall_mem_cons.mp h
      rw [Value.norms, Value.norm_of_isStable v hv, Value.norms_of_isStable vs hvs]

end

/-! ### What is read is stable -/

/-- An integer is read as an unsigned one only if it is too large for a
signed one. -/
theorem Scalar.isAdmissible_ofNumber (n : Json.Number) :
    (Value.scalar (.ofNumber n)).IsAdmissible := by
  cases n with
  | float x hfinite => exact hfinite
  | integer i hleast hmost =>
    rw [Scalar.ofNumber]
    by_cases h : i < 0x8000000000000000
    · rw [if_pos h]
      trivial
    · rw [if_neg h]
      -- The integer fits 64 bits, so it is not cut off.
      have hfits : i.toNat < 2 ^ 64 := by omega
      show 0x8000000000000000 ≤ (UInt64.ofNat i.toNat).toNat
      rw [UInt64.toNat_ofNat_of_lt' hfits]
      omega

/-- Each value of a list that is read comes from one piece of the data. -/
theorem Value.exists_of_mem_ofJsons {js : List Json} {vs : List Value} {v : Value}
    (h : Value.ofJsons js = .ok vs) (hv : v ∈ vs) : ∃ j ∈ js, Value.ofJson j = .ok v := by
  induction js generalizing vs with
  | nil =>
    cases h
    cases hv
  | cons j js ih =>
    rw [Value.ofJsons] at h
    obtain ⟨w, hw, h⟩ := bind_eq_ok_iff.mp h
    obtain ⟨ws, hws, h⟩ := bind_eq_ok_iff.mp h
    cases h
    rcases List.mem_cons.mp hv with rfl | hv
    · exact ⟨j, List.mem_cons_self, hw⟩
    · obtain ⟨k, hk, hread⟩ := ih hws hv
      exact ⟨k, List.mem_cons_of_mem j hk, hread⟩

/-- A value that is read from JSON data is stable. -/
theorem Value.isStable_of_ofJson {j : Json} {v : Value} (h : Value.ofJson j = .ok v) :
    v.IsStable := by
  induction j using Json.readInduction generalizing v with
  | null =>
    cases h
    intro w hw
    cases hw
    trivial
  | bool b =>
    cases h
    exact Value.isStable_scalar_iff.mpr trivial
  | number n =>
    cases h
    exact Value.isStable_scalar_iff.mpr (Scalar.isAdmissible_ofNumber n)
  | string s =>
    cases h
    exact Value.isStable_scalar_iff.mpr trivial
  | array items ih =>
    rw [Value.ofJson] at h
    obtain ⟨vs, hvs, rfl⟩ := map_eq_ok_iff.mp h
    refine Value.isStable_sequence_iff.mpr fun v hv => ?_
    obtain ⟨j, hj, hread⟩ := Value.exists_of_mem_ofJsons hvs hv
    exact ih j hj hread
  | object members ih =>
    cases hmarked : Json.hasMarker members with
    | false =>
      -- The object became its own text.
      rw [Value.ofJson, hmarked] at h
      cases h
      exact Value.isStable_scalar_iff.mpr trivial
    | true =>
      rw [Value.ofJson_marked hmarked] at h
      obtain ⟨t, ht, rfl⟩ := map_eq_ok_iff.mp h
      -- The values of the template are those that were read.
      obtain ⟨-, -, hvs⟩ := Template.ofMembers_eq_ok_iff.mp ht
      refine Value.isStable_nested_iff.mpr fun v hv => ?_
      obtain ⟨j, hj, hread⟩ := Value.exists_of_mem_ofJsons hvs hv
      exact ih j hj hread

/-- A stable value is read from its own JSON form. -/
theorem Value.ofJson_toJson_of_isStable {v : Value} (h : v.IsStable) :
    Value.ofJson v.toJson = .ok v := by
  have hnorm := v.ofJson_toJson_eq_norm
  rw [v.norm_of_isStable h] at hnorm
  exact hnorm

/-! ### The main theorem -/

/-- The stable values are exactly those that are read from some JSON
data. Such a value is read again from its own JSON form. It is a template
exactly if the data claims to be one, and so does its JSON form. -/
theorem isStable_iff_ofJson (v : Value) :
    (v.IsStable ↔ ∃ j, Value.ofJson j = .ok v) ∧
    ∀ j, Value.ofJson j = .ok v →
      Value.ofJson v.toJson = .ok v ∧
      v.isTemplate = j.isTemplate ∧ j.isTemplate = v.toJson.isTemplate := by
  constructor
  · constructor
    · intro h
      exact ⟨v.toJson, Value.ofJson_toJson_of_isStable h⟩
    · rintro ⟨j, hj⟩
      exact Value.isStable_of_ofJson hj
  · intro j hj
    have hagain := Value.ofJson_toJson_of_isStable (Value.isStable_of_ofJson hj)
    have hdata : v.isTemplate = j.isTemplate := Value.isTemplate_of_ofJson hj
    exact ⟨hagain, hdata, hdata.symm.trans (Value.isTemplate_of_ofJson hagain)⟩

/-- A marked object with one member too many and one too few, and the
least integer that is read as an unsigned one. -/
theorem isStable_iff_ofJson_template :
    (Value.sequence [.nested (.last "<hr>"), .scalar (.uint 0x8000000000000000)]).IsStable ∧
    Value.ofJson (Value.sequence
        [.nested (.last "<hr>"), .scalar (.uint 0x8000000000000000)]).toJson
      = .ok (.sequence [.nested (.last "<hr>"), .scalar (.uint 0x8000000000000000)]) := by
  have hread : Value.ofJson (.array [.object [(markerKey, .string marker),
        ("fragments", .array [.string "<hr>"]), ("title", .null)],
        .number (.integer 0x8000000000000000 (by decide) (by decide))])
      = .ok (.sequence [.nested (.last "<hr>"), .scalar (.uint 0x8000000000000000)]) := rfl
  obtain ⟨hstable, hagain⟩ := isStable_iff_ofJson
    (.sequence [.nested (.last "<hr>"), .scalar (.uint 0x8000000000000000)])
  exact ⟨hstable.mpr ⟨_, hread⟩, (hagain _ hread).1⟩

end HtmlTemplate
