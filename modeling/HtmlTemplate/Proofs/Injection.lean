import HtmlTemplate.Proofs.Leaves

/-!
# `HtmlTemplate.Proofs.Injection`: only static text makes markup

The static text of a template is all of its fragments in document
order, those of nested templates included. The main theorem,
`markup_serialize`, compares the HTML of a template with it.

* The markup characters of the HTML are those of the static text, in the
  same order and the same number. Dynamic data adds none and drops none.
* An `&` of the HTML that is not in a fragment begins an entity.
* Two templates with one `skeleton`, that is templates that differ in
  their scalars only, have the same markup characters in their HTML.

All three are facts about lists of leaves (`Proofs/Leaves.lean`), so the
nesting of templates and sequences plays no part in the proofs. Only
`skeleton` looks at the tree again.
-/

set_option autoImplicit false

namespace HtmlTemplate

/-! ### The static text -/

/-- The fragments of a value in document order, at any depth. -/
def Value.staticFragments (v : Value) : List String := staticOf v.leaves

/-- The fragments of a template and of all templates inside it, in
document order. -/
def Template.staticFragments (t : Template) : List String := staticOf t.leaves

/-- The static text of a template. -/
def Template.staticText (t : Template) : String := String.join t.staticFragments

/-- The markup of the HTML of some leaves is the markup of the fragments
among them. A fragment keeps its markup and a scalar has none. -/
theorem markup_htmlOf (ls : List Leaf) :
    markup (htmlOf ls) = markup (String.join (staticOf ls)) := by
  induction ls with
  | nil => rfl
  | cons l ls ih =>
    rw [htmlOf_cons, markup_append, ih]
    cases l with
    | fragment text => simp [Leaf.html]
    | scalar s =>
      -- The escaper leaves no markup character.
      simp [Leaf.html]

/-! ### Positions in fragments -/

/-- Whether a leaf is static text. -/
def Leaf.isFragment (l : Leaf) : Bool := l.fragment?.isSome

/-- Whether the character at position `i` in the HTML of some leaves
belongs to a fragment. -/
def inFragment : List Leaf → Nat → Bool
  | [], _ => false
  | l :: ls, i =>
    if i < l.html.toList.length then l.isFragment else inFragment ls (i - l.html.toList.length)

/-- Inside one leaf, an `&` is in a fragment or begins an entity. -/
theorem ampersandsBeginEntities_html (l : Leaf) :
    AmpersandsBeginEntities (fun _ => l.isFragment) l.html.toList := by
  intro before after h
  cases l with
  | fragment text => exact Or.inl rfl
  | scalar s => exact ampersandsBeginEntities_escape s.canonical before after h

/-- In the HTML of some leaves, an `&` outside of the fragments begins
an entity. -/
theorem ampersandsBeginEntities_htmlOf (ls : List Leaf) :
    AmpersandsBeginEntities (inFragment ls) (htmlOf ls).toList := by
  induction ls with
  | nil =>
    intro before after h
    simp at h
  | cons l ls ih =>
    rw [htmlOf_cons, String.toList_append]
    refine (ampersandsBeginEntities_html l).append ih ?_ ?_
    · -- A position in the first leaf.
      intro i hi hex
      rw [inFragment, if_pos hi]
      exact hex
    · -- A position after it, counted from the second leaf on.
      intro i hex
      rw [inFragment, if_neg (by omega), Nat.add_sub_cancel_left]
      exact hex

/-! ### Templates that differ in their scalars

Two templates differ in their scalars only if they are the same after
all scalars have been replaced by one and the same scalar.
-/

mutual

/-- The value with the empty text in place of each scalar. -/
def Value.skeleton : Value → Value
  | .empty => .empty
  | .nested t => .nested t.skeleton
  | .sequence vs => .sequence (Value.skeletons vs)
  | .scalar _ => .text ""

/-- The template with the empty text in place of each scalar. The fragments
stay. -/
def Template.skeleton : Template → Template
  | .last f => .last f
  | .hole f v rest => .hole f v.skeleton rest.skeleton

/-- The same for each element of a sequence. -/
def Value.skeletons : List Value → List Value
  | [] => []
  | v :: vs => v.skeleton :: Value.skeletons vs

end

mutual

/-- Replacing the scalars of a value leaves its fragments alone. -/
theorem Value.staticOf_leaves_skeleton :
    (v : Value) → staticOf v.skeleton.leaves = staticOf v.leaves
  | .empty => rfl
  | .nested t => Template.staticOf_leaves_skeleton t
  | .sequence vs => Value.staticOf_leavesAll_skeletons vs
  | .scalar _ => rfl

/-- It leaves those of a template alone. -/
theorem Template.staticOf_leaves_skeleton :
    (t : Template) → staticOf t.skeleton.leaves = staticOf t.leaves
  | .last _ => rfl
  | .hole f v rest => by
      rw [Template.skeleton, Template.leaves, Template.leaves, staticOf_fragment,
        staticOf_fragment, staticOf_append, staticOf_append,
        Value.staticOf_leaves_skeleton v, Template.staticOf_leaves_skeleton rest]

/-- It leaves those of values in a row alone. -/
theorem Value.staticOf_leavesAll_skeletons :
    (vs : List Value) →
      staticOf (Value.leavesAll (Value.skeletons vs)) = staticOf (Value.leavesAll vs)
  | [] => rfl
  | v :: vs => by
      rw [Value.skeletons, Value.leavesAll, Value.leavesAll, staticOf_append, staticOf_append,
        Value.staticOf_leaves_skeleton v, Value.staticOf_leavesAll_skeletons vs]

end

/-- Templates that differ in their scalars only have the same static
text. -/
theorem Template.staticText_skeleton (t : Template) : t.skeleton.staticText = t.staticText := by
  unfold Template.staticText Template.staticFragments
  rw [Template.staticOf_leaves_skeleton]

/-! ### The main theorem -/

/-- The markup characters of the HTML of a template are those of its
static text. The HTML is that of its leaves, and in it each `&` outside
of the fragments begins an entity. Templates that differ in their
scalars only have the same markup characters, whatever the scalars are. -/
theorem markup_serialize (t : Template) :
    markup t.serialize = markup t.staticText ∧
    t.serialize = htmlOf t.leaves ∧
    AmpersandsBeginEntities (inFragment t.leaves) t.serialize.toList ∧
    ∀ u : Template, u.skeleton = t.skeleton → markup u.serialize = markup t.serialize := by
  have hstatic : ∀ u : Template, markup u.serialize = markup u.staticText := by
    intro u
    rw [Template.serialize_eq_htmlOf, markup_htmlOf]
    rfl
  refine ⟨hstatic t, t.serialize_eq_htmlOf, ?_, ?_⟩
  · rw [Template.serialize_eq_htmlOf]
    exact ampersandsBeginEntities_htmlOf t.leaves
  · -- The static text does not depend on the scalars.
    intro u hu
    calc markup u.serialize
        = markup u.staticText := hstatic u
      _ = markup u.skeleton.staticText := by rw [Template.staticText_skeleton]
      _ = markup t.skeleton.staticText := by rw [hu]
      _ = markup t.staticText := by rw [Template.staticText_skeleton]
      _ = markup t.serialize := (hstatic t).symm

/-- A script in a scalar and a number in its place give the same markup,
two pairs of angle brackets. -/
theorem markup_serialize_script :
    (Template.literal "<p>" [(.scalar (.int 7), "</p>")]).skeleton
      = (Template.literal "<p>" [(.text "<script>'&\"</script>", "</p>")]).skeleton ∧
    markup (Template.literal "<p>" [(.scalar (.int 7), "</p>")]).serialize
      = markup (Template.literal "<p>" [(.text "<script>'&\"</script>", "</p>")]).serialize :=
  ⟨rfl, (markup_serialize _).2.2.2 _ rfl⟩

end HtmlTemplate
