import HtmlTemplate.Proofs.Leaves
import HtmlTemplate.Target

/-!
# `HtmlTemplate.Proofs.DocumentOrder`: the HTML is what the leaves say

`Leaf.text` says what a leaf comes to, without a word about scanning: a
fragment is its own text, and a scalar is its canonical text with an
entity in place of each special character. The main theorem,
`stringify_eq_join_text`, says that the HTML of a value is the text of
its leaves in document order, and nothing else. The depth at which a
scalar sits plays no part, because the leaves know of no depth.

The leaves of a template are those of its two lists (`leavesOf`): each
fragment, and after it the leaves of the value with the same index. All
values have a fragment in front of them, and the last fragment has no
value behind it (`Template.length_fragments`), so this drops none.

Two values with the same leaves have the same HTML. A sequence may be cut
into parts, and the absence of a value may be put in anywhere.
-/

set_option autoImplicit false

namespace HtmlTemplate

/-! ### What a leaf comes to -/

/-- The text that a leaf comes to. -/
def Leaf.text : Leaf → String
  | .fragment text => text
  | .scalar s => substitute s.canonical

/-- The scanner leaves what the characterwise description says. -/
theorem Leaf.html_eq_text (l : Leaf) : l.html = l.text := by
  cases l with
  | fragment text => rfl
  | scalar s => exact escape_eq_substitute s.canonical

/-- The same for leaves one after the other. -/
theorem htmlOf_eq_join_text (ls : List Leaf) : htmlOf ls = String.join (ls.map Leaf.text) := by
  have hmap : ls.map Leaf.html = ls.map Leaf.text :=
    List.map_congr_left fun l _ => l.html_eq_text
  rw [htmlOf, hmap]

/-! ### The two lists of a template -/

/-- The leaves of fragments with values in between: each fragment, and
after it the leaves of the value with the same index. -/
def leavesOf (fragments : List String) (values : List Value) : List Leaf :=
  fragments.zipIdx.flatMap fun p => .fragment p.1 :: (values[p.2]?).elim [] Value.leaves

/-- The first fragment and the first value come first. For all others,
both indices are one less. -/
theorem leavesOf_cons (f : String) (v : Value) (fs : List String) (vs : List Value) :
    leavesOf (f :: fs) (v :: vs) = .fragment f :: (v.leaves ++ leavesOf fs vs) := by
  unfold leavesOf
  rw [List.zipIdx_cons, List.zipIdx_succ, List.flatMap_cons, List.flatMap_map]
  rfl

/-- The leaves of a template are those of its two lists. -/
theorem Template.leaves_eq_leavesOf (t : Template) :
    t.leaves = leavesOf t.fragments t.values := by
  cases t with
  | last f => rfl
  | hole f v rest =>
    rw [Template.leaves, Template.fragments, Template.values, leavesOf_cons,
      Template.leaves_eq_leavesOf rest]

/-! ### Sequences -/

/-- The leaves of values in a row are those of one after those of the other.
-/
theorem Value.leavesAll_eq_flatMap (vs : List Value) :
    Value.leavesAll vs = vs.flatMap Value.leaves := by
  induction vs with
  | nil => rfl
  | cons v vs ih => rw [Value.leavesAll, List.flatMap_cons, ih]

/-- A sequence has the leaves of its elements, in their order. -/
theorem Value.leaves_sequence (vs : List Value) :
    (Value.sequence vs).leaves = vs.flatMap Value.leaves := by
  rw [Value.leaves, Value.leavesAll_eq_flatMap]

/-- A part of a sequence may be a sequence of its own. -/
theorem Value.leaves_regroup (us vs ws : List Value) :
    (Value.sequence (us ++ .sequence vs :: ws)).leaves
      = (Value.sequence (us ++ (vs ++ ws))).leaves := by
  simp [Value.leaves_sequence]

/-- An absent value between others leaves nothing. -/
theorem Value.leaves_absent (us ws : List Value) :
    (Value.sequence (us ++ .empty :: ws)).leaves = (Value.sequence (us ++ ws)).leaves := by
  rw [Value.leaves_sequence, Value.leaves_sequence, List.flatMap_append, List.flatMap_append]
  rfl

/-! ### The main theorem -/

/-- The HTML of a value is the text of its leaves in document order. This
holds in front of any buffer, for each way to turn a template into HTML,
and whatever lists the template interleaves. Values with the same leaves
have the same HTML. Among them are sequences that differ in how they are
cut into parts, or in absent values. -/
theorem stringify_eq_join_text :
    (∀ (v : Value) (out : String),
      v.stringifyInto out = out ++ String.join (v.leaves.map Leaf.text)) ∧
    (∀ (t : Template) (out : String),
      t.serializeInto out = out ++ String.join (t.leaves.map Leaf.text)) ∧
    (∀ v : Value, v.stringify = String.join (v.leaves.map Leaf.text)) ∧
    (∀ t : Template, t.fragments.length = t.values.length + 1 ∧
      (Value.nested t).leaves = leavesOf t.fragments t.values) ∧
    (∀ vs : List Value, (Value.sequence vs).leaves = vs.flatMap Value.leaves) ∧
    (∀ s : Scalar, (Value.scalar s).leaves = [.scalar s]) ∧ Value.empty.leaves = [] ∧
    (∀ t : Template, t.serialize = (Value.nested t).stringify ∧
      t.renderToString = (Value.nested t).stringify ∧ toString t = (Value.nested t).stringify) ∧
    (∀ v w : Value, v.leaves = w.leaves → v.stringify = w.stringify) ∧
    (∀ us vs ws : List Value, (Value.sequence (us ++ .sequence vs :: ws)).leaves =
      (Value.sequence (us ++ (vs ++ ws))).leaves) ∧
    (∀ us ws : List Value, (Value.sequence (us ++ .empty :: ws)).leaves =
      (Value.sequence (us ++ ws)).leaves) := by
  have hstringify : ∀ v : Value, v.stringify = String.join (v.leaves.map Leaf.text) := by
    intro v
    rw [v.stringify_eq_htmlOf, htmlOf_eq_join_text]
  refine ⟨?_, ?_, hstringify, ?_, Value.leaves_sequence, fun _ => rfl, rfl,
    fun _ => ⟨rfl, rfl, rfl⟩, ?_, Value.leaves_regroup, Value.leaves_absent⟩
  · intro v out
    rw [v.stringifyInto_eq_htmlOf, htmlOf_eq_join_text]
  · intro t out
    rw [t.serializeInto_eq_htmlOf, htmlOf_eq_join_text]
  · intro t
    exact ⟨t.length_fragments, t.leaves_eq_leavesOf⟩
  · intro v w h
    rw [hstringify, hstringify, h]

/-- A template between two texts, once as three values in a row, and once
with the first two grouped and an absent value behind them. The HTML is
the same, each special character is replaced once at its own depth, and
the fragments keep theirs. -/
theorem stringify_eq_join_text_regrouped :
    (Value.sequence [.text "<", .nested (.literal "<b>" [(.text "a&amp;", "</b>")]),
        .text "'"]).leaves
      = (Value.sequence [.sequence [.text "<",
          .nested (.literal "<b>" [(.text "a&amp;", "</b>")])], .empty, .text "'"]).leaves ∧
    (Value.sequence [.text "<", .nested (.literal "<b>" [(.text "a&amp;", "</b>")]),
        .text "'"]).stringify
      = (Value.sequence [.sequence [.text "<",
          .nested (.literal "<b>" [(.text "a&amp;", "</b>")])], .empty, .text "'"]).stringify ∧
    (Value.sequence [.text "<", .nested (.literal "<b>" [(.text "a&amp;", "</b>")]),
        .text "'"]).stringify = "&lt;<b>a&amp;amp;</b>&#39;" := by
  have hstringify := stringify_eq_join_text.2.2.1
  obtain ⟨-, -, -, -, -, -, -, -, hsame, -, -⟩ := stringify_eq_join_text
  refine ⟨rfl, hsame _ _ rfl, ?_⟩
  rw [hstringify]
  decide

end HtmlTemplate
