import HtmlTemplate.Proofs.Shape

/-!
# `HtmlTemplate.Proofs.LooseLists`: equality and HTML for lists of any lengths

A program that keeps templates as two loose lists can compare and print
them whether their lengths fit or not. `LooseValue.same` compares all
fragments and all values. `LooseValue.visit` goes through what is
printed: for each fragment the fragment, and then the value with the same
index, if there is one (`LooseTemplate.visit_eq_forM`). Values behind the
last fragment are compared but not printed.

Appending to a buffer and writing to a sink are the same visit with
different actions. On the lists of a `Template`, all of this is what
`Template` itself does: `Value.same_eq_same_loose`,
`Value.stringify_eq_stringify_loose`, `Value.writeHtml_eq_writeHtml_loose`,
and the same for templates.
-/

set_option autoImplicit false

namespace HtmlTemplate

/-! ### Equality -/

mutual

/-- Equality by value. -/
def LooseValue.same : LooseValue → LooseValue → Bool
  | .empty, .empty => true
  | .nested t, .nested u => t.same u
  | .sequence vs, .sequence ws => LooseValue.sameAll vs ws
  | .scalar s, .scalar t => s.same t
  | _, _ => false

/-- Equality by value, one list after the other. -/
def LooseTemplate.same : LooseTemplate → LooseTemplate → Bool
  | .mk fs vs, .mk gs ws => fs = gs && LooseValue.sameAll vs ws

/-- Lists of one length whose elements are the same one by one. -/
def LooseValue.sameAll : List LooseValue → List LooseValue → Bool
  | [], [] => true
  | v :: vs, w :: ws => v.same w && LooseValue.sameAll vs ws
  | _, _ => false

end

mutual

/-- Values are equal exactly if their loose lists are. -/
theorem Value.same_eq_same_loose : (v w : Value) → v.same w = v.loose.same w.loose
  | .empty, .empty => rfl
  | .nested t, .nested u => Template.same_eq_same_loose t u
  | .sequence vs, .sequence ws => Value.sameAll_eq_sameAll_looses vs ws
  | .scalar _, .scalar _ => rfl
  | .empty, .nested _ | .empty, .sequence _ | .empty, .scalar _
  | .nested _, .empty | .nested _, .sequence _ | .nested _, .scalar _
  | .sequence _, .empty | .sequence _, .nested _ | .sequence _, .scalar _
  | .scalar _, .empty | .scalar _, .nested _ | .scalar _, .sequence _ => rfl

/-- Comparing hole by hole comes to the same as comparing all fragments and
then all values. -/
theorem Template.same_eq_same_loose : (t u : Template) → t.same u = t.loose.same u.loose
  | .last f, .last g => by
      simp [Template.same, Template.loose, Template.fragments, Template.looseValues,
        LooseTemplate.same, LooseValue.sameAll]
  | .hole f v s, .hole g w t => by
      rw [Template.same, Value.same_eq_same_loose v w, Template.same_eq_same_loose s t]
      simp only [Template.loose, Template.fragments, Template.looseValues, LooseTemplate.same,
        LooseValue.sameAll, List.cons.injEq, Bool.decide_and]
      -- The same comparisons, in another order.
      ac_rfl
  | .last _, .hole _ _ _ | .hole _ _ _, .last _ => by
      simp [Template.same, Template.loose, Template.looseValues, LooseTemplate.same,
        LooseValue.sameAll]

/-- The same for the elements of sequences. -/
theorem Value.sameAll_eq_sameAll_looses : (vs ws : List Value) →
    Value.sameAll vs ws = LooseValue.sameAll (Value.looses vs) (Value.looses ws)
  | [], [] => rfl
  | v :: vs, w :: ws => by
      rw [Value.sameAll, Value.same_eq_same_loose v w, Value.sameAll_eq_sameAll_looses vs ws]
      rfl
  | [], _ :: _ | _ :: _, [] => rfl

end

/-! ### What is printed -/

section
variable {m : Type → Type} [Monad m] (onFragment : String → m Unit) (onScalar : Scalar → m Unit)

mutual

/-- Goes through what a value prints, in order. -/
def LooseValue.visit : LooseValue → m Unit
  | .empty => pure ()
  | .nested t => t.visit
  | .sequence vs => LooseValue.visitAll vs
  | .scalar s => onScalar s

/-- Goes through the fragments and the values of a template. -/
def LooseTemplate.visit : LooseTemplate → m Unit
  | .mk fs vs => LooseValue.visitParts fs vs

/-- Goes through the elements of a sequence. -/
def LooseValue.visitAll : List LooseValue → m Unit
  | [] => pure ()
  | v :: vs => do
    v.visit
    LooseValue.visitAll vs

/-- Goes through fragments and values in turns, until there are no more
fragments. -/
def LooseValue.visitParts : List String → List LooseValue → m Unit
  | fs, [] => fs.forM onFragment
  | [], _ :: _ => pure ()
  | f :: fs, v :: vs => do
    onFragment f
    v.visit
    LooseValue.visitParts fs vs

end

variable [LawfulMonad m]

/-- The visit is a loop over the fragments that looks up each value by its
index. -/
theorem LooseTemplate.visit_eq_forM (fs : List String) (vs : List LooseValue) :
    (LooseTemplate.mk fs vs).visit onFragment onScalar = (fs.zipIdx.forM fun p => do
      onFragment p.1
      (vs[p.2]?).elim (pure ()) (LooseValue.visit onFragment onScalar)) := by
  rw [LooseTemplate.visit]
  -- The values get shorter along with the fragments.
  induction fs generalizing vs with
  | nil => cases vs <;> rfl
  | cons f fs ih =>
    rw [List.zipIdx_cons, List.zipIdx_succ]
    cases vs with
    | nil =>
      -- There are fragments only from here on, and every look-up fails.
      have hrest : fs.forM onFragment = _ := ih []
      have hstep := congrArg (fun rest : m Unit => do onFragment f; rest) hrest
      simpa [LooseValue.visitParts] using hstep
    | cons v vs =>
      rw [LooseValue.visitParts, ih vs]
      simp

end

/-! ### Appending to a buffer -/

/-- Puts a fragment behind what the buffer holds. -/
def appendFragment (f : String) : StateM String Unit := modify fun out => out ++ f

/-- Puts a scalar there, escaped. -/
def appendScalar (s : Scalar) : StateM String Unit := modify fun out => escapeInto out s.canonical

/-- The HTML of a value. -/
def LooseValue.stringify (v : LooseValue) : String :=
  ((v.visit appendFragment appendScalar).run "").2

/-- The HTML of a template. -/
def LooseTemplate.serialize (t : LooseTemplate) : String :=
  ((t.visit appendFragment appendScalar).run "").2

mutual

/-- Serializing a value into a buffer is the visit that appends. -/
theorem Value.visit_loose_append :
    (v : Value) → v.loose.visit appendFragment appendScalar = modify fun out => v.stringifyInto out
  | .empty => rfl
  | .nested t => Template.visit_loose_append t
  | .sequence vs => Value.visitAll_looses_append vs
  | .scalar _ => rfl

/-- So is serializing a template. -/
theorem Template.visit_loose_append : (t : Template) →
    t.loose.visit appendFragment appendScalar = modify fun out => t.serializeInto out
  | .last _ => rfl
  | .hole f v rest => by
      have hrest := Template.visit_loose_append rest
      rw [Template.loose, LooseTemplate.visit] at hrest ⊢
      rw [Template.fragments, Template.looseValues, LooseValue.visitParts,
        Value.visit_loose_append v, hrest]
      rfl

/-- So is serializing the elements of a sequence. -/
theorem Value.visitAll_looses_append : (vs : List Value) →
    LooseValue.visitAll appendFragment appendScalar (Value.looses vs)
      = modify fun out => Value.stringifyAllInto out vs
  | [] => rfl
  | v :: vs => by
      rw [Value.looses, LooseValue.visitAll, Value.visit_loose_append v,
        Value.visitAll_looses_append vs]
      rfl

end

/-- The HTML of a value is that of its loose lists. -/
theorem Value.stringify_eq_stringify_loose (v : Value) : v.stringify = v.loose.stringify := by
  rw [LooseValue.stringify, Value.visit_loose_append]
  rfl

/-- The HTML of a template is that of its two lists. -/
theorem Template.serialize_eq_serialize_loose (t : Template) :
    t.serialize = t.loose.serialize := by
  rw [LooseTemplate.serialize, Template.visit_loose_append]
  rfl

/-! ### Writing to a sink -/

/-- Writes a fragment as it is. -/
def writeFragment (f : String) : Writer Unit := Sink.writeAll (utf8 f)

/-- Writes a scalar, escaped. -/
def writeScalar (s : Scalar) : Writer Unit := writeEscaped (utf8 s.canonical)

/-- Writes the HTML of a value. -/
def LooseValue.writeHtml (v : LooseValue) : Writer Unit := v.visit writeFragment writeScalar

/-- Writes the HTML of a template. -/
def LooseTemplate.writeHtml (t : LooseTemplate) : Writer Unit := t.visit writeFragment writeScalar

mutual

/-- Streaming a value is the visit that writes. -/
theorem Value.writeHtml_eq_writeHtml_loose : (v : Value) → v.writeHtml = v.loose.writeHtml
  | .empty => rfl
  | .nested t => Template.writeHtml_eq_writeHtml_loose t
  | .sequence vs => Value.writeAllHtml_eq_visitAll_looses vs
  | .scalar _ => rfl

/-- So is streaming a template. -/
theorem Template.writeHtml_eq_writeHtml_loose : (t : Template) → t.writeHtml = t.loose.writeHtml
  | .last f => by
      show writeFragment f = (do writeFragment f; pure ())
      rw [bind_pure]
  | .hole f v rest => by
      rw [Template.writeHtml, Value.writeHtml_eq_writeHtml_loose v,
        Template.writeHtml_eq_writeHtml_loose rest]
      rfl

/-- So is streaming the elements of a sequence. -/
theorem Value.writeAllHtml_eq_visitAll_looses : (vs : List Value) →
    Value.writeAllHtml vs = LooseValue.visitAll writeFragment writeScalar (Value.looses vs)
  | [] => rfl
  | v :: vs => by
      rw [Value.writeAllHtml, Value.writeHtml_eq_writeHtml_loose v,
        Value.writeAllHtml_eq_visitAll_looses vs]
      rfl

end

end HtmlTemplate
