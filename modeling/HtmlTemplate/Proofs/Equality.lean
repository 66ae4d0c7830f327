import HtmlTemplate.Proofs.LooseLists
import HtmlTemplate.Proofs.RoundTrip

/-!
# `HtmlTemplate.Proofs.Equality`: what equal values have in common

Equality of values is not equality of data. It differs in two points,
both of which come from floating-point numbers: the two zeros are equal,
and what is not a number differs from itself. `LooseValue.same_iff` says
that there is no other difference: two values are equal exactly if they
are the same apart from the signs of zeros, and neither has a NaN in it.

The main theorem, `same_sound`, reads off this that equality is symmetric
and transitive, and that equal values can stand for each other: they have
the same HTML, as a text and as a stream. No shape is needed for that, so
this part is about loose lists, and holds of templates as a special case.
What comes back from the JSON forms of equal values is equal again. This
part is about templates only, because other lists do not come back.

For the HTML there is nothing to do but to see that a zero has one text,
whatever its sign (`Binary.canonical_positiveZero`). This is the only
place where the two zeros could be told apart.
-/

set_option autoImplicit false

namespace HtmlTemplate

/-! ### The signs of zeros -/

namespace Binary

variable {F : BinaryFormat}

/-- The number with a positive sign if it is a zero. -/
def positiveZero (x : Binary F) : Binary F := if x.isZero then ofMagnitude false 0 else x

/-- A zero is a zero with either sign. -/
@[simp] theorem magnitude_positiveZero (x : Binary F) :
    x.positiveZero.magnitude = x.magnitude := by
  unfold positiveZero
  by_cases h : x.isZero = true
  · have hzero : x.magnitude = 0 := by simpa [isZero] using h
    rw [if_pos h, hzero]
    simp [magnitude, ofMagnitude]
  · rw [if_neg h]

/-- The sign of a zero makes nothing a NaN. -/
@[simp] theorem isNaN_positiveZero (x : Binary F) : x.positiveZero.isNaN = x.isNaN := by
  simp [isNaN]

/-- It makes nothing infinite either. -/
@[simp] theorem isFinite_positiveZero (x : Binary F) : x.positiveZero.isFinite = x.isFinite := by
  simp [isFinite]

/-- Both zeros have the text `0`. -/
@[simp] theorem canonical_positiveZero (x : Binary F) : x.positiveZero.canonical = x.canonical := by
  by_cases h : x.isZero = true
  · have hzero : x.positiveZero.isZero = true := by
      simpa [isZero] using h
    unfold canonical
    rw [isNaN_positiveZero, if_pos h, if_pos hzero]
  · rw [positiveZero, if_neg h]

/-- Two numbers are equal if they are the same apart from the sign of a
zero. -/
theorem same_iff {x y : Binary F} :
    x.same y = true ↔ x.positiveZero = y.positiveZero ∧ x.isNaN = false ∧ y.isNaN = false := by
  have hsame : x.same y = true ↔
      (x.isNaN = false ∧ y.isNaN = false) ∧
        (x.bits = y.bits ∨ x.isZero = true ∧ y.isZero = true) := by
    simp [same]
  rw [hsame]
  constructor
  · -- The bits are the same, or both numbers are zeros.
    rintro ⟨hnan, hbits | ⟨hx, hy⟩⟩
    · have heq : x = y := by
        cases x
        cases y
        exact congrArg Binary.mk hbits
      rw [heq] at hnan ⊢
      exact ⟨rfl, hnan⟩
    · rw [positiveZero, positiveZero, if_pos hx, if_pos hy]
      exact ⟨rfl, hnan⟩
  · rintro ⟨heq, hnan⟩
    refine ⟨hnan, ?_⟩
    -- If one of them is a zero, so is the other.
    have hmagnitude : x.magnitude = y.magnitude := by
      rw [← x.magnitude_positiveZero, heq, magnitude_positiveZero]
    by_cases hx : x.isZero = true
    · have hy : y.isZero = true := by
        simpa [isZero, hmagnitude] using hx
      exact Or.inr ⟨hx, hy⟩
    · have hy : ¬ y.isZero = true := by
        simpa [isZero, hmagnitude] using hx
      rw [positiveZero, positiveZero, if_neg hx, if_neg hy] at heq
      exact Or.inl (congrArg bits heq)

end Binary

namespace Scalar

/-- The scalar with a positive sign if it is a zero in floating point. The
integers have one zero only. -/
def positiveZero : Scalar → Scalar
  | .float x => .float x.positiveZero
  | s => s

/-- Whether a scalar is a floating-point NaN. -/
def isNaN : Scalar → Bool
  | .float x => x.isNaN
  | _ => false

/-- No scalar shows the sign of a zero in its text. -/
@[simp] theorem canonical_positiveZero (s : Scalar) : s.positiveZero.canonical = s.canonical := by
  cases s with
  | float x => exact x.canonical_positiveZero
  | str | char | int | uint | bool => rfl

/-- Two scalars are equal if they are the same apart from the sign of a
zero, and no NaN. -/
theorem same_iff {s t : Scalar} :
    s.same t = true ↔ s.positiveZero = t.positiveZero ∧ s.isNaN = false ∧ t.isNaN = false := by
  cases s with
  | float x =>
    cases t with
    | float y => simp [same, positiveZero, isNaN, Binary.same_iff]
    | str | char | int | uint | bool => simp [same, positiveZero]
  | str | char | int | uint | bool =>
    cases t with
    | float y => simp [same, positiveZero]
    | str | char | int | uint | bool => simp [same, positiveZero, isNaN]

end Scalar

mutual

/-- The value with a positive sign at each zero in it. -/
def LooseValue.positiveZeros : LooseValue → LooseValue
  | .empty => .empty
  | .nested t => .nested t.positiveZeros
  | .sequence vs => .sequence (LooseValue.positiveZerosAll vs)
  | .scalar s => .scalar s.positiveZero

/-- The template with a positive sign at each zero in its values. -/
def LooseTemplate.positiveZeros : LooseTemplate → LooseTemplate
  | .mk fs vs => .mk fs (LooseValue.positiveZerosAll vs)

/-- The same for each element of a sequence. -/
def LooseValue.positiveZerosAll : List LooseValue → List LooseValue
  | [] => []
  | v :: vs => v.positiveZeros :: LooseValue.positiveZerosAll vs

end

/-! ### Equality up to the signs of zeros -/

mutual

/-- The scalars in a value at any depth, whether they are printed or not. -/
def LooseValue.scalars : LooseValue → List Scalar
  | .empty => []
  | .nested t => t.scalars
  | .sequence vs => LooseValue.scalarsAll vs
  | .scalar s => [s]

/-- The scalars in the values of a template. -/
def LooseTemplate.scalars : LooseTemplate → List Scalar
  | .mk _ vs => LooseValue.scalarsAll vs

/-- The scalars in the elements of a sequence. -/
def LooseValue.scalarsAll : List LooseValue → List Scalar
  | [] => []
  | v :: vs => v.scalars ++ LooseValue.scalarsAll vs

end

/-- There is no NaN among some scalars. -/
def NaNFree (ss : List Scalar) : Prop := ∀ s ∈ ss, s.isNaN = false

/-- Among no scalars there is no NaN. -/
theorem nanFree_nil : NaNFree [] := nofun

/-- Lists without NaN make up a list without NaN. -/
theorem nanFree_append {ss ts : List Scalar} : NaNFree (ss ++ ts) ↔ NaNFree ss ∧ NaNFree ts :=
  List.forall_mem_append

/-- A scalar on its own is a list without NaN if it is none. -/
theorem nanFree_singleton {s : Scalar} : NaNFree [s] ↔ s.isNaN = false :=
  List.forall_mem_singleton

mutual

/-- Two values are equal exactly if they differ in signs of zeros at most,
and neither of them has a NaN at any depth. -/
theorem LooseValue.same_iff : (v w : LooseValue) → (v.same w = true ↔
    v.positiveZeros = w.positiveZeros ∧ NaNFree v.scalars ∧ NaNFree w.scalars)
  | .empty, .empty => iff_of_true rfl ⟨rfl, nanFree_nil, nanFree_nil⟩
  | .nested t, .nested u => by
      rw [LooseValue.same, LooseTemplate.same_iff t u, LooseValue.positiveZeros,
        LooseValue.positiveZeros, LooseValue.nested.injEq]
      rfl
  | .sequence vs, .sequence ws => by
      rw [LooseValue.same, LooseValue.sameAll_iff vs ws, LooseValue.positiveZeros,
        LooseValue.positiveZeros, LooseValue.sequence.injEq]
      rfl
  | .scalar s, .scalar t => by
      rw [LooseValue.same, Scalar.same_iff, LooseValue.positiveZeros, LooseValue.positiveZeros,
        LooseValue.scalar.injEq, LooseValue.scalars, LooseValue.scalars, nanFree_singleton,
        nanFree_singleton]
  | .empty, .nested _ | .empty, .sequence _ | .empty, .scalar _
  | .nested _, .empty | .nested _, .sequence _ | .nested _, .scalar _
  | .sequence _, .empty | .sequence _, .nested _ | .sequence _, .scalar _
  | .scalar _, .empty | .scalar _, .nested _ | .scalar _, .sequence _ => by
      simp [LooseValue.same, LooseValue.positiveZeros]

/-- The same for templates, whatever the lengths of their lists are. -/
theorem LooseTemplate.same_iff : (t u : LooseTemplate) → (t.same u = true ↔
    t.positiveZeros = u.positiveZeros ∧ NaNFree t.scalars ∧ NaNFree u.scalars)
  | .mk fs vs, .mk gs ws => by
      rw [LooseTemplate.same, Bool.and_eq_true, decide_eq_true_eq, LooseValue.sameAll_iff vs ws,
        LooseTemplate.positiveZeros, LooseTemplate.positiveZeros, LooseTemplate.mk.injEq, and_assoc]
      rfl

/-- The same for the elements of sequences. -/
theorem LooseValue.sameAll_iff : (vs ws : List LooseValue) → (LooseValue.sameAll vs ws = true ↔
    LooseValue.positiveZerosAll vs = LooseValue.positiveZerosAll ws ∧
      NaNFree (LooseValue.scalarsAll vs) ∧ NaNFree (LooseValue.scalarsAll ws))
  | [], [] => iff_of_true rfl ⟨rfl, nanFree_nil, nanFree_nil⟩
  | v :: vs, w :: ws => by
      rw [LooseValue.sameAll, Bool.and_eq_true, LooseValue.same_iff v w,
        LooseValue.sameAll_iff vs ws, LooseValue.scalarsAll, LooseValue.scalarsAll, nanFree_append,
        nanFree_append, LooseValue.positiveZerosAll, LooseValue.positiveZerosAll, List.cons.injEq]
      -- The same facts, once by part and once by kind.
      constructor
      · rintro ⟨⟨hv, hnv, hnw⟩, hs, hns, hnt⟩
        exact ⟨⟨hv, hs⟩, ⟨hnv, hns⟩, hnw, hnt⟩
      · rintro ⟨⟨hv, hs⟩, ⟨hnv, hns⟩, hnw, hnt⟩
        exact ⟨⟨hv, hnv, hnw⟩, hs, hns, hnt⟩
  | [], _ :: _ | _ :: _, [] => by
      simp [LooseValue.sameAll, LooseValue.positiveZerosAll]

end

/-! ### The HTML -/

section
variable {m : Type → Type} [Monad m] {onFragment : String → m Unit} {onScalar : Scalar → m Unit}

-- A visit that cannot see the sign of a zero in a scalar cannot see it in a
-- value.
mutual

/-- The signs of zeros do not show in a visit of a value. -/
theorem LooseValue.visit_positiveZeros (h : ∀ s, onScalar s.positiveZero = onScalar s) :
    (v : LooseValue) → v.positiveZeros.visit onFragment onScalar = v.visit onFragment onScalar
  | .empty => rfl
  | .nested t => LooseTemplate.visit_positiveZeros h t
  | .sequence vs => LooseValue.visitAll_positiveZerosAll h vs
  | .scalar s => h s

/-- They do not show in a visit of a template either. -/
theorem LooseTemplate.visit_positiveZeros (h : ∀ s, onScalar s.positiveZero = onScalar s) :
    (t : LooseTemplate) → t.positiveZeros.visit onFragment onScalar = t.visit onFragment onScalar
  | .mk fs vs => LooseValue.visitParts_positiveZerosAll h fs vs

/-- They do not show in a visit of the elements of a sequence. -/
theorem LooseValue.visitAll_positiveZerosAll (h : ∀ s, onScalar s.positiveZero = onScalar s) :
    (vs : List LooseValue) →
      LooseValue.visitAll onFragment onScalar (LooseValue.positiveZerosAll vs)
        = LooseValue.visitAll onFragment onScalar vs
  | [] => rfl
  | v :: vs => by
      rw [LooseValue.positiveZerosAll, LooseValue.visitAll, LooseValue.visitAll,
        LooseValue.visit_positiveZeros h v, LooseValue.visitAll_positiveZerosAll h vs]

/-- They do not show in a visit of values with fragments in between. -/
theorem LooseValue.visitParts_positiveZerosAll (h : ∀ s, onScalar s.positiveZero = onScalar s) :
    (fs : List String) → (vs : List LooseValue) →
      LooseValue.visitParts onFragment onScalar fs (LooseValue.positiveZerosAll vs)
        = LooseValue.visitParts onFragment onScalar fs vs
  | _, [] => rfl
  | [], _ :: _ => rfl
  | f :: fs, v :: vs => by
      rw [LooseValue.positiveZerosAll, LooseValue.visitParts, LooseValue.visitParts,
        LooseValue.visit_positiveZeros h v, LooseValue.visitParts_positiveZerosAll h fs vs]

end

/-- No such visit tells equal values apart. -/
theorem LooseValue.visit_of_same (h : ∀ s, onScalar s.positiveZero = onScalar s)
    {v w : LooseValue} (hsame : v.same w = true) :
    v.visit onFragment onScalar = w.visit onFragment onScalar := by
  obtain ⟨hzeros, -, -⟩ := (v.same_iff w).mp hsame
  rw [← v.visit_positiveZeros h, hzeros, w.visit_positiveZeros h]

end

/-- Appending to a buffer is such a visit. -/
theorem appendScalar_positiveZero (s : Scalar) : appendScalar s.positiveZero = appendScalar s := by
  rw [appendScalar, s.canonical_positiveZero]
  rfl

/-- Writing to a sink is another one. -/
theorem writeScalar_positiveZero (s : Scalar) : writeScalar s.positiveZero = writeScalar s := by
  rw [writeScalar, s.canonical_positiveZero]
  rfl

/-- A sound equality. It holds exactly if the data is the same up to the
signs of zeros and has no NaN in it, and then `html` and `write` give the
same. `loose` gives the data that is compared, with templates as two loose
lists. -/
structure SoundEquality {α : Type} (loose : α → LooseValue) (same : α → α → Bool)
    (html : α → String) (write : α → Writer Unit) : Prop where
  comm : ∀ a b, same a b = same b a
  trans : ∀ {a b c}, same a b = true → same b c = true → same a c = true
  /-- Only a NaN, at any depth, makes a thing differ from itself. -/
  self_iff : ∀ a, same a a = true ↔ NaNFree (loose a).scalars
  iff_positiveZeros : ∀ a b, same a b = true ↔
    (loose a).positiveZeros = (loose b).positiveZeros ∧
      NaNFree (loose a).scalars ∧ NaNFree (loose b).scalars
  html_eq : ∀ {a b}, same a b = true → html a = html b
  write_eq : ∀ {a b}, same a b = true → write a = write b

/-- A comparison, an HTML and a stream that are those of loose data make a
sound equality. -/
theorem SoundEquality.of_loose {α : Type} {loose : α → LooseValue} {same : α → α → Bool}
    {html : α → String} {write : α → Writer Unit}
    (hsame : ∀ a b, same a b = (loose a).same (loose b))
    (hhtml : ∀ a, html a = (loose a).stringify) (hwrite : ∀ a, write a = (loose a).writeHtml) :
    SoundEquality loose same html write where
  comm a b := by
    rw [hsame, hsame, Bool.eq_iff_iff, LooseValue.same_iff, LooseValue.same_iff]
    constructor
    · rintro ⟨hzeros, ha, hb⟩
      exact ⟨hzeros.symm, hb, ha⟩
    · rintro ⟨hzeros, hb, ha⟩
      exact ⟨hzeros.symm, ha, hb⟩
  trans hab hbc := by
    rw [hsame, LooseValue.same_iff] at hab hbc ⊢
    exact ⟨hab.1.trans hbc.1, hab.2.1, hbc.2.2⟩
  self_iff a := by
    rw [hsame, LooseValue.same_iff]
    exact ⟨fun h => h.2.1, fun h => ⟨rfl, h, h⟩⟩
  iff_positiveZeros a b := by
    rw [hsame, LooseValue.same_iff]
  html_eq hab := by
    rw [hsame] at hab
    rw [hhtml, hhtml, LooseValue.stringify, LooseValue.stringify,
      LooseValue.visit_of_same appendScalar_positiveZero hab]
  write_eq hab := by
    rw [hsame] at hab
    rw [hwrite, hwrite, LooseValue.writeHtml, LooseValue.writeHtml,
      LooseValue.visit_of_same writeScalar_positiveZero hab]

/-! ### The JSON form -/

/-- Normal forms of equal scalars are equal. What is not finite does not
come back, so no NaN is left. -/
theorem Scalar.norm_same {s t : Scalar} (h : s.same t = true) : s.norm.same t.norm = true := by
  cases s with
  | float x =>
    cases t with
    | float y =>
      have hfinite : x.isFinite = y.isFinite := by
        rw [← x.isFinite_positiveZero, (Binary.same_iff.mp h).1, y.isFinite_positiveZero]
      rw [Scalar.norm, Scalar.norm, hfinite]
      split
      · exact h
      · rfl
    | str | char | int | uint | bool => simp [same] at h
  | uint n =>
    have heq : Scalar.uint n = t := by simpa [same] using h
    rw [← heq, norm]
    -- A small number comes back as a signed one, on both sides.
    split
    · simp [Value.same, same]
    · simp [Value.same, same]
  | str | char | int | bool =>
    have heq := (of_decide_eq_true h).symm
    rw [heq]
    simp [norm, Value.same, same]

mutual

/-- Normal forms of equal values are equal. -/
theorem Value.norm_same : {v w : Value} → v.same w = true → v.norm.same w.norm = true
  | .empty, .empty, h => h
  | .nested _, .nested _, h => Template.norm_same h
  | .sequence _, .sequence _, h => Value.norms_same h
  | .scalar _, .scalar _, h => Scalar.norm_same h

/-- Normal forms of equal templates are equal. -/
theorem Template.norm_same : {t u : Template} → t.same u = true → t.norm.same u.norm = true
  | .last f, .last g, h => h
  | .hole f v s, .hole g w t, h => by
      simp only [Template.same, Template.norm, Bool.and_eq_true] at h ⊢
      exact ⟨⟨h.1.1, Value.norm_same h.1.2⟩, Template.norm_same h.2⟩

/-- Normal forms of equal elements are equal one by one. -/
theorem Value.norms_same : {vs ws : List Value} → Value.sameAll vs ws = true →
    Value.sameAll (Value.norms vs) (Value.norms ws) = true
  | [], [], h => h
  | v :: vs, w :: ws, h => by
      simp only [Value.sameAll, Value.norms, Bool.and_eq_true] at h ⊢
      exact ⟨Value.norm_same h.1, Value.norms_same h.2⟩

end

/-! ### The main theorem -/

/-- Equality is sound, for values and templates, and also if fragments and
values are two loose lists of any lengths. Equal values and templates have
JSON forms that are read as equal ones. -/
theorem same_sound :
    SoundEquality id LooseValue.same LooseValue.stringify LooseValue.writeHtml ∧
    SoundEquality .nested LooseTemplate.same LooseTemplate.serialize LooseTemplate.writeHtml ∧
    SoundEquality Value.loose Value.same Value.stringify Value.writeHtml ∧
    SoundEquality (fun t => .nested t.loose) Template.same Template.serialize Template.writeHtml ∧
    (∀ v w : Value, v.same w = v.loose.same w.loose ∧ v.stringify = v.loose.stringify ∧
      v.writeHtml = v.loose.writeHtml) ∧
    (∀ t u : Template, t.same u = t.loose.same u.loose ∧ t.serialize = t.loose.serialize ∧
      t.writeHtml = t.loose.writeHtml) ∧
    (∀ v w : Value, v.same w = true → ∃ v' w', Value.ofJson v.toJson = .ok v' ∧
      Value.ofJson w.toJson = .ok w' ∧ v'.same w' = true) ∧
    ∀ t u : Template, t.same u = true → ∃ t' u', Template.ofJson t.toJson = .ok t' ∧
      Template.ofJson u.toJson = .ok u' ∧ t'.same u' = true := by
  -- What comes back from a JSON form is the normal form.
  have hread : ∀ t : Template, Template.ofJson t.toJson = .ok t.norm := fun t =>
    (Template.ofJson_eq_ok_iff _ _).mpr (Value.nested t).ofJson_toJson_eq_norm
  refine ⟨.of_loose (fun _ _ => rfl) (fun _ => rfl) (fun _ => rfl),
    .of_loose (fun _ _ => rfl) (fun _ => rfl) (fun _ => rfl),
    .of_loose Value.same_eq_same_loose Value.stringify_eq_stringify_loose
      Value.writeHtml_eq_writeHtml_loose,
    .of_loose Template.same_eq_same_loose Template.serialize_eq_serialize_loose
      Template.writeHtml_eq_writeHtml_loose, ?_, ?_, ?_, ?_⟩
  · intro v w
    exact ⟨v.same_eq_same_loose w, v.stringify_eq_stringify_loose, v.writeHtml_eq_writeHtml_loose⟩
  · intro t u
    exact ⟨t.same_eq_same_loose u, t.serialize_eq_serialize_loose, t.writeHtml_eq_writeHtml_loose⟩
  · intro v w h
    exact ⟨v.norm, w.norm, v.ofJson_toJson_eq_norm, w.ofJson_toJson_eq_norm, Value.norm_same h⟩
  · intro t u h
    exact ⟨t.norm, u.norm, hread t, hread u, Template.norm_same h⟩

/-- A page with a zero of the given sign. -/
def zeroPage (negative : Bool) : Template :=
  .literal "<p>" [(.scalar (.float (.ofMagnitude negative 0)), "</p>")]

/-- The same page without its last fragment, which leaves two lists that do
not fit. -/
def cutZeroPage (negative : Bool) : LooseTemplate :=
  .mk ["<p>"] [.scalar (.float (.ofMagnitude negative 0))]

/-- Pages with zeros of both signs are two pages, and they are equal. -/
theorem same_sound_zeros :
    zeroPage true ≠ zeroPage false ∧
    (zeroPage true).same (zeroPage false) = true ∧
    (zeroPage true).same (zeroPage true) = true ∧
    (zeroPage true).serialize = (zeroPage false).serialize ∧
    (∃ t u, Template.ofJson (zeroPage true).toJson = .ok t ∧
      Template.ofJson (zeroPage false).toJson = .ok u ∧ t.same u = true) ∧
    (Value.sequence [.nested (zeroPage true)]).same (.sequence [.nested (zeroPage false)]) = true ∧
    (Value.sequence [.nested (zeroPage true)]).stringify
      = (Value.sequence [.nested (zeroPage false)]).stringify ∧
    (∃ v w, Value.ofJson (Value.sequence [.nested (zeroPage true)]).toJson = .ok v ∧
      Value.ofJson (Value.sequence [.nested (zeroPage false)]).toJson = .ok w ∧
      v.same w = true) ∧
    (cutZeroPage true).same (cutZeroPage false) = true ∧
    (cutZeroPage true).serialize = (cutZeroPage false).serialize := by
  obtain ⟨-, hcut, hvalue, htemplate, -, -, hvalueJson, htemplateJson⟩ := same_sound
  have hne : zeroPage true ≠ zeroPage false := by
    intro h
    -- The bits of the two zeros differ.
    have hzeros := Scalar.float.inj (Value.scalar.inj (Template.hole.inj h).2.1)
    exact absurd hzeros (by decide)
  have hpages : (zeroPage true).same (zeroPage false) = true := by decide
  have hback : (zeroPage false).same (zeroPage true) = true := by rw [htemplate.comm, hpages]
  have hvalues : (Value.sequence [.nested (zeroPage true)]).same
      (.sequence [.nested (zeroPage false)]) = true := by decide
  have hcuts : (cutZeroPage true).same (cutZeroPage false) = true := by decide
  exact ⟨hne, hpages, htemplate.trans hpages hback, htemplate.html_eq hpages,
    htemplateJson _ _ hpages, hvalues, hvalue.html_eq hvalues, hvalueJson _ _ hvalues, hcuts,
    hcut.html_eq hcuts⟩

end HtmlTemplate
