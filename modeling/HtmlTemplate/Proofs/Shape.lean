import HtmlTemplate.Proofs.Faults
import HtmlTemplate.Serialize
import HtmlTemplate.Stream
import Mathlib.Data.Set.List

/-!
# `HtmlTemplate.Proofs.Shape`: one more fragment than values, everywhere

The type `Template` has no value of another shape. This file shows that
nothing is lost with that: a program that keeps templates as two loose
lists (`LooseTemplate`) and can only build them in the ways below never
holds two lists that do not fit, at any depth.

* `LooseTemplate.ofLiteral` is a template that is written in the program.
  It checks nothing. The syntax gives it a fragment for each value and one
  more.
* `LooseTemplate.ofParts` takes lists that come up at run time, and
  compares their lengths.
* `LooseValue.ofJson` and `LooseTemplate.ofJson` read JSON data, and end
  in `LooseTemplate.ofParts` at each level.

The check is also there for two counts of 64 bits (`checkCounts`). Unless
the number of values is the largest count, it says what comes of building
a template from lists of these lengths (`Template.checkCounts_length`,
`LooseTemplate.checkCounts_length`).

`obtainable_iff_exists_loose` says that these ways lead exactly to the
loose lists of a `Template`. The step behind it is that each way has a
counterpart among the functions on `Template`, and `Template.loose` takes
one to the other.

The second half is about the loop that serializes (`walk`). It looks up a
value for each fragment by its index. On a template, the look-up fails at
the last fragment only, and the loop comes to each value once. On other
lists it would drop values or miss some, and nobody would notice.
-/

set_option autoImplicit false

namespace HtmlTemplate

/-! ### Templates as loose lists -/

mutual

/-- A value that may contain templates of any shape. -/
inductive LooseValue where
  | empty
  | nested (t : LooseTemplate)
  | sequence (items : List LooseValue)
  | scalar (s : Scalar)

/-- Fragments and values, whatever their numbers. -/
inductive LooseTemplate where
  | mk (fragments : List String) (values : List LooseValue)

end

namespace LooseTemplate

/-- The fragments in order. -/
def fragments : LooseTemplate → List String
  | .mk fs _ => fs

/-- The values in order, however many there are. -/
def values : LooseTemplate → List LooseValue
  | .mk _ vs => vs

/-- A template that is written in the program: a fragment, and then a
value and a fragment in turns. -/
def ofLiteral (first : String) (rest : List (LooseValue × String)) : LooseTemplate :=
  .mk (first :: rest.map Prod.snd) (rest.map Prod.fst)

/-- A template from lists whose lengths have to fit. -/
def ofParts (fs : List String) (vs : List LooseValue) : Except ShapeError LooseTemplate :=
  if fs.length = vs.length + 1 then .ok (.mk fs vs) else .error ⟨fs.length, vs.length⟩

/-- A template from the members of a marked object and the outcome of
reading its values. -/
def ofMembers (members : List (String × Json)) (values : Except DecodeError (List LooseValue)) :
    Except DecodeError LooseTemplate := do
  let fragments ← Json.fragmentsOf members
  Json.checkValues members
  let fragments ← fragments.mapM Json.fragmentText
  let values ← values
  (ofParts fragments values).mapError .shape

end LooseTemplate

mutual

/-- Reads a value from JSON data. -/
def LooseValue.ofJson : Json → Except DecodeError LooseValue
  | .null => .ok .empty
  | .bool b => .ok (.scalar (.bool b))
  | .number n => .ok (.scalar (Scalar.ofNumber n))
  | .string s => .ok (.scalar (.str s))
  | .array items => (LooseValue.ofJsons items).map .sequence
  | .object members =>
    if Json.hasMarker members then
      (LooseTemplate.ofMembers members (LooseValue.ofValues members)).map .nested
    else .ok (.scalar (.str (Json.object members).compact))

/-- Reads the elements of an array, up to the first one that cannot be read.
-/
def LooseValue.ofJsons : List Json → Except DecodeError (List LooseValue)
  | [] => .ok []
  | j :: js => do
    let v ← LooseValue.ofJson j
    let vs ← LooseValue.ofJsons js
    return v :: vs

/-- Reads the values of a marked object. -/
def LooseValue.ofValues : List (String × Json) → Except DecodeError (List LooseValue)
  | [] => .ok []
  | (k, j) :: ms =>
    if k = "values" then
      match j with
      | .array items => LooseValue.ofJsons items
      | _ => .ok []
    else LooseValue.ofValues ms

end

/-- Reads a template from JSON data. -/
def LooseTemplate.ofJson : Json → Except DecodeError LooseTemplate
  | .object members =>
    if Json.hasMarker members then
      LooseTemplate.ofMembers members (LooseValue.ofValues members)
    else .error (.notTemplate (.object members))
  | j => .error (.notTemplate j)

mutual

/-- The values that a program can come by. -/
inductive LooseValue.Obtainable : LooseValue → Prop where
  | empty : LooseValue.Obtainable .empty
  | scalar (s : Scalar) : LooseValue.Obtainable (.scalar s)
  | nested {t : LooseTemplate} (ht : LooseTemplate.Obtainable t) :
      LooseValue.Obtainable (.nested t)
  | sequence {vs : List LooseValue} (hvs : ∀ v ∈ vs, LooseValue.Obtainable v) :
      LooseValue.Obtainable (.sequence vs)
  | ofJson {j : Json} {v : LooseValue} (hv : LooseValue.ofJson j = .ok v) :
      LooseValue.Obtainable v

/-- The templates that a program can come by. -/
inductive LooseTemplate.Obtainable : LooseTemplate → Prop where
  | ofLiteral (first : String) {rest : List (LooseValue × String)}
      (hrest : ∀ p ∈ rest, LooseValue.Obtainable p.1) :
      LooseTemplate.Obtainable (LooseTemplate.ofLiteral first rest)
  | ofParts {fs : List String} {vs : List LooseValue} {t : LooseTemplate}
      (hvs : ∀ v ∈ vs, LooseValue.Obtainable v) (ht : LooseTemplate.ofParts fs vs = .ok t) :
      LooseTemplate.Obtainable t
  | ofJson {j : Json} {t : LooseTemplate} (ht : LooseTemplate.ofJson j = .ok t) :
      LooseTemplate.Obtainable t

end

/-- The template `t` is `v` or is contained in it at some depth. -/
inductive LooseValue.Holds : LooseValue → LooseTemplate → Prop where
  | self (t : LooseTemplate) : Holds (.nested t) t
  | item {vs : List LooseValue} {v : LooseValue} {t : LooseTemplate} (hv : v ∈ vs)
      (ht : Holds v t) : Holds (.sequence vs) t
  | hole {u : LooseTemplate} {v : LooseValue} {t : LooseTemplate} (hv : v ∈ u.values)
      (ht : Holds v t) : Holds (.nested u) t

mutual

/-- A value with the two lists of each template in it. -/
def Value.loose : Value → LooseValue
  | .empty => .empty
  | .nested t => .nested (.mk t.fragments t.looseValues)
  | .sequence vs => .sequence (Value.looses vs)
  | .scalar s => .scalar s

/-- The values of a template, each with the lists of the templates in it. -/
def Template.looseValues : Template → List LooseValue
  | .last _ => []
  | .hole _ v rest => v.loose :: rest.looseValues

/-- The same for the elements of a sequence. -/
def Value.looses : List Value → List LooseValue
  | [] => []
  | v :: vs => v.loose :: Value.looses vs

end

/-- The two lists of a template. -/
def Template.loose (t : Template) : LooseTemplate := .mk t.fragments t.looseValues

/-- The elements of a sequence are taken apart one by one. -/
theorem Value.looses_eq_map (vs : List Value) : Value.looses vs = vs.map Value.loose := by
  induction vs with
  | nil => rfl
  | cons v vs ih => rw [Value.looses, List.map_cons, ih]

/-- So are the values of a template. -/
theorem Template.looseValues_eq_map (t : Template) : t.looseValues = t.values.map Value.loose := by
  cases t with
  | last f => rfl
  | hole f v rest =>
    rw [Template.looseValues, Template.values, List.map_cons, Template.looseValues_eq_map rest]

/-! ### Each way to build a template has its counterpart -/

/-- A template that is written in the program becomes the lists that the
syntax gives. -/
theorem Template.loose_literal (first : String) (rest : List (Value × String)) :
    (Template.literal first rest).loose
      = LooseTemplate.ofLiteral first (rest.map fun p => (p.1.loose, p.2)) := by
  induction rest generalizing first with
  | nil => rfl
  | cons p rest ih =>
    obtain ⟨v, f⟩ := p
    -- The rest is a template of its own, with `f` as its first fragment.
    have hrest := ih f
    unfold Template.loose LooseTemplate.ofLiteral at hrest ⊢
    injection hrest with hfs hvs
    simp [Template.literal, Template.fragments, Template.looseValues, hfs, hvs]

/-- Lists whose lengths fit make a template with just these lists. -/
theorem Template.ofParts_of_length {fs : List String} {vs : List Value}
    (h : fs.length = vs.length + 1) :
    ∃ t, Template.ofParts fs vs = .ok t ∧ t.fragments = fs ∧ t.values = vs := by
  obtain ⟨t, hfs, hvs⟩ := Template.exists_of_length h
  exact ⟨t, Template.ofParts_eq_ok_iff.mpr ⟨hfs, hvs⟩, hfs, hvs⟩

/-- All other lists are refused, with their lengths. -/
theorem Template.ofParts_of_length_ne {fs : List String} {vs : List Value}
    (h : fs.length ≠ vs.length + 1) :
    Template.ofParts fs vs = .error ⟨fs.length, vs.length⟩ := by
  rw [← fault?_eq_some_iff, Template.fault?_ofParts, if_neg h]

/-- Checked lists become the lists that went in, and are refused alike. -/
theorem Template.loose_ofParts (fs : List String) (vs : List Value) :
    (Template.ofParts fs vs).map Template.loose
      = LooseTemplate.ofParts fs (vs.map Value.loose) := by
  unfold LooseTemplate.ofParts
  rw [List.length_map]
  -- Both checks compare the same two lengths.
  by_cases h : fs.length = vs.length + 1
  · obtain ⟨t, ht, rfl, rfl⟩ := Template.ofParts_of_length h
    rw [if_pos h, ht, ← t.looseValues_eq_map]
    rfl
  · rw [if_neg h, Template.ofParts_of_length_ne h]
    rfl

/-- A marked object is read to the same lists, and refused with the same
error. The values are given by what came of reading them. -/
theorem Template.loose_ofMembers (members : List (String × Json))
    (values : Except DecodeError (List Value)) :
    (Template.ofMembers members values).map Template.loose
      = LooseTemplate.ofMembers members (values.map (List.map Value.loose)) := by
  unfold Template.ofMembers LooseTemplate.ofMembers
  -- The two chains differ in their last step only.
  cases Json.fragmentsOf members with
  | error e => rfl
  | ok items =>
    cases Json.checkValues members with
    | error e => rfl
    | ok u =>
      show (items.mapM Json.fragmentText >>= _).map _ = items.mapM Json.fragmentText >>= _
      cases items.mapM Json.fragmentText with
      | error e => rfl
      | ok fs =>
        cases values with
        | error e => rfl
        | ok vs =>
          show ((Template.ofParts fs vs).mapError _).map _ = (LooseTemplate.ofParts fs _).mapError _
          rw [← Template.loose_ofParts]
          cases Template.ofParts fs vs <;> rfl

-- Reading loose values follows the same data, so the three statements are
-- proved along the three functions.
mutual

/-- Data is read to the same value, and refused with the same error. -/
theorem Value.loose_ofJson :
    (j : Json) → (Value.ofJson j).map Value.loose = LooseValue.ofJson j
  | .null => rfl
  | .bool _ => rfl
  | .number _ => rfl
  | .string _ => rfl
  | .array items => by
      rw [Value.ofJson, LooseValue.ofJson, ← Value.loose_ofJsons items]
      cases Value.ofJsons items with
      | error e => rfl
      | ok vs =>
        show Except.ok (LooseValue.sequence (Value.looses vs)) = _
        rw [Value.looses_eq_map]
        rfl
  | .object members => by
      rw [Value.ofJson, LooseValue.ofJson, ← Value.loose_ofValues members,
        ← Template.loose_ofMembers]
      cases Json.hasMarker members with
      | false => rfl
      | true =>
        show ((Template.ofMembers members _).map _).map _ = _
        cases Template.ofMembers members (Value.ofValues members) <;> rfl

/-- The same for the elements of an array. -/
theorem Value.loose_ofJsons :
    (js : List Json) → (Value.ofJsons js).map (List.map Value.loose) = LooseValue.ofJsons js
  | [] => rfl
  | j :: js => by
      rw [Value.ofJsons, LooseValue.ofJsons, ← Value.loose_ofJson j, ← Value.loose_ofJsons js]
      cases Value.ofJson j with
      | error e => rfl
      | ok v => cases Value.ofJsons js <;> rfl

/-- The same for the values among the members of a marked object. -/
theorem Value.loose_ofValues :
    (members : List (String × Json)) →
      (Value.ofValues members).map (List.map Value.loose) = LooseValue.ofValues members
  | [] => rfl
  | (k, j) :: ms => by
      unfold Value.ofValues LooseValue.ofValues
      by_cases hk : k = "values"
      · rw [if_pos hk, if_pos hk]
        cases j with
        | array items => exact Value.loose_ofJsons items
        | _ => rfl
      · rw [if_neg hk, if_neg hk]
        exact Value.loose_ofValues ms

end

/-- The same for data that has to be a template. -/
theorem Template.loose_ofJson (j : Json) :
    (Template.ofJson j).map Template.loose = LooseTemplate.ofJson j := by
  cases j with
  | object members =>
    rw [Template.ofJson, LooseTemplate.ofJson, ← Value.loose_ofValues, ← Template.loose_ofMembers]
    cases Json.hasMarker members <;> rfl
  | _ => rfl

/-! ### Counts of 64 bits -/

/-- Counts are compared like the numbers they stand for, unless the number
of values is the largest count. -/
theorem checkCounts_eq_ite {fragments values : UInt64} (h : values ≠ 0xffffffffffffffff) :
    checkCounts fragments values
      = if fragments.toNat = values.toNat + 1 then .ok ()
        else .error (.shape ⟨fragments.toNat, values.toNat⟩) := by
  have hlt : values.toNat + 1 < 0x10000000000000000 := by
    have hne : values.toNat ≠ 0xffffffffffffffff := fun heq => h (UInt64.toNat_inj.mp heq)
    have hbound := values.toNat_lt
    omega
  have hsuccessor : (values + 1).toNat = values.toNat + 1 :=
    (UInt64.toNat_add values 1).trans (Nat.mod_eq_of_lt hlt)
  rw [checkCounts, if_neg h]
  simp only [← UInt64.toNat_inj, hsuccessor]

/-- The check overflows exactly if no count is one more than the number of
values. -/
theorem checkCounts_eq_overflow_iff {fragments values : UInt64} :
    checkCounts fragments values = .error .overflow
      ↔ values.toNat + 1 = 0x10000000000000000 := by
  by_cases h : values = 0xffffffffffffffff
  · rw [checkCounts, if_pos h, h]
    exact ⟨fun _ => rfl, fun _ => rfl⟩
  · have hne : values.toNat ≠ 0xffffffffffffffff := fun heq => h (UInt64.toNat_inj.mp heq)
    rw [checkCounts_eq_ite h]
    refine ⟨fun hoverflow => ?_, fun heq => absurd (Nat.succ.inj heq) hne⟩
    split at hoverflow <;> cases hoverflow

/-- On lists whose lengths are counts, the check says what comes of
building a template from them. Fragments may be as many as a count can
say, and values one fewer. -/
theorem LooseTemplate.checkCounts_length {fs : List String} {vs : List LooseValue}
    (hfs : fs.length < 0x10000000000000000) (hvs : vs.length < 0xffffffffffffffff) :
    checkCounts (.ofNat fs.length) (.ofNat vs.length)
      = ((LooseTemplate.ofParts fs vs).map fun _ => ()).mapError .shape := by
  have hfragments : (UInt64.ofNat fs.length).toNat = fs.length :=
    UInt64.toNat_ofNat_of_lt' hfs
  have hvalues : (UInt64.ofNat vs.length).toNat = vs.length :=
    UInt64.toNat_ofNat_of_lt' (hvs.trans (by decide))
  have hne : UInt64.ofNat vs.length ≠ 0xffffffffffffffff := by
    intro heq
    rw [heq] at hvalues
    exact hvs.ne hvalues.symm
  rw [checkCounts_eq_ite hne, hfragments, hvalues, LooseTemplate.ofParts]
  split <;> rfl

/-- The same for the lists of a well-formed template. -/
theorem Template.checkCounts_length {fs : List String} {vs : List Value}
    (hfs : fs.length < 0x10000000000000000) (hvs : vs.length < 0xffffffffffffffff) :
    checkCounts (.ofNat fs.length) (.ofNat vs.length)
      = ((Template.ofParts fs vs).map fun _ => ()).mapError .shape := by
  have hlength : (vs.map Value.loose).length < 0xffffffffffffffff := by rwa [List.length_map]
  have hloose := LooseTemplate.checkCounts_length hfs hlength
  rw [List.length_map, ← Template.loose_ofParts] at hloose
  rw [hloose]
  cases Template.ofParts fs vs <;> rfl

/-! ### What a program can come by -/

-- One case for each way to come by a value or a template.
mutual

/-- A value that a program comes by is that of a `Value`. -/
theorem LooseValue.Obtainable.exists_loose :
    {v : LooseValue} → v.Obtainable → ∃ w : Value, w.loose = v
  | _, .empty => ⟨.empty, rfl⟩
  | _, .scalar s => ⟨.scalar s, rfl⟩
  | _, .nested ht => by
      obtain ⟨u, rfl⟩ := LooseTemplate.Obtainable.exists_loose ht
      exact ⟨.nested u, rfl⟩
  | _, .sequence hvs => by
      obtain ⟨ws, rfl⟩ : _ ∈ Set.range (List.map Value.loose) := by
        rw [Set.range_list_map]
        exact fun v hv => LooseValue.Obtainable.exists_loose (hvs v hv)
      exact ⟨.sequence ws, congrArg _ (Value.looses_eq_map ws)⟩
  | _, .ofJson hv => by
      rw [← Value.loose_ofJson] at hv
      obtain ⟨w, -, hw⟩ := map_eq_ok_iff.mp hv
      exact ⟨w, hw⟩

/-- A template that a program comes by has the lists of a `Template`. -/
theorem LooseTemplate.Obtainable.exists_loose :
    {t : LooseTemplate} → t.Obtainable → ∃ u : Template, u.loose = t
  | _, .ofLiteral first hrest => by
      obtain ⟨ps, rfl⟩ :
          _ ∈ Set.range (List.map fun p : Value × String => (p.1.loose, p.2)) := by
        rw [Set.range_list_map]
        intro p hp
        obtain ⟨w, hw⟩ := LooseValue.Obtainable.exists_loose (hrest p hp)
        exact ⟨(w, p.2), Prod.ext hw rfl⟩
      exact ⟨.literal first ps, Template.loose_literal first ps⟩
  | _, .ofParts hvs ht => by
      obtain ⟨ws, rfl⟩ : _ ∈ Set.range (List.map Value.loose) := by
        rw [Set.range_list_map]
        exact fun v hv => LooseValue.Obtainable.exists_loose (hvs v hv)
      rw [← Template.loose_ofParts] at ht
      obtain ⟨u, -, hu⟩ := map_eq_ok_iff.mp ht
      exact ⟨u, hu⟩
  | _, .ofJson ht => by
      rw [← Template.loose_ofJson] at ht
      obtain ⟨u, -, hu⟩ := map_eq_ok_iff.mp ht
      exact ⟨u, hu⟩

end

-- The other way round, the lists of a template can be checked at run time.
mutual

/-- A program can come by any `Value`, part by part. -/
theorem Value.obtainable_loose : (v : Value) → v.loose.Obtainable
  | .empty => .empty
  | .nested t => .nested (Template.obtainable_loose t)
  | .sequence vs => by
      rw [Value.loose, Value.looses_eq_map]
      exact .sequence (Value.obtainable_looses vs)
  | .scalar s => .scalar s

/-- It can come by any `Template`, because its lists pass the check. -/
theorem Template.obtainable_loose (t : Template) : t.loose.Obtainable := by
  have hparts : LooseTemplate.ofParts t.fragments t.looseValues = .ok t.loose := by
    rw [t.looseValues_eq_map, ← Template.loose_ofParts, Template.ofParts_eq_ok_iff.mpr ⟨rfl, rfl⟩]
    rfl
  exact .ofParts (Template.obtainable_looseValues t) hparts

/-- Each value of a template is one that a program can come by. -/
theorem Template.obtainable_looseValues :
    (t : Template) → ∀ v ∈ t.looseValues, v.Obtainable
  | .last _ => by simp [Template.looseValues]
  | .hole f v rest => by
      rw [Template.looseValues]
      exact List.forall_mem_cons.mpr
        ⟨Value.obtainable_loose v, Template.obtainable_looseValues rest⟩

/-- So is each element of a sequence. -/
theorem Value.obtainable_looses : (vs : List Value) → ∀ v ∈ vs.map Value.loose, v.Obtainable
  | [] => by simp
  | v :: vs => by
      rw [List.map_cons]
      exact List.forall_mem_cons.mpr ⟨Value.obtainable_loose v, Value.obtainable_looses vs⟩

end

/-- At any depth of the lists of a value, there is one more fragment than
values. -/
theorem LooseValue.Holds.length_fragments {v : LooseValue} {t : LooseTemplate} (h : v.Holds t)
    (w : Value) (hw : w.loose = v) : t.fragments.length = t.values.length + 1 := by
  induction h generalizing w with
  | self t =>
    cases w with
    | nested u =>
      cases hw
      -- These are the lists of `u`, and `u` is well-formed.
      show u.fragments.length = u.looseValues.length + 1
      rw [u.looseValues_eq_map, List.length_map, u.length_fragments]
    | _ => cases hw
  | item hv _ ih =>
    cases w with
    | sequence ws =>
      cases hw
      rw [Value.looses_eq_map] at hv
      obtain ⟨w, -, hw⟩ := List.mem_map.mp hv
      exact ih w hw
    | _ => cases hw
  | hole hv _ ih =>
    cases w with
    | nested u =>
      cases hw
      have hmem : _ ∈ u.looseValues := hv
      rw [u.looseValues_eq_map] at hmem
      obtain ⟨w, -, hw⟩ := List.mem_map.mp hmem
      exact ih w hw
    | _ => cases hw

/-! ### The loop over the fragments -/

/-- Goes through fragments in order, and after each of them to the value
with the same index, if there is one. -/
def walk {m : Type → Type} [Monad m] (onFragment : String → m Unit) (onValue : Value → m Unit)
    (fs : List String) (vs : List Value) : m Unit :=
  fs.zipIdx.forM fun p => do
    onFragment p.1
    (vs[p.2]?).elim (pure ()) onValue

section
variable {m : Type → Type} [Monad m] (onFragment : String → m Unit) (onValue : Value → m Unit)

/-- Without fragments, the loop comes to no value. -/
@[simp] theorem walk_nil (vs : List Value) : walk onFragment onValue [] vs = pure () := rfl

variable [LawfulMonad m]

/-- The first fragment has the first value. All others have one index
less when the two are gone. -/
theorem walk_cons (f : String) (fs : List String) (vs : List Value) :
    walk onFragment onValue (f :: fs) vs
      = (do onFragment f; vs.head?.elim (pure ()) onValue; walk onFragment onValue fs vs.tail) := by
  unfold walk
  rw [List.zipIdx_cons, List.zipIdx_succ]
  cases vs <;> simp

end

/-- Serializing goes through the fragments this way. -/
theorem Template.serializeInto_eq_walk (t : Template) (out : String) :
    t.serializeInto out =
      ((walk (m := StateM String) (fun f => modify fun out => out ++ f)
        (fun v => modify fun out => v.stringifyInto out) t.fragments t.values).run out).2 := by
  cases t with
  | last f => rfl
  | hole f v rest =>
    rw [Template.serializeInto, Template.serializeInto_eq_walk rest, Template.fragments,
      Template.values, walk_cons]
    rfl

/-- So does writing to a sink, which stops at the first error. -/
theorem Template.writeHtml_eq_walk (t : Template) :
    t.writeHtml = walk (fun f => Sink.writeAll (utf8 f)) Value.writeHtml t.fragments t.values := by
  cases t with
  | last f => simp [Template.writeHtml, Template.fragments, Template.values, walk_cons]
  | hole f v rest =>
    rw [Template.writeHtml, Template.writeHtml_eq_walk rest, Template.fragments,
      Template.values, walk_cons]
    rfl

/-- The values that the loop comes to, in order. -/
def visited (fs : List String) (vs : List Value) : List Value :=
  ((walk (m := StateM (List Value)) (fun _ => pure ()) (fun v => modify fun seen => seen ++ [v])
    fs vs).run []).2

/-- The loop comes to as many values as there are fragments, each of them
once, and to no value behind these. -/
theorem visited_eq_take (fs : List String) (vs : List Value) :
    visited fs vs = vs.take fs.length := by
  -- The values that were seen before stay in front.
  suffices h : ∀ seen : List Value,
      ((walk (m := StateM (List Value)) (fun _ => pure ()) (fun v => modify fun seen => seen ++ [v])
        fs vs).run seen).2 = seen ++ vs.take fs.length from h []
  induction fs generalizing vs with
  | nil =>
    intro seen
    exact (List.append_nil seen).symm
  | cons f fs ih =>
    intro seen
    rw [walk_cons]
    cases vs with
    | nil =>
      -- The values have run out, and the loop goes on without any.
      have hrest := ih [] seen
      simpa using hrest
    | cons v vs =>
      have hrest := ih vs (seen ++ [v])
      simpa using hrest

/-- On a template, the look-up fails at the last fragment only. -/
theorem Template.getElem?_values_eq_none_iff (t : Template) {i : Nat} (h : i < t.fragments.length) :
    t.values[i]? = none ↔ i + 1 = t.fragments.length := by
  have hlengths := t.length_fragments
  rw [List.getElem?_eq_none_iff]
  omega

/-- On a template, the loop comes to all values. -/
theorem Template.visited_eq_values (t : Template) : visited t.fragments t.values = t.values := by
  rw [visited_eq_take, List.take_of_length_le]
  have hlengths := t.length_fragments
  omega

/-! ### The main theorem -/

/-- A program comes by the loose lists of a template, and by no others.
So at any depth there is one more fragment than values, whichever way was
taken.

A template is made from lists at run time exactly if their lengths fit,
and it keeps them as they are. The error for other lists has the two
lengths.

The loops that serialize a template and that write it to a sink are the
same one. For each fragment it looks up the value with the same index.
The look-up fails at the last fragment only, and the loop comes to each
value once, in order. -/
theorem obtainable_iff_exists_loose :
    ((∀ t : LooseTemplate, t.Obtainable ↔ ∃ u : Template, u.loose = t) ∧
      (∀ v : LooseValue, v.Obtainable ↔ ∃ w : Value, w.loose = v) ∧
      (∀ v : LooseValue, v.Obtainable → ∀ t, v.Holds t →
        t.fragments.length = t.values.length + 1) ∧
      (∀ first rest, (Template.literal first rest).loose
        = LooseTemplate.ofLiteral first (rest.map fun p => (p.1.loose, p.2))) ∧
      (∀ fs vs, (Template.ofParts fs vs).map Template.loose
        = LooseTemplate.ofParts fs (vs.map Value.loose)) ∧
      (∀ j, (Value.ofJson j).map Value.loose = LooseValue.ofJson j) ∧
      ∀ j, (Template.ofJson j).map Template.loose = LooseTemplate.ofJson j) ∧
    (∀ fs vs, fs.length = vs.length + 1 →
      ∃ t, Template.ofParts fs vs = .ok t ∧ t.fragments = fs ∧ t.values = vs) ∧
    (∀ fs vs, fs.length ≠ vs.length + 1 →
      Template.ofParts fs vs = .error ⟨fs.length, vs.length⟩) ∧
    ∀ t : Template,
      (∀ out, t.serializeInto out =
        ((walk (m := StateM String) (fun f => modify fun out => out ++ f)
          (fun v => modify fun out => v.stringifyInto out) t.fragments t.values).run out).2) ∧
      t.writeHtml = walk (fun f => Sink.writeAll (utf8 f)) Value.writeHtml t.fragments t.values ∧
      (∀ i, i < t.fragments.length → (t.values[i]? = none ↔ i + 1 = t.fragments.length)) ∧
      visited t.fragments t.values = t.values := by
  have hvalue : ∀ v : LooseValue, v.Obtainable ↔ ∃ w : Value, w.loose = v := by
    intro v
    refine ⟨fun h => h.exists_loose, ?_⟩
    rintro ⟨w, rfl⟩
    exact w.obtainable_loose
  have htemplate : ∀ t : LooseTemplate, t.Obtainable ↔ ∃ u : Template, u.loose = t := by
    intro t
    refine ⟨fun h => h.exists_loose, ?_⟩
    rintro ⟨u, rfl⟩
    exact u.obtainable_loose
  refine ⟨⟨htemplate, hvalue, ?_, Template.loose_literal, Template.loose_ofParts,
    Value.loose_ofJson, Template.loose_ofJson⟩, ?_, ?_, ?_⟩
  · intro v h t ht
    obtain ⟨w, hw⟩ := (hvalue v).mp h
    exact ht.length_fragments w hw
  · intro fs vs h
    exact Template.ofParts_of_length h
  · intro fs vs h
    exact Template.ofParts_of_length_ne h
  · intro t
    refine ⟨t.serializeInto_eq_walk, t.writeHtml_eq_walk, ?_, t.visited_eq_values⟩
    intro i hi
    exact t.getElem?_values_eq_none_iff hi

/-- A template in a list in a template, two fragments with nothing in
between, and no lists at all. -/
theorem obtainable_iff_exists_loose_rule :
    (LooseTemplate.ofLiteral "<p>"
      [(.sequence [.nested (.mk ["<hr>"] [])], "</p>")]).Obtainable ∧
    ¬ (LooseTemplate.mk ["<p>", "</p>"] []).Obtainable ∧
    (∃ t, Template.ofParts ["<p>", "</p>"] [.text "'"] = .ok t ∧
      t.fragments = ["<p>", "</p>"] ∧ t.values = [.text "'"]) ∧
    Template.ofParts [] [] = .error ⟨0, 0⟩ := by
  obtain ⟨⟨htemplate, -, hshape, -⟩, hfit, hmisfit, -⟩ := obtainable_iff_exists_loose
  refine ⟨?_, ?_, hfit _ _ rfl, hmisfit _ _ (by decide)⟩
  · exact (htemplate _).mpr
      ⟨.literal "<p>" [(.sequence [.nested (.last "<hr>")], "</p>")], rfl⟩
  · intro h
    have hlengths := hshape (.nested _) (.nested h) _ (.self _)
    exact absurd hlengths (by decide)

end HtmlTemplate
