import HtmlTemplate.Json.Basic
import HtmlTemplate.Proofs.Json.Lexing

/-!
# `HtmlTemplate.Proofs.Json.Reading`: JSON data comes back from its text

The compact text of JSON data is read as the same data, unless it nests
too deep, and is refused then (`parse?_compact`). The steps of reading
are taken back one after the other.

* The tokens of a value can be told apart (`separated_tokensOnto`), so
  the lexer finds them.
* The machine that reads tokens builds the tree of the value
  (`foldlM_step?_tokensOnto`). `toTree` is this tree, word for word.
* The tree stands for the value (`ofTree?_toTree`).

An object that is read has its members in the order of their keys, each
key once. `IsSorted` data has this form everywhere, and no other data can
come back.
-/

set_option autoImplicit false

namespace HtmlTemplate.Json

mutual

/-- The tree of the compact text of a value. -/
def toTree : Json → Tree
  | .null => .null
  | .bool b => .bool b
  | .number n => .number n.literal
  | .string s => .string (pieces s)
  | .array items => .array (itemTrees items)
  | .object members => .object (memberTrees members)

/-- The trees of the items of an array. -/
def itemTrees : List Json → List Tree
  | [] => []
  | j :: js => j.toTree :: itemTrees js

/-- The trees of the members of an object, each with the pieces of its key.
-/
def memberTrees : List (String × Json) → List (List Piece × Tree)
  | [] => []
  | (k, j) :: ms => (pieces k, j.toTree) :: memberTrees ms

end

/-! ### The tokens of a value can be told apart -/

/-- A delimiter in front is enough. -/
theorem delimited_cons {t : Token} (ht : t.isDelimiter = true) (ts : List Token) :
    Delimited (t :: ts) := by
  intro u hu
  cases hu
  exact ht

/-- The items after the first one begin with a comma, or there are none. -/
theorem delimited_moreItemsOnto (js : List Json) {rest : List Token} (h : Delimited rest) :
    Delimited (moreItemsOnto js rest) := by
  cases js with
  | nil => exact h
  | cons j js => exact delimited_cons rfl _

/-- So do the members after the first one. -/
theorem delimited_moreMembersOnto (ms : List (String × Json)) {rest : List Token}
    (h : Delimited rest) : Delimited (moreMembersOnto ms rest) := by
  cases ms with
  | nil => exact h
  | cons m ms => exact delimited_cons rfl _

mutual

/-- A value in front of separated tokens that begin with a delimiter. -/
theorem separated_tokensOnto : (j : Json) → {rest : List Token} → Separated rest →
    Delimited rest → Separated (j.tokensOnto rest)
  | .null, _, hrest, _ => .fixed rfl hrest
  | .bool _, _, hrest, _ => .fixed rfl hrest
  | .number n, _, hrest, hend => .number n.isWritten_literal hend hrest
  | .string s, _, hrest, _ => .string s hrest
  | .array [], _, hrest, _ => .fixed rfl (.fixed rfl hrest)
  | .array (j :: js), rest, hrest, _ => by
      have hclose : Delimited (.closeArray :: rest) := delimited_cons rfl rest
      have hmore := separated_moreItemsOnto js (.fixed rfl hrest) hclose
      exact .fixed rfl (separated_tokensOnto j hmore (delimited_moreItemsOnto js hclose))
  | .object [], _, hrest, _ => .fixed rfl (.fixed rfl hrest)
  | .object ((k, j) :: ms), rest, hrest, _ => by
      have hclose : Delimited (.closeObject :: rest) := delimited_cons rfl rest
      have hmore := separated_moreMembersOnto ms (.fixed rfl hrest) hclose
      exact .fixed rfl (.string k (.fixed rfl
        (separated_tokensOnto j hmore (delimited_moreMembersOnto ms hclose))))

/-- The items of an array after its first one. -/
theorem separated_moreItemsOnto : (js : List Json) → {rest : List Token} → Separated rest →
    Delimited rest → Separated (moreItemsOnto js rest)
  | [], _, hrest, _ => hrest
  | j :: js, _, hrest, hend =>
      .fixed rfl (separated_tokensOnto j (separated_moreItemsOnto js hrest hend)
        (delimited_moreItemsOnto js hend))

/-- The members of an object after its first one. -/
theorem separated_moreMembersOnto : (ms : List (String × Json)) → {rest : List Token} →
    Separated rest → Delimited rest → Separated (moreMembersOnto ms rest)
  | [], _, hrest, _ => hrest
  | (k, j) :: ms, _, hrest, hend =>
      .fixed rfl (.string k (.fixed rfl (separated_tokensOnto j
        (separated_moreMembersOnto ms hrest hend) (delimited_moreMembersOnto ms hend))))

end

/-- The tokens of a value on its own. -/
theorem separated_tokens (j : Json) : Separated j.tokens := by
  refine separated_tokensOnto j .nil ?_
  intro t ht
  cases ht

/-! ### The machine builds the tree -/

/-- The first item of an array is read like any other value. -/
theorem foldlM_step?_first (j : Json) (rest : List Token) (stack : List Frame) :
    (j.tokensOnto rest).foldlM Reader.step? (.first stack)
      = (j.tokensOnto rest).foldlM Reader.step? (.value (.array [] :: stack)) := by
  cases j <;> rfl

-- In each of the three equations, the tokens after the value are free, and the
-- machine has the value at hand when it comes to them.
mutual

/-- The machine reads a value as its tree. -/
theorem foldlM_step?_tokensOnto : (j : Json) → (rest : List Token) → (stack : List Frame) →
    (j.tokensOnto rest).foldlM Reader.step? (.value stack)
      = rest.foldlM Reader.step? (.after j.toTree stack)
  | .null, _, _ => rfl
  | .bool _, _, _ => rfl
  | .number _, _, _ => rfl
  | .string _, _, _ => rfl
  | .array [], _, _ => rfl
  | .array (j :: js), rest, stack => by
      show (j.tokensOnto (moreItemsOnto js (.closeArray :: rest))).foldlM Reader.step?
        (.first stack) = _
      rw [foldlM_step?_first, foldlM_step?_tokensOnto j, foldlM_step?_moreItemsOnto js]
      rfl
  | .object [], _, _ => rfl
  | .object ((k, j) :: ms), rest, stack => by
      show (j.tokensOnto (moreMembersOnto ms (.closeObject :: rest))).foldlM Reader.step?
        (.value (.object [] (pieces k) :: stack)) = _
      rw [foldlM_step?_tokensOnto j, foldlM_step?_moreMembersOnto ms]
      rfl

/-- With one item at hand, it reads the others and closes the array. -/
theorem foldlM_step?_moreItemsOnto : (js : List Json) → (rest : List Token) → (t : Tree) →
    (items : List Tree) → (stack : List Frame) →
    (moreItemsOnto js (.closeArray :: rest)).foldlM Reader.step?
        (.after t (.array items :: stack))
      = rest.foldlM Reader.step? (.after (.array (items.reverse ++ t :: itemTrees js)) stack)
  | [], rest, t, items, stack => by
      show rest.foldlM Reader.step? (.after (.array (t :: items).reverse) stack) = _
      rw [List.reverse_cons]
      rfl
  | j :: js, rest, t, items, stack => by
      show (j.tokensOnto (moreItemsOnto js (.closeArray :: rest))).foldlM Reader.step?
        (.value (.array (t :: items) :: stack)) = _
      rw [foldlM_step?_tokensOnto j, foldlM_step?_moreItemsOnto js, List.reverse_cons,
        List.append_assoc]
      rfl

/-- With one member at hand, it reads the others and closes the object. -/
theorem foldlM_step?_moreMembersOnto : (ms : List (String × Json)) → (rest : List Token) →
    (t : Tree) → (members : List (List Piece × Tree)) → (key : List Piece) →
    (stack : List Frame) →
    (moreMembersOnto ms (.closeObject :: rest)).foldlM Reader.step?
        (.after t (.object members key :: stack))
      = rest.foldlM Reader.step?
        (.after (.object (members.reverse ++ (key, t) :: memberTrees ms)) stack)
  | [], rest, t, members, key, stack => by
      show rest.foldlM Reader.step? (.after (.object ((key, t) :: members).reverse) stack) = _
      rw [List.reverse_cons]
      rfl
  | (k, j) :: ms, rest, t, members, key, stack => by
      show (j.tokensOnto (moreMembersOnto ms (.closeObject :: rest))).foldlM Reader.step?
        (.value (.object ((key, t) :: members) (pieces k) :: stack)) = _
      rw [foldlM_step?_tokensOnto j, foldlM_step?_moreMembersOnto ms, List.reverse_cons,
        List.append_assoc]
      rfl

end

/-- The compact text of a value has the tree of the value. -/
theorem treeParse?_compact (j : Json) : Tree.parse? j.compact = some j.toTree := by
  have htokens : Tree.ofTokens? j.tokens = some j.toTree := by
    rw [Tree.ofTokens?, tokens, foldlM_step?_tokensOnto]
    rfl
  rw [Tree.parse?, compact, tokens?_compactText j.separated_tokens]
  exact htokens

/-! ### The tree stands for the value -/

/-- Data whose objects have their members in the order of the keys, each
key once. -/
inductive IsSorted : Json → Prop where
  | null : IsSorted .null
  | bool (b : Bool) : IsSorted (.bool b)
  | number (n : Number) : IsSorted (.number n)
  | string (s : String) : IsSorted (.string s)
  | array {items : List Json} (hitems : ∀ j ∈ items, IsSorted j) : IsSorted (.array items)
  | object {members : List (String × Json)} (hkeys : members.Pairwise fun m n => m.1 < n.1)
      (hmembers : ∀ m ∈ members, IsSorted m.2) : IsSorted (.object members)

/-- A key that comes after all others goes to the end. -/
theorem insertMember_of_last {key : String} {j : Json} {ms : List (String × Json)}
    (h : ∀ m ∈ ms, m.1 < key) : insertMember key j ms = ms ++ [(key, j)] := by
  induction ms with
  | nil => rfl
  | cons m ms ih =>
    -- The key passes by each member, one after the other.
    obtain ⟨k, i⟩ := m
    have hk : k < key := h (k, i) List.mem_cons_self
    have hne : ¬ key = k := by
      rintro rfl
      exact String.lt_irrefl _ hk
    rw [insertMember, if_neg hne, if_neg (String.lt_asymm hk),
      ih fun m hm => h m (List.mem_cons_of_mem _ hm)]
    rfl

/-- Members in the order of their keys stay as they are. -/
theorem sortMembers_of_pairwise {ms : List (String × Json)}
    (h : ms.Pairwise fun m n => m.1 < n.1) : sortMembers ms = ms := by
  -- The members that are sorted already come before those that are not.
  have hfold : ∀ sorted : List (String × Json), (∀ m ∈ sorted, ∀ n ∈ ms, m.1 < n.1) →
      ms.foldl (fun sorted m => insertMember m.1 m.2 sorted) sorted = sorted ++ ms := by
    induction h with
    | nil => intro sorted _; simp
    | @cons m ms hm hms ih =>
      intro sorted hsorted
      have hlast : insertMember m.1 m.2 sorted = sorted ++ [m] :=
        insertMember_of_last fun n hn => hsorted n hn m List.mem_cons_self
      rw [List.foldl_cons, hlast, ih]
      · simp
      · intro n hn o ho
        rcases List.mem_append.mp hn with hn | hn
        · exact hsorted n hn o (List.mem_cons_of_mem m ho)
        · cases List.mem_singleton.mp hn
          exact hm o ho
  exact hfold [] (by simp)

mutual

/-- The tree of sorted data stands for the data. -/
theorem ofTree?_toTree : (j : Json) → j.IsSorted → ofTree? j.toTree = some j
  | .null, _ => rfl
  | .bool _, _ => rfl
  | .number n, _ => by
      rw [toTree, ofTree?, n.number?_literal]
      rfl
  | .string s, _ => by
      rw [toTree, ofTree?, decode?_pieces]
      rfl
  | .array items, h => by
      cases h with
      | array hitems =>
        rw [toTree, ofTree?, ofTrees?_itemTrees items hitems]
        rfl
  | .object members, h => by
      cases h with
      | object hkeys hmembers =>
        rw [toTree, ofTree?, ofMembers?_memberTrees members hmembers]
        show some (Json.object (sortMembers members)) = _
        rw [sortMembers_of_pairwise hkeys]

/-- The trees of sorted items stand for the items. -/
theorem ofTrees?_itemTrees : (js : List Json) → (∀ j ∈ js, j.IsSorted) →
    ofTrees? (itemTrees js) = some js
  | [], _ => rfl
  | j :: js, h => by
      rw [itemTrees, ofTrees?, ofTree?_toTree j (h j List.mem_cons_self),
        ofTrees?_itemTrees js fun k hk => h k (List.mem_cons_of_mem j hk)]
      rfl

/-- The trees of members stand for the members, with the keys that were
written. -/
theorem ofMembers?_memberTrees : (ms : List (String × Json)) → (∀ m ∈ ms, m.2.IsSorted) →
    ofMembers? (memberTrees ms) = some ms
  | [], _ => rfl
  | (k, j) :: ms, h => by
      rw [memberTrees, ofMembers?, decode?_pieces, ofTree?_toTree j (h (k, j) List.mem_cons_self),
        ofMembers?_memberTrees ms fun m hm => h m (List.mem_cons_of_mem _ hm)]
      rfl

end

/-! ### The text of a value -/

/-- How many arrays and objects are open at once at the deepest point of
the text of a value. -/
def depth (j : Json) : Nat := j.toTree.depth

/-- The compact text of sorted data is read as the data, or refused if it
nests too deep. -/
theorem parse?_compact {j : Json} (h : j.IsSorted) :
    parse? j.compact = if j.depth ≤ maxDepth then some j else none := by
  rw [parse?, treeParse?_compact]
  -- The depth is looked at before the tree is read as data.
  show Option.bind (if j.depth ≤ maxDepth then some () else none) (fun _ => ofTree? j.toTree) = _
  rw [ofTree?_toTree j h]
  by_cases hdepth : j.depth ≤ maxDepth
  · rw [if_pos hdepth, if_pos hdepth]
    rfl
  · rw [if_neg hdepth, if_neg hdepth]
    rfl

end HtmlTemplate.Json
