import HtmlTemplate.Proofs.Streaming

/-!
# `HtmlTemplate.Proofs.Substitution`: all ways to escape agree

There are three ways to escape: appending to a buffer (`escapeInto`), a
text of its own (`escape`), and a stream of bytes (`writeEscaped`). The
main theorem, `escapers_agree`, compares them with one definition that
knows nothing of scans: each of the five `specials` is replaced by its
entity, and every other character stays.

* Appending and escaping never cut a character in two, so both always
  give a result.
* A text is returned as it is exactly if it has no special character.
  Escaping it has no effect then, and neither has escaping it again.
* On bytes, escaping is substitution byte by byte. It works piece by
  piece, also if a piece ends inside a character.

Escaping a text with a special character is always seen: the text becomes
longer (`length_lt_length_escape`), and it has an `&` afterwards.
-/

set_option autoImplicit false

namespace HtmlTemplate

/-! ### The special characters -/

/-- The five characters that have an entity, in the order of `entities`. -/
def specials : String := "&<>\"'"

/-- There is an entity for each special character, and for no other one. -/
theorem entity?_eq_none_iff {c : Char} : entity? c = none ↔ c ∉ specials.toList := by
  unfold entity?
  split
  case h_6 hamp hlt hgt hquot hapos =>
    have hc : c ∉ ['&', '<', '>', '"', '\''] := by
      simp only [List.mem_cons, List.not_mem_nil, or_false, not_or]
      exact ⟨hamp, hlt, hgt, hquot, hapos⟩
    exact iff_of_true rfl hc
  all_goals exact iff_of_false nofun (by decide)

/-- Each special character is replaced by its entity. -/
theorem map_escapeChar_specials : specials.toList.map escapeChar = entities.map String.toList := by
  decide

/-- Every other character stays. -/
theorem escapeChar_of_not_mem {c : Char} (hc : c ∉ specials.toList) : escapeChar c = [c] := by
  rw [escapeChar, entity?_eq_none_iff.mpr hc]
  rfl

/-- A special character is replaced by an `&` and more. -/
theorem exists_escapeChar_eq_cons {c : Char} (hc : c ∈ specials.toList) :
    ∃ d ds, escapeChar c = '&' :: d :: ds := by
  have hmem : escapeChar c ∈ entities.map String.toList := by
    rw [← map_escapeChar_specials]
    exact List.mem_map_of_mem hc
  have hall : ∀ cs ∈ entities.map String.toList, ∃ d ds, cs = '&' :: d :: ds := by
    simp [entities]
  exact hall _ hmem

/-! ### Texts that stay as they are -/

/-- Escaping makes no text shorter, because nothing is dropped. -/
theorem length_le_length_flatMap_escapeChar (cs : List Char) :
    cs.length ≤ (cs.flatMap escapeChar).length := by
  induction cs with
  | nil => exact Nat.le_refl 0
  | cons c cs ih =>
    have hpos : 0 < (escapeChar c).length := by
      by_cases hc : c ∈ specials.toList
      · obtain ⟨d, ds, hds⟩ := exists_escapeChar_eq_cons hc
        rw [hds]
        exact Nat.succ_pos _
      · rw [escapeChar_of_not_mem hc]
        exact Nat.one_pos
    rw [List.flatMap_cons, List.length_append, List.length_cons]
    omega

/-- Escaping makes a text longer if there is something to escape. -/
theorem length_lt_length_escape {text : String} {c : Char} (hmem : c ∈ text.toList)
    (hc : c ∈ specials.toList) : text.length < (escape text).length := by
  obtain ⟨before, after, hsplit⟩ := List.append_of_mem hmem
  obtain ⟨d, ds, hds⟩ := exists_escapeChar_eq_cons hc
  have hbefore := length_le_length_flatMap_escapeChar before
  have hafter := length_le_length_flatMap_escapeChar after
  rw [← String.length_toList, ← String.length_toList, toList_escape, hsplit, List.flatMap_append,
    List.flatMap_cons, hds]
  simp only [List.length_append, List.length_cons]
  omega

/-- A text without special characters stays as it is, and no other one does.
-/
theorem escape_eq_self_iff {text : String} :
    escape text = text ↔ ∀ c ∈ text.toList, c ∉ specials.toList := by
  constructor
  · intro h c hmem hc
    have hlt := length_lt_length_escape hmem hc
    rw [h] at hlt
    exact Nat.lt_irrefl _ hlt
  · intro h
    rw [escape_eq_substitute]
    exact substitute_of_plain fun c hc => entity?_eq_none_iff.mpr (h c hc)

/-- A text with something to escape still has it afterwards, because every
entity begins with `&`. -/
theorem escape_escape_eq_iff {text : String} :
    escape (escape text) = escape text ↔ ∀ c ∈ text.toList, c ∉ specials.toList := by
  rw [escape_eq_self_iff]
  constructor
  · intro h c hmem hc
    obtain ⟨d, ds, hds⟩ := exists_escapeChar_eq_cons hc
    have hamp : '&' ∈ (escape text).toList := by
      rw [toList_escape, List.mem_flatMap]
      exact ⟨c, hmem, by simp [hds]⟩
    exact h '&' hamp (by decide)
  · intro h
    rwa [escape_eq_self_iff.mpr h]

/-- There is nothing to replace exactly if there is no special character. -/
theorem escape?_eq_none_iff {text : String} :
    escape? text = none ↔ ∀ c ∈ text.toList, c ∉ specials.toList := by
  have hscan : escape? text = _ := Option.get_of_eq_some _ (scan?_eq_some text)
  rw [hscan]
  simp [← Option.isNone_iff_eq_none, ← entity?_eq_none_iff]

/-! ### Slices -/

/-- A part of a text can be cut out exactly if it begins and ends between
characters. -/
theorem isSome_slice?_iff {text : String} {first last : Nat} :
    (slice? text first last).isSome ↔ String.Pos.Raw.IsValid text ⟨first⟩ ∧
      String.Pos.Raw.IsValid text ⟨last⟩ ∧ first ≤ last := by
  unfold slice?
  split
  case isTrue h => exact iff_of_true rfl h
  case isFalse h => exact iff_of_false nofun h

/-! ### The special bytes -/

/-- Each special byte is replaced by the bytes of its entity. -/
theorem map_escapeByte_specials : (utf8 specials).map escapeByte = entities.map utf8 := by
  decide

/-- A byte that is none of the special characters stays, also if it is no
text. -/
theorem escapeByte_of_not_mem {b : UInt8} (hb : b ∉ utf8 specials) : escapeByte b = [b] := by
  have hlt : b.toNat < 256 := b.toNat_lt
  have hvalid : b.toNat.isValidChar := Or.inl (by omega)
  have hchar : (Char.ofNat b.toNat).toNat = b.toNat := by
    rw [Char.ofNat, dif_pos hvalid]
    rfl
  -- The special characters are in ASCII, so each of them is its own byte.
  have hbytes : specials.toList.map (fun c => UInt8.ofNat c.toNat) = utf8 specials := by decide
  have hentity : byteEntity? b = none := by
    rw [byteEntity?, entity?_eq_none_iff]
    intro hc
    have hmem := List.mem_map_of_mem hc (f := fun c => UInt8.ofNat c.toNat)
    rw [hbytes, hchar, UInt8.ofNat_toNat] at hmem
    exact hb hmem
  rw [escapeByte, hentity]
  rfl

/-! ### The main theorem -/

/-- Escaping replaces each special character by its entity and nothing
else, in all three forms. The scans behind the first two cut between
characters only, so they always give a result. A text is returned as it is
exactly if it has no special character, and this is also when escaping it,
or escaping it again, changes nothing. A stream takes any bytes, and may
be cut into parts anywhere. -/
theorem escapers_agree :
    (specials.toList.map escapeChar = entities.map String.toList ∧
      ∀ c, c ∉ specials.toList → escapeChar c = [c]) ∧
    ((utf8 specials).map escapeByte = entities.map utf8 ∧
      ∀ b, b ∉ utf8 specials → escapeByte b = [b]) ∧
    (∀ (text : String) (first last : Nat), (slice? text first last).isSome ↔
      String.Pos.Raw.IsValid text ⟨first⟩ ∧ String.Pos.Raw.IsValid text ⟨last⟩ ∧ first ≤ last) ∧
    (∀ out text : String, scanInto? out text = some (escapeInto out text) ∧
      escapeInto out text = out ++ String.ofList (text.toList.flatMap escapeChar)) ∧
    (∀ text : String, scan? text = some (escape? text) ∧
      escape text = String.ofList (text.toList.flatMap escapeChar) ∧
      (∀ escaped, escape? text = some escaped → escape text = escaped) ∧
      (escape? text = none ↔ ∀ c ∈ text.toList, c ∉ specials.toList) ∧
      (escape? text = none ↔ escape text = text) ∧
      (escape? text = none ↔ escape (escape text) = escape text)) ∧
    (∀ bytes : List UInt8, Delivers (writeEscaped bytes) (bytes.flatMap escapeByte)) ∧
    (∀ text : String, Delivers (writeEscaped (utf8 text)) (utf8 (escape text))) ∧
    (∀ front back : List UInt8,
      escapeBytes (front ++ back) = escapeBytes front ++ escapeBytes back ∧
      writeEscaped (front ++ back) = (do writeEscaped front; writeEscaped back)) := by
  refine ⟨⟨map_escapeChar_specials, fun _ => escapeChar_of_not_mem⟩,
    ⟨map_escapeByte_specials, fun _ => escapeByte_of_not_mem⟩, fun _ _ _ => isSome_slice?_iff,
    ?_, ?_, ?_, ?_, ?_⟩
  · intro out text
    exact ⟨(Option.some_get _).symm, escapeInto_eq_append_substitute out text⟩
  · intro text
    refine ⟨(Option.some_get _).symm, escape_eq_substitute text, ?_, escape?_eq_none_iff,
      escape?_eq_none_iff.trans escape_eq_self_iff.symm,
      escape?_eq_none_iff.trans escape_escape_eq_iff.symm⟩
    intro escaped h
    rw [escape, h, Option.getD_some]
  · intro bytes
    rw [writeEscaped_eq_deliver]
    exact delivers_deliver _
  · intro text
    rw [writeEscaped_eq_deliver, ← utf8_escape]
    exact delivers_deliver _
  · intro front back
    have happend : escapeBytes (front ++ back) = escapeBytes front ++ escapeBytes back :=
      List.flatMap_append
    refine ⟨happend, ?_⟩
    rw [writeEscaped_eq_deliver, writeEscaped_eq_deliver, writeEscaped_eq_deliver, happend,
      deliver_bind]

/-- A text with one special character behind a character of two bytes. As
bytes it is cut between these two. -/
theorem escapers_agree_cut :
    'ä' ∉ specials.toList ∧ escapeChar 'ä' = ['ä'] ∧
    0xc3 ∉ utf8 specials ∧ escapeByte 0xc3 = [0xc3] ∧
    (∃ escaped, escape? "ä<" = some escaped ∧ escape "ä<" = escaped) ∧
    escape "ä<" = "ä&lt;" ∧ utf8 "ä<" = [0xc3] ++ [0xa4, 0x3c] ∧
    writeEscaped (utf8 "ä<") = (do writeEscaped [0xc3]; writeEscaped [0xa4, 0x3c]) := by
  obtain ⟨⟨-, hchar⟩, ⟨-, hbyte⟩, -, -, htext, -, -, hcut⟩ := escapers_agree
  obtain ⟨-, hescape, hsome, hnone, -, -⟩ := htext "ä<"
  have hmem : 'ä' ∉ specials.toList := by decide
  have hbmem : 0xc3 ∉ utf8 specials := by decide
  have hbytes : utf8 "ä<" = [0xc3] ++ [0xa4, 0x3c] := by decide
  refine ⟨hmem, hchar _ hmem, hbmem, hbyte _ hbmem, ?_, hescape, hbytes, ?_⟩
  · cases h : escape? "ä<" with
    | none => exact absurd (by decide) (hnone.mp h '<' (by decide))
    | some escaped => exact ⟨escaped, rfl, hsome _ h⟩
  · rw [hbytes]
    exact (hcut [0xc3] [0xa4, 0x3c]).2

end HtmlTemplate
