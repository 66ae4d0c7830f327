import HtmlTemplate.Escape.Scan

/-!
# `HtmlTemplate.Escape.Total`: a scan replaces the special characters

The scan over the bytes of a text never cuts a character in two, and
what it appends is the text with an entity in place of each special
character (`substitute`).

* `scanInto?_eq_some` is this statement for the scan of a whole text.
* `scan?_eq_some` is the one for the scan that begins at the first
  special character.

The scan works with numbers of bytes. Its invariant (`scanFrom?_append`)
gives these numbers a meaning: the text is `before ++ plain ++ rest`,
where `before` is in the output already and `rest` is not scanned yet.
The byte at which the scan cuts is that of an ASCII character
(`byteEntity?_of_mem`), so it is at the start of `rest`.
-/

set_option autoImplicit false

namespace HtmlTemplate

/-! ### The text with its entities -/

/-- The characters that stand for `c` in an escaped text. -/
def escapeChar (c : Char) : List Char := (entity? c).elim [c] String.toList

/-- The text with its entity in place of each special character. -/
def substitute (text : String) : String := String.ofList (text.toList.flatMap escapeChar)

/-- An empty text stays empty. -/
@[simp] theorem substitute_empty : substitute "" = "" := by simp [substitute]

/-- Each character is replaced on its own, so texts can be escaped part by
part. -/
@[simp] theorem substitute_append (s t : String) :
    substitute (s ++ t) = substitute s ++ substitute t := by
  simp [substitute]

/-- A text without special characters stays as it is. -/
theorem substitute_of_plain {text : String} (h : ∀ c ∈ text.toList, entity? c = none) :
    substitute text = text := by
  have hself : ∀ cs : List Char, (∀ c ∈ cs, entity? c = none) → cs.flatMap escapeChar = cs := by
    intro cs hcs
    induction cs with
    | nil => rfl
    | cons c cs ih =>
      rw [List.flatMap_cons, ih fun d hd => hcs d (List.mem_cons_of_mem c hd), escapeChar,
        hcs c List.mem_cons_self]
      rfl
  rw [substitute, hself _ h, String.ofList_toList]

/-! ### The bytes of a text -/

/-- The bytes of a text are those of its characters. -/
theorem utf8_eq_flatMap (text : String) :
    utf8 text = text.toList.flatMap String.utf8EncodeChar := by
  rw [utf8, ← String.utf8Encode_toList, List.utf8Encode]
  simp

/-- An empty text has no bytes. -/
@[simp] theorem utf8_empty : utf8 "" = [] := by simp [utf8_eq_flatMap]

/-- The bytes of two texts one after the other. -/
@[simp] theorem utf8_append (s t : String) : utf8 (s ++ t) = utf8 s ++ utf8 t := by
  simp [utf8_eq_flatMap]

/-- The bytes of a text with one character. -/
@[simp] theorem utf8_singleton (c : Char) :
    utf8 (String.singleton c) = String.utf8EncodeChar c := by
  simp [utf8_eq_flatMap]

/-- The number of bytes is the length that the text reports. -/
@[simp] theorem length_utf8 (text : String) : (utf8 text).length = text.utf8ByteSize := by
  rw [utf8, Array.length_toList]
  rfl

/-- The part between two others is cut out by the numbers of bytes. -/
theorem slice?_eq_some {text before part after : String} {first last : Nat}
    (htext : text = before ++ part ++ after) (hfirst : first = before.utf8ByteSize)
    (hlast : last = (before ++ part).utf8ByteSize) : slice? text first last = some part := by
  subst htext hfirst hlast
  have hfirst : String.Pos.Raw.IsValid (before ++ part ++ after) ⟨before.utf8ByteSize⟩ :=
    (String.Pos.Raw.isValid_rawEndPos.append_right part).append_right after
  have hlast : String.Pos.Raw.IsValid (before ++ part ++ after) ⟨(before ++ part).utf8ByteSize⟩ :=
    String.Pos.Raw.isValid_rawEndPos.append_right after
  have hle : before.utf8ByteSize ≤ (before ++ part).utf8ByteSize := by
    rw [String.utf8ByteSize_append]
    omega
  rw [slice?, dif_pos ⟨hfirst, hlast, hle⟩]
  congr 1
  -- Both cuts are between characters, so the bytes in between are those of `part`.
  have hstart : before.utf8ByteSize = before.toByteArray.size + 0 := rfl
  have hstop : (before ++ part).utf8ByteSize = before.toByteArray.size + part.toByteArray.size :=
    String.utf8ByteSize_append
  rw [← String.toByteArray_inj, String.toByteArray_extract, String.offset_pos, String.offset_pos,
    String.toByteArray_append, String.toByteArray_append, ByteArray.append_assoc, hstart, hstop,
    ByteArray.extract_append_size_add, ByteArray.extract_append_eq_left rfl]

/-! ### The bytes of a character -/

/-- The bytes of a character outside of ASCII are all outside of ASCII. -/
theorem le_toNat_of_mem_utf8EncodeChar {c : Char} (hc : 0x80 ≤ c.toNat) {b : UInt8}
    (hb : b ∈ String.utf8EncodeChar c) : 0x80 ≤ b.toNat := by
  have hval : c.val.toNat = c.toNat := rfl
  unfold String.utf8EncodeChar at hb
  simp only [hval, if_neg (by omega : ¬ c.toNat ≤ 0x7f)] at hb
  -- Two, three or four bytes, each with its highest bit set.
  split at hb
  · simp only [List.mem_cons, List.not_mem_nil, or_false] at hb
    rcases hb with rfl | rfl <;> simp only [UInt8.toNat_ofNat'] <;> omega
  · split at hb
    · simp only [List.mem_cons, List.not_mem_nil, or_false] at hb
      rcases hb with rfl | rfl | rfl <;> simp only [UInt8.toNat_ofNat'] <;> omega
    · simp only [List.mem_cons, List.not_mem_nil, or_false] at hb
      rcases hb with rfl | rfl | rfl | rfl <;> simp only [UInt8.toNat_ofNat'] <;> omega

/-- The special characters are in ASCII. -/
theorem entity?_of_not_ascii {c : Char} (hc : 0x80 ≤ c.toNat) : entity? c = none := by
  unfold entity?
  split
  case h_6 => rfl
  all_goals exact absurd hc (by decide)

/-- So are the special bytes. -/
theorem byteEntity?_of_not_ascii {b : UInt8} (hb : 0x80 ≤ b.toNat) : byteEntity? b = none := by
  have hlt : b.toNat < 256 := b.toNat_lt
  -- Below the surrogates, a number is the code point of its character.
  have hvalid : b.toNat.isValidChar := Or.inl (by omega)
  have hchar : (Char.ofNat b.toNat).toNat = b.toNat := by
    rw [Char.ofNat, dif_pos hvalid]
    rfl
  exact entity?_of_not_ascii (by omega)

/-- An ASCII character is one byte, and the byte has the entity of the
character. -/
theorem utf8EncodeChar_of_ascii {c : Char} (hc : c.toNat < 0x80) :
    ∃ b, String.utf8EncodeChar c = [b] ∧ byteEntity? b = entity? c := by
  have hval : c.val.toNat = c.toNat := rfl
  have hnat : (UInt8.ofNat c.toNat).toNat = c.toNat := by
    rw [UInt8.toNat_ofNat']
    omega
  refine ⟨UInt8.ofNat c.toNat, ?_, ?_⟩
  · unfold String.utf8EncodeChar
    simp only [hval, if_pos (by omega : c.toNat ≤ 0x7f)]
  · rw [byteEntity?, hnat, Char.ofNat_toNat]

/-- A special character is one byte, with the same entity. -/
theorem utf8EncodeChar_of_entity {c : Char} {entity : String} (hc : entity? c = some entity) :
    ∃ b, String.utf8EncodeChar c = [b] ∧ byteEntity? b = some entity := by
  rw [← hc]
  refine utf8EncodeChar_of_ascii ?_
  rw [← Nat.not_le]
  intro hle
  rw [entity?_of_not_ascii hle] at hc
  cases hc

/-- No byte of a character that is not special has an entity. -/
theorem byteEntity?_of_mem {c : Char} (hc : entity? c = none) {b : UInt8}
    (hb : b ∈ String.utf8EncodeChar c) : byteEntity? b = none := by
  rcases Nat.lt_or_ge c.toNat 0x80 with hascii | hascii
  · obtain ⟨d, hd, hentity⟩ := utf8EncodeChar_of_ascii hascii
    rw [hd, List.mem_singleton] at hb
    rw [hb, hentity, hc]
  · exact byteEntity?_of_not_ascii (le_toNat_of_mem_utf8EncodeChar hascii hb)

/-! ### The scan -/

/-- The scan passes over bytes without an entity. -/
theorem scanFrom?_skip (text out : String) (done i : Nat) {plain : List UInt8}
    (hplain : ∀ b ∈ plain, byteEntity? b = none) (bs : List UInt8) :
    scanFrom? text out done i (plain ++ bs) = scanFrom? text out done (i + plain.length) bs := by
  induction plain generalizing i with
  | nil => rfl
  | cons b plain ih =>
    rw [List.cons_append, scanFrom?, hplain b List.mem_cons_self]
    -- The index goes on, and `done` stays behind.
    show scanFrom? text out done (i + 1) (plain ++ bs) = _
    rw [ih (i + 1) fun d hd => hplain d (List.mem_cons_of_mem b hd), List.length_cons]
    congr 1
    omega

/-- The scan of `rest`, after `before` has been copied and `plain` has
been passed over. The induction is on the characters of `rest`. -/
theorem scanFrom?_append {text out before plain rest : String} {done i : Nat}
    (htext : text = before ++ plain ++ rest) (hdone : done = before.utf8ByteSize)
    (hi : i = (before ++ plain).utf8ByteSize) :
    scanFrom? text out done i (utf8 rest) = some (out ++ plain ++ substitute rest) := by
  obtain ⟨cs, rfl⟩ := rest.exists_eq_ofList
  induction cs generalizing out before plain done i with
  | nil =>
    have hend : text.utf8ByteSize = i := by
      rw [htext, hi, String.ofList_nil, String.append_empty]
    rw [String.ofList_nil, utf8_empty, scanFrom?, hend, slice?_eq_some htext hdone hi,
      substitute_empty, String.append_empty]
    rfl
  | cons c cs ih =>
    have hcut : slice? text done i = some plain := slice?_eq_some htext hdone hi
    have hnext : text = before ++ (plain ++ String.singleton c) ++ String.ofList cs := by
      rw [htext, String.ofList_cons]
      simp only [String.append_assoc]
    have hlength : i + (String.utf8EncodeChar c).length
        = (before ++ (plain ++ String.singleton c)).utf8ByteSize := by
      simp [hi, Nat.add_assoc]
    rw [String.ofList_cons, utf8_append, utf8_singleton, substitute_append]
    cases hc : entity? c with
    | none =>
      -- `c` joins what the scan has passed over.
      have hself : substitute (String.singleton c) = String.singleton c :=
        substitute_of_plain (by simpa using hc)
      rw [scanFrom?_skip _ _ _ _ fun b hb => byteEntity?_of_mem hc hb,
        ih hdone hlength hnext, hself]
      simp only [String.append_assoc]
    | some entity =>
      -- `c` is one byte, and the scan cuts in front of it and after it.
      obtain ⟨b, hb, hentity⟩ := utf8EncodeChar_of_entity hc
      have hsubstitute : substitute (String.singleton c) = entity := by
        simp [substitute, escapeChar, hc]
      have hdone' : i + 1 = (before ++ (plain ++ String.singleton c)).utf8ByteSize := by
        rw [← hlength, hb]
        rfl
      have hi' : i + 1 = (before ++ (plain ++ String.singleton c) ++ "").utf8ByteSize := by
        rw [hdone', String.append_empty]
      have htext' : text = before ++ (plain ++ String.singleton c) ++ "" ++ String.ofList cs := by
        rw [hnext, String.append_empty]
      rw [hb, List.singleton_append, scanFrom?, hentity, hcut, hsubstitute]
      show scanFrom? text (out ++ plain ++ entity) (i + 1) (i + 1) (utf8 (String.ofList cs)) = _
      rw [ih hdone' hi' htext']
      simp only [String.append_assoc, String.empty_append]

/-- The scan of a whole text appends the text with its entities. -/
theorem scanInto?_eq_some (out text : String) :
    scanInto? out text = some (out ++ substitute text) := by
  have htext : text = "" ++ "" ++ text := by simp
  have hscan : scanFrom? text out 0 0 (utf8 text) = some (out ++ "" ++ substitute text) :=
    scanFrom?_append htext rfl rfl
  rw [scanInto?, hscan, String.append_empty]

/-- The special characters begin at the first one. -/
theorem exists_of_find?_eq_some {text : String} {c : Char}
    (h : text.toList.find? (fun c => (entity? c).isSome) = some c) :
    ∃ plain rest : String, text = plain ++ (String.singleton c ++ rest) ∧
      (∀ d ∈ plain.toList, entity? d = none) ∧ (entity? c).isSome := by
  obtain ⟨hc, before, after, hsplit, hbefore⟩ := List.find?_eq_some_iff_append.mp h
  refine ⟨String.ofList before, String.ofList after, ?_, ?_, hc⟩
  · rw [← String.toList_inj, hsplit]
    simp
  · intro d hd
    rw [String.toList_ofList] at hd
    simpa using hbefore d hd

/-- A text without special characters has no special byte. -/
theorem findIdx?_utf8_of_plain {text : String} (h : ∀ c ∈ text.toList, entity? c = none) :
    (utf8 text).findIdx? (fun b => (byteEntity? b).isSome) = none := by
  rw [List.findIdx?_eq_none_iff]
  intro b hb
  rw [utf8_eq_flatMap, List.mem_flatMap] at hb
  obtain ⟨c, hc, hb⟩ := hb
  rw [byteEntity?_of_mem (h c hc) hb]
  rfl

/-- The first special byte is that of the first special character. -/
theorem findIdx?_utf8_append {plain rest : String} {c : Char}
    (hplain : ∀ d ∈ plain.toList, entity? d = none) (hc : (entity? c).isSome) :
    (utf8 (plain ++ (String.singleton c ++ rest))).findIdx? (fun b => (byteEntity? b).isSome)
      = some plain.utf8ByteSize := by
  obtain ⟨entity, hentity⟩ := Option.isSome_iff_exists.mp hc
  obtain ⟨b, hb, hbyte⟩ := utf8EncodeChar_of_entity hentity
  rw [utf8_append, utf8_append, utf8_singleton, hb, List.findIdx?_append,
    findIdx?_utf8_of_plain hplain, List.singleton_append, List.findIdx?_cons, hbyte, length_utf8]
  simp

/-- The scan that begins at the first special character gives the text
with its entities, and nothing if there is no special character. -/
theorem scan?_eq_some (text : String) :
    scan? text =
      some (if text.toList.any (fun c => (entity? c).isSome) then some (substitute text)
        else none) := by
  unfold scan?
  cases h : text.toList.find? (fun c => (entity? c).isSome) with
  | none =>
    -- No special character, so no special byte.
    have hplain : ∀ c ∈ text.toList, entity? c = none := by simpa using h
    rw [findIdx?_utf8_of_plain hplain, if_neg (by simpa using hplain)]
  | some c =>
    obtain ⟨plain, rest, rfl, hplain, hc⟩ := exists_of_find?_eq_some h
    have hany : (plain ++ (String.singleton c ++ rest)).toList.any
        (fun c => (entity? c).isSome) = true := by
      simp [hc]
    -- The text is cut in two in front of `c`.
    have hfront : slice? (plain ++ (String.singleton c ++ rest)) 0 plain.utf8ByteSize
        = some plain := by
      have hsplit : plain ++ (String.singleton c ++ rest)
          = "" ++ plain ++ (String.singleton c ++ rest) := by rw [String.empty_append]
      exact slice?_eq_some hsplit rfl (by rw [String.empty_append])
    have hback : slice? (plain ++ (String.singleton c ++ rest)) plain.utf8ByteSize
        (plain ++ (String.singleton c ++ rest)).utf8ByteSize
        = some (String.singleton c ++ rest) :=
      slice?_eq_some String.append_empty.symm rfl rfl
    rw [findIdx?_utf8_append hplain hc, if_pos hany]
    simp only [hfront, hback, scanInto?_eq_some, Option.bind_eq_bind, Option.bind_some]
    rw [substitute_append plain, substitute_of_plain hplain]
    rfl

end HtmlTemplate
