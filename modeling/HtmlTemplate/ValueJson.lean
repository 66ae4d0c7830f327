import HtmlTemplate.Json.Basic
import HtmlTemplate.Template

/-!
# `HtmlTemplate.ValueJson`: templates and values as JSON

A template travels as a JSON object with a marker, its fragments and its values. The receiver
knows a template by the marker alone, so an object that only looks like one is data.

- `Value.toJson` writes a value. Numbers that are not finite become `null`, and a character
  becomes a string.
- `Value.ofJson` reads one. An object with the marker has to be a well-formed template, and
  `DecodeError` lists what can be wrong with it. An object without the marker becomes its own
  JSON text, which is escaped like any other text.
- `Template.ofJson` reads a template and refuses everything else.
-/

set_option autoImplicit false

namespace HtmlTemplate

/-- The key of the marker in the JSON form of a template. -/
def markerKey : String := "$thtml"

/-- The marker itself. -/
def marker : String := "thtml.template.v1"

/-- Why JSON data cannot be read as a value or a template. -/
inductive DecodeError where
  /-- A marked object has no array of fragments. -/
  | noFragments
  /-- A marked object has values that are not an array. -/
  | valuesNotArray
  /-- A fragment is not a string. -/
  | fragmentNotString (fragment : Json)
  /-- The counts of fragments and values do not fit. -/
  | shape (e : ShapeError)
  /-- A template was asked for, and the data is none. -/
  | notTemplate (data : Json)

namespace DecodeError

/-- The message for JSON data that holds no proper template. -/
def invalid (reason : String) : String := "invalid template in JSON: " ++ reason

/-- The message for a fault. The data at fault is shown as compact JSON text. -/
def message : DecodeError → String
  | .noFragments => invalid "missing \"fragments\" array"
  | .valuesNotArray => invalid "\"values\" is not an array"
  | .fragmentNotString j => invalid ("fragment is not a string: " ++ j.compact)
  | .shape e => e.message
  | .notTemplate j => invalid ("not a template: " ++ j.compact)

end DecodeError

/-! Both kinds of integers are within the range of JSON data. -/

/-- A signed integer is above the least of the range. -/
theorem least_le_int64 (i : Int64) : -0x8000000000000000 ≤ i.toInt := i.le_toInt

/-- It is below its end. -/
theorem int64_lt_most (i : Int64) : i.toInt < 0x10000000000000000 :=
  Int.lt_trans i.toInt_lt (by decide)

/-- An unsigned integer is not even negative. -/
theorem least_le_uint64 (n : UInt64) : -0x8000000000000000 ≤ (n.toNat : Int) := by omega

/-- The range ends behind the unsigned integers. -/
theorem uint64_lt_most (n : UInt64) : (n.toNat : Int) < 0x10000000000000000 := by
  have hlt : n.toNat < 0x10000000000000000 := n.toNat_lt
  omega

/-- The JSON form of a scalar. -/
def Scalar.toJson : Scalar → Json
  | .str text => .string text
  | .char c => .string (String.singleton c)
  | .int i => .number (.integer i.toInt (least_le_int64 i) (int64_lt_most i))
  | .uint n => .number (.integer n.toNat (least_le_uint64 n) (uint64_lt_most n))
  | .float x => (Json.Number.ofBinary? x).elim .null .number
  | .bool b => .bool b

/-- The JSON form of a template with these fragments and the JSON forms of its values. -/
def Json.ofParts (fragments : List String) (values : List Json) : Json :=
  .object [(markerKey, .string marker), ("fragments", .array (fragments.map .string)),
    ("values", .array values)]

mutual

/-- The JSON form of a value. -/
def Value.toJson : Value → Json
  | .empty => .null
  | .nested t => Json.ofParts t.fragments t.valuesToJson
  | .sequence vs => .array (Value.toJsons vs)
  | .scalar s => s.toJson

/-- The JSON forms of the values of a template. -/
def Template.valuesToJson : Template → List Json
  | .last _ => []
  | .hole _ v rest => v.toJson :: rest.valuesToJson

/-- The JSON forms of a list of values. -/
def Value.toJsons : List Value → List Json
  | [] => []
  | v :: vs => v.toJson :: Value.toJsons vs

end

/-- The JSON form of a template. -/
def Template.toJson (t : Template) : Json := Json.ofParts t.fragments t.valuesToJson

namespace Json

/-- Whether the members of an object hold the marker of a template. -/
def hasMarker (members : List (String × Json)) : Bool :=
  match member? markerKey members with
  | some (.string s) => s = marker
  | _ => false

/-- Whether data claims to be a template. The rest of the object may still be malformed. -/
def isTemplate : Json → Bool
  | .object members => hasMarker members
  | _ => false

/-- The array of fragments of a marked object. -/
def fragmentsOf (members : List (String × Json)) : Except DecodeError (List Json) :=
  match member? "fragments" members with
  | some (.array fragments) => .ok fragments
  | _ => .error .noFragments

/-- Accepts a marked object whose values are an array or absent. -/
def checkValues (members : List (String × Json)) : Except DecodeError Unit :=
  match member? "values" members with
  | some (.array _) => .ok ()
  | none => .ok ()
  | some _ => .error .valuesNotArray

/-- A fragment of a marked object. -/
def fragmentText : Json → Except DecodeError String
  | .string s => .ok s
  | j => .error (.fragmentNotString j)

end Json

/-- Puts a template together from the members of a marked object and the outcome of reading its
values. Faults count in this order: the array of fragments, the array of values, a fragment, a
value, the shape. -/
def Template.ofMembers (members : List (String × Json))
    (values : Except DecodeError (List Value)) : Except DecodeError Template := do
  let fragments ← Json.fragmentsOf members
  Json.checkValues members
  let fragments ← fragments.mapM Json.fragmentText
  let values ← values
  (Template.ofParts fragments values).mapError .shape

/-- The scalar that a JSON number stands for: signed if it fits, otherwise unsigned. -/
def Scalar.ofNumber : Json.Number → Scalar
  | .integer i _ _ =>
    if i < 0x8000000000000000 then .int (Int64.ofInt i) else .uint (UInt64.ofNat i.toNat)
  | .float x _ => .float x

mutual

/-- Reads a value from JSON data. -/
def Value.ofJson : Json → Except DecodeError Value
  | .null => .ok .empty
  | .bool b => .ok (.scalar (.bool b))
  | .number n => .ok (.scalar (Scalar.ofNumber n))
  | .string s => .ok (.text s)
  | .array items => (Value.ofJsons items).map .sequence
  | .object members =>
    if Json.hasMarker members then
      (Template.ofMembers members (Value.ofValues members)).map .nested
    else .ok (.text (Json.object members).compact)

/-- Reads a list of values, up to the first one that fails. -/
def Value.ofJsons : List Json → Except DecodeError (List Value)
  | [] => .ok []
  | j :: js => do
    let v ← Value.ofJson j
    let vs ← Value.ofJsons js
    return v :: vs

/-- Reads the values of a marked object, none if it has no array of them. -/
def Value.ofValues : List (String × Json) → Except DecodeError (List Value)
  | [] => .ok []
  | (k, j) :: ms =>
    if k = "values" then
      match j with
      | .array items => Value.ofJsons items
      | _ => .ok []
    else Value.ofValues ms

end

/-- Reads a template from JSON data. -/
def Template.ofJson : Json → Except DecodeError Template
  | .object members =>
    if Json.hasMarker members then Template.ofMembers members (Value.ofValues members)
    else .error (.notTemplate (.object members))
  | j => .error (.notTemplate j)

end HtmlTemplate
