/-
Module: SocialApi.Codec.Json
Purpose: JSON values and the field rules of derived serde readers.
Trusted boundary: human-reviewed model of serde_json's values and of the readers that
  serde derives for structs and optional fields
Main exports:
  JsonValue, JsonValue.field, JsonValue.required, JsonValue.optional,
  JsonValue.optional_ofOption, JsonValue.optional_entry
-/
import Mathlib

/-- A JSON value; the entries of an object stand in the order of the text, and a name may
occur twice. -/
inductive JsonValue where
  | null
  | bool (value : Bool)
  | number (value : Int)
  | fraction (text : String)
  | string (text : String)
  | array (elements : List JsonValue)
  | object (entries : List (String × JsonValue))

namespace JsonValue

/-- The value of a field, if it is there; a field that occurs twice is an error. -/
def field (name : String) (entries : List (String × JsonValue)) : Option (Option JsonValue) :=
  match entries.filter fun entry => entry.1 = name with
  | [] => some none
  | [entry] => some (some entry.2)
  | _ => none

section Readers

variable {α : Type} (read : JsonValue → Option α)

/-- A field that must be there. -/
def required : Option JsonValue → Option α
  | none => none
  | some value => read value

/-- An `Option` field: `null` and no field are `None`. -/
def optional : Option JsonValue → Option (Option α)
  | none | some .null => some none
  | some value => (read value).map some

/-- An `Option` as a value: `None` is `null`. -/
def ofOption (write : α → JsonValue) : Option α → JsonValue
  | none => .null
  | some value => write value

/-- The entry of a field that is left out when it is `None`. -/
def entryOfOption (name : String) (write : α → JsonValue) (value : Option α) :
    List (String × JsonValue) :=
  (value.map fun present => (name, write present)).toList

variable {read} {write : α → JsonValue}

/-- An optional field is read back from its value. -/
theorem optional_ofOption {value : Option α}
    (readBack : ∀ present ∈ value, read (write present) = some present)
    (notNull : ∀ present ∈ value, write present ≠ .null) :
    optional read (some (ofOption write value)) = some value := by
  cases value with
  | none => rfl
  | some present =>
      have back := readBack present rfl
      have differs := notNull present rfl
      simp only [ofOption]
      generalize write present = written at back differs
      cases written with
      | null => exact absurd rfl differs
      | _ => simp only [optional, back, Option.map_some]

/-- An optional field that may be left out is read back from its entry. -/
theorem optional_entry {value : Option α}
    (readBack : ∀ present ∈ value, read (write present) = some present)
    (notNull : ∀ present ∈ value, write present ≠ .null) :
    optional read (value.map write) = some value := by
  cases value with
  | none => rfl
  | some present => exact optional_ofOption readBack notNull

end Readers

end JsonValue
