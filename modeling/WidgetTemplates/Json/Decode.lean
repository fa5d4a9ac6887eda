import WidgetTemplates.Json.Basic

/-!
# Decoding typed values

A decoder takes a JSON value to a value of some type or refuses it. A record is decoded from an object
by the names of its fields, other members being ignored, or from an array by their order.
-/

namespace WidgetTemplates.Json

/-- A text. -/
def asString? : Json → Option String
  | .string s => some s
  | _ => none

/-- A truth value. -/
def asBool? : Json → Option Bool
  | .bool b => some b
  | _ => none

/-- A list whose items all decode. -/
def asList? {α : Type} (decode : Json → Option α) : Json → Option (List α)
  | .array items => items.mapM decode
  | _ => none

/-- The members of an object. -/
def asMembers? : Json → Option Members
  | .object members => some members
  | _ => none

/-- A natural number below `2 ^ 32`. -/
def asWord32? : Json → Option UInt32
  | .int n => if 0 ≤ n ∧ n < 0x100000000 then some n.toNat.toUInt32 else none
  | _ => none

/-- Absent for `null`, and otherwise what `decode` makes of the value. -/
def asOptional? {α : Type} (decode : Json → Option α) : Json → Option (Option α)
  | .null => some none
  | value => (decode value).map some

/-- Where the fields of a record are looked up: by name, or by position among its field names. -/
inductive Fields where
  | named (members : Members)
  | placed (names : List String) (items : List Json)

/-- The fields of a record with the given field names, in declaration order. -/
def fields? (names : List String) : Json → Option Fields
  | .object members => some (.named members)
  | .array items => if items.length ≤ names.length then some (.placed names items) else none
  | _ => none

namespace Fields

/-- The value of a field that is present. -/
def get? : Fields → String → Option Json
  | .named members, name => Members.get? name members
  | .placed names items, name => (names.zip items).lookup name

/-- A field that must be present. -/
def required? {α : Type} (fields : Fields) (name : String) (decode : Json → Option α) : Option α :=
  fields.get? name >>= decode

/-- A field that may be absent and then has the value `default`. -/
def withDefault? {α : Type} (fields : Fields) (name : String) (default : α)
    (decode : Json → Option α) : Option α :=
  match fields.get? name with
  | some value => decode value
  | none => some default

/-- A field whose value may be `null`; a name that is absent counts as `null`. -/
def nullable? {α : Type} (fields : Fields) (name : String) (decode : Json → Option α) :
    Option (Option α) :=
  match fields, fields.get? name with
  | _, some value => asOptional? decode value
  | .named _, none => some none
  | .placed _ _, none => none

end Fields

end WidgetTemplates.Json
