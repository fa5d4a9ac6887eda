import WidgetTemplates.Json.Binary64

/-!
# JSON values

Values with ordered objects: members keep the order in which their keys first came, and a key that
comes again takes the later value at its first place (`Json.Members.insert`). Integers are exact, every
other number is a binary floating-point number.
-/

namespace WidgetTemplates

/-- A JSON value. A number is an `int` if it is written without fraction and exponent and fits 64 bits, signed or
unsigned. The keys of an object are distinct. -/
inductive Json where
  | null
  | bool (value : Bool)
  | int (value : Int)
  | float (value : Binary64)
  | string (value : String)
  | array (items : List Json)
  | object (members : List (String × Json))
deriving Repr, Inhabited

namespace Json

/-- The members of an object, in order, keys distinct. -/
abbrev Members := List (String × Json)

/-- Sets the value of a key: in place when the key is there, at the end otherwise. -/
def Members.insert (key : String) (value : Json) : Members → Members
  | [] => [(key, value)]
  | (k, v) :: rest => if k == key then (k, value) :: rest else (k, v) :: Members.insert key value rest

/-- The value of a key. -/
def Members.get? (key : String) : Members → Option Json
  | [] => none
  | (k, v) :: rest => if k == key then some v else Members.get? key rest

/-- The member of an object, or `null` when there is none. -/
def member (key : String) : Json → Json
  | .object members => (Members.get? key members).getD .null
  | _ => .null

/-- A list of texts. -/
def strings (items : List String) : Json := .array (items.map .string)

/-- A natural number. -/
def nat (n : Nat) : Json := .int n

/-- The value under `some`, and `null` for `none`. -/
def optional {α : Type} (encode : α → Json) : Option α → Json
  | some a => encode a
  | none => .null

end Json

end WidgetTemplates
