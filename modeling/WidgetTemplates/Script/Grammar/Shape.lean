/-!
# Shapes of expressions

What has to be remembered of an expression to judge what may be done with it: whether it can be assigned
to, and whether operators around it may stand next to each other.

`{a = 1}` is an object only on the way to a pattern. A shape counts such members; reading it as a target
of an assignment settles them (`Shape.settled?`).
-/

namespace WidgetTemplates.Script.Grammar

/-- The shape of an expression, of an item of an array, or of a member of an object.
* A `member` is not reached through `?.`; an expression that is falls under `other`.
* `trailing` tells whether a comma ends an array or an object; a `hole` is a place of an array that is left out.
* A `shorthand` is a member of an object that is just a name, `initialized` where a default follows; a member that is
neither that nor a `spread` has the shape of its value.
* An assignment is `plain` when it is one with `=`; `unary` covers `await`. -/
inductive Shape where
  | name
  | member
  | paren (inner : Shape)
  | array (items : List Shape) (trailing : Bool)
  | object (members : List Shape) (trailing : Bool)
  | shorthand (initialized : Bool)
  | spread (inner : Shape)
  | hole
  | assign (plain : Bool)
  | unary
  | andOr
  | importCall
  | other
deriving Repr, Inhabited

namespace Shape

/-- Whether the shape is a name or a member, parentheses left aside. -/
def isSimple : Shape → Bool
  | .name | .member => true
  | .paren inner => inner.isSimple
  | _ => false

/-- Whether the shape is a name. -/
def isName : Shape → Bool
  | .name => true
  | _ => false

mutual

/-- The number of defaults that are settled by reading an expression as a target; none if it is no target.
`nested` tells whether it stands in a pattern, where it may have a default of its own. -/
def settled? (nested : Bool) : Shape → Option Nat
  | .name | .member => some 0
  | .paren inner => if inner.isSimple then some 0 else none
  | .array items trailing => settledAll? trailing items
  | .object members trailing => settledAll? trailing members
  | .shorthand initialized => some (if initialized then 1 else 0)
  | .hole => some 0
  | .assign plain => if nested && plain then some 0 else none
  | _ => none

/-- The number for the parts of an array or an object. A rest comes last, without a comma after it. -/
def settledAll? (trailing : Bool) : List Shape → Option Nat
  | [] => some 0
  | [.spread inner] => if trailing then none else inner.settled? false
  | s :: more => do
    let first ← s.settled? true
    let others ← settledAll? trailing more
    some (first + others)

end

end Shape

end WidgetTemplates.Script.Grammar
