import WidgetTemplates.Script.Grammar.Cursor
import WidgetTemplates.Script.Grammar.Shape

/-!
# The parts of the grammar that contain each other

The goals of reading that come up again inside themselves. A rule of the grammar reads its inner goals
through `Rules`, so that each rule is a definition of its own; `Grammar.Check` ties them together.
-/

namespace WidgetTemplates.Script.Grammar

/-- A goal of reading, with what reading it yields.
* `expression` is a list of expressions separated by commas, `assignment` an expression without a comma outside
brackets.
* `binary level` is a chain of operands joined by operators that bind more tightly than `level`; `unary` is an operand
with its unary operators, `leftHand` one with its members and calls, `primary` the bare operand.
* `pattern` is what names are bound by; it yields whether it is a single name.
* `statement alone` is a statement; `alone` tells whether it stands where a declaration may not. -/
inductive Goal : Type → Type where
  | expression : Goal Shape
  | assignment : Goal Shape
  | binary (level : Nat) : Goal Shape
  | unary : Goal Shape
  | leftHand : Goal Shape
  | primary : Goal Shape
  | pattern : Goal Bool
  | statement (alone : Bool) : Goal Unit

/-- A rule for every goal. -/
structure Rules where
  rule : {α : Type} → Goal α → Reader α

namespace Rules

/-- Expressions separated by commas. -/
def expression (r : Rules) : Reader Shape := r.rule .expression

/-- An expression without a comma outside brackets. -/
def assignment (r : Rules) : Reader Shape := r.rule .assignment

/-- Operands joined by operators that bind more tightly than a level. -/
def binary (r : Rules) (level : Nat) : Reader Shape := r.rule (.binary level)

/-- An operand with its unary operators. -/
def unary (r : Rules) : Reader Shape := r.rule .unary

/-- An operand with its members and calls. -/
def leftHand (r : Rules) : Reader Shape := r.rule .leftHand

/-- An operand. -/
def primary (r : Rules) : Reader Shape := r.rule .primary

/-- A pattern. -/
def pattern (r : Rules) : Reader Bool := r.rule .pattern

/-- A statement. -/
def statement (r : Rules) (alone : Bool) : Reader Unit := r.rule (.statement alone)

/-- An expression in parentheses, as statements have it. -/
def condition (r : Rules) : Reader Unit := do
  Reader.expect "("
  let _ ← r.expression
  Reader.expect ")"

end Rules

end WidgetTemplates.Script.Grammar
