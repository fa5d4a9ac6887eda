import WidgetTemplates.Script.Grammar.Expression
import WidgetTemplates.Script.Grammar.Statement

/-!
# Checking expressions

Whether a text begins with an expression of a script, in a module, where `await` is an operator. What
follows the expression is not looked at, except that its first token has to be well formed.

The rules of the grammar are tied together with a bound on how deep they go. Between two tokens at most
seven goals lie inside each other: a statement, an expression, an assignment, a binary operator, a unary
operator, an operand with its members, and an operand.
-/

namespace WidgetTemplates.Script.Grammar

namespace Rules

/-- The rule for a goal, given the rules for the goals inside it. -/
def step (r : Rules) : {α : Type} → Goal α → Reader α
  | _, .expression => r.expressionRule
  | _, .assignment => r.assignmentRule
  | _, .binary level => r.binaryRule level
  | _, .unary => r.unaryRule
  | _, .leftHand => r.leftHandRule
  | _, .primary => r.primaryRule
  | _, .pattern => r.patternRule
  | _, .statement alone => r.statementRule alone

/-- The rules up to a depth. -/
def upTo : Nat → Rules
  | 0 => ⟨fun _ => failure⟩
  | depth + 1 => ⟨fun goal => step (upTo depth) goal⟩

end Rules

/-- A depth that is enough for a text. -/
def enoughDepth (s : List Char) : Nat := 8 * (s.length + 2)

/-- Whether a text begins with an expression. -/
def accepts (s : List Char) : Bool :=
  match (Rules.upTo (enoughDepth s)).expression { awaiting := true } (Cursor.start s) with
  | some (_, c) => !c.flawed && c.unsettled == 0
  | none => false

end WidgetTemplates.Script.Grammar
