import WidgetTemplates.Script.Grammar.Operand

/-!
# Expressions

Unary and binary operators, conditions, assignments, and sequences. Operators that may not stand next to
each other without parentheses are flaws: `??` beside `&&` or `||`, and a unary operator before `**`.
-/

namespace WidgetTemplates.Script.Grammar

open Reader

/-- The levels of the binary operators; those of a higher one bind more tightly. -/
def operatorLevels : List (Nat × List String) :=
  [(1, ["??"]), (2, ["||"]), (3, ["&&"]), (4, ["|"]), (5, ["^"]), (6, ["&"]),
   (7, ["==", "!=", "===", "!=="]), (8, ["<", ">", "<=", ">=", "in", "instanceof"]),
   (9, ["<<", ">>", ">>>"]), (10, ["+", "-"]), (11, ["*", "/", "%"]), (12, ["**"])]

/-- The operators that assign. -/
def assignmentOperators : List String :=
  ["=", "+=", "-=", "*=", "/=", "%=", "**=", "<<=", ">>=", ">>>=", "&=", "|=", "^=", "&&=", "||=", "??="]

/-- The operators in front of an operand, those that change it left aside. -/
def unaryOperators : List String := ["+", "-", "!", "~", "typeof", "void", "delete"]

/-- The text of a token that may be an operator. -/
def Token.operator? : Token → Option String
  | .mark text => some text
  | .word text _ => some text
  | _ => none

/-- The level of a binary operator. -/
def level? (operator : String) : Option Nat :=
  (operatorLevels.find? (·.2.contains operator)).map (·.1)

namespace Rules

/-! ## Unary operators -/

/-- Whether `await` comes next as an operator: it is one where the mode says so, and also in front of an
operand in the same line. -/
def startsAwait : Reader Bool := do
  if !(← isWord "await") then return false
  else if (← mode).awaiting then return true
  else ahead do
    skip
    return (← peek).startsOperand && !(← newLine)

/-- An operand with operators that change it. -/
def update (r : Rules) : Reader Shape := do
  if (← isMark "++") || (← isMark "--") then
    advance
    let operand ← r.unary
    if operand.isSimple then return .other else failure
  else
    let operand ← r.leftHand
    if ((← isMark "++") || (← isMark "--")) && !(← newLine) then
      if !operand.isSimple then failure
      advance
      return .other
    else return operand

/-- An operand with its unary operators. -/
def unaryRule (r : Rules) : Reader Shape := do
  if (← peek).operator?.any unaryOperators.contains then
    advance
    let _ ← r.unary
    return .unary
  else if ← startsAwait then
    flawIf !(← mode).awaiting
    advance
    let _ ← under (fun m => { m with awaiting := true }) r.unary
    return .unary
  else r.update

/-! ## Binary operators -/

/-- The shape of two operands joined by an operator. -/
def joined (operator : String) : Shape :=
  if operator == "&&" || operator == "||" then .andOr else .other

/-- Whether an operator may not stand next to its operands. -/
def clashes (operator : String) (left right : Shape) : Bool :=
  match operator, left, right with
  | "??", .andOr, _ => true
  | "??", _, .andOr => true
  | "**", .unary, _ => true
  | _, _, _ => false

/-- Whether a word that asserts a type comes next. Types are no part of a script, so it may not follow an
operand in the same line. -/
def assertsType : Reader Bool := do
  return ((← isWord "as") || (← isWord "satisfies")) && !(← newLine)

/-- One more operator with its right operand, if the operator binds more tightly than the level. -/
def binaryStep (r : Rules) (level : Nat) (left : Shape) : Reader (Option Shape) := do
  match (← peek).operator? with
  | none => return none
  | some operator =>
    match level? operator with
    | none => if level < 8 && (← assertsType) then failure else return none
    | some its =>
      let stops := if operator == "**" then its < level else its ≤ level
      if stops || (operator == "in" && !(← mode).inOperator) then return none
      else
        advance
        let right ← r.binary its
        flawIf (clashes operator left right)
        return some (joined operator)

/-- The test whether an object has a private member. -/
def privateTest (r : Rules) (level : Nat) : Reader Shape := do
  if 8 ≤ level then failure
  skip
  if !(← eatWord "in") then failure
  let _ ← r.binary 8
  return .other

/-- Operands joined by operators that bind more tightly than the level. -/
def binaryRule (r : Rules) (level : Nat) : Reader Shape := do
  let left ← match ← peek with
    | .privateWord _ => if (← mode).inOperator then r.privateTest level else failure
    | _ => r.unary
  iterate (r.binaryStep level) left

/-! ## Assignments and sequences -/

/-- Whether `yield` comes next as an operator: it is one where the mode says so, and also in front of an
operand in the same line. -/
def startsYield : Reader Bool := do
  if !(← isWord "yield") then return false
  else if (← mode).yielding then return true
  else ahead do
    skip
    return (← peek).startsOperand && !(← newLine)

/-- Whether no operand of `yield` comes next. -/
def endsYield : Reader Bool := do
  match ← peek with
  | .finish => return true
  | .mark m => return [";", "\x7d", "]", ")", ":", ","].contains m
  | token => return token.isWord "in"

/-- The operator `yield` with its operand. -/
def yieldRule (r : Rules) : Reader Shape := do
  flawIf !(← mode).yielding
  advance
  if !(← newLine) then
    if (← eat "*") || !(← endsYield) then
      let _ ← r.assignment
  return .other

/-- Counts defaults as settled. -/
def settle (n : Nat) : Reader Unit := modify fun c => { c with unsettled := c.unsettled - n }

/-- An assignment to `target`, whose operator comes next. -/
def assignTo (r : Rules) (target : Shape) (operator : String) : Reader Shape := do
  if operator == "=" then
    match target.settled? false with
    | some n => settle n
    | none => failure
  else if !target.isSimple then failure
  advance
  let _ ← r.assignment
  return .assign (operator == "=")

/-- The branches of a condition, if there are any. -/
def branches (r : Rules) (test : Shape) : Reader Shape := do
  if ← eat "?" then
    let _ ← enclosed r.assignment
    expect ":"
    let _ ← r.assignment
    return .other
  else return test

/-- An expression without a comma outside brackets. -/
def assignmentRule (r : Rules) : Reader Shape := do
  if ← startsYield then r.yieldRule
  else if ← r.parenthesizedArrow then return .other
  else if ← r.asyncArrow then return .other
  else
    let left ← r.binary 0
    if left.isName && (← isMark "=>") then
      r.fromArrow false
      return .other
    else
      match ← peek with
      | .mark m => if assignmentOperators.contains m then r.assignTo left m else r.branches left
      | _ => return left

/-- Expressions separated by commas. -/
def expressionRule (r : Rules) : Reader Shape := do
  let first ← under (fun m => { m with decorating := false }) r.assignment
  iterate
    (fun _ => do
      if ← eat "," then
        let _ ← under (fun m => { m with decorating := false }) r.assignment
        return some .other
      else return none)
    first

end Rules

end WidgetTemplates.Script.Grammar
