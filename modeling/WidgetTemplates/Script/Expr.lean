import WidgetTemplates.Script.Quoted
import WidgetTemplates.Text.Blank

/-!
# Generated script

The small tree of expressions and statements that a compiled template is made of, and its printed form.
Expressions that come from a template are kept as text (`Expr.raw`) and printed as they are; wherever
such a text stands for an operand it is put in parentheses.
-/

namespace WidgetTemplates.Script

/-- An expression. A sum has its parts from left to right, and the text of an expression (`raw`) is printed as it is. -/
inductive Expr where
  | ident (name : String)
  | member (object : Expr) (property : String)
  | call (callee : Expr) (args : List Expr)
  | str (value : String)
  | null
  | array (items : List Expr)
  | concat (parts : List Expr)
  | raw (code : String)
deriving Repr, Inhabited

namespace Expr

/-- A template expression: its text without the blanks around it. -/
def ofText (code : String) : Expr := .raw (Text.trimmed code)

/-- The output stream that every render function receives. -/
def out : Expr := .ident "out"

/-- The widget instance that a widget wrapper hands to its function. -/
def widget : Expr := .ident "widget"

/-- Whether an expression has to stand in parentheses as an operand. -/
def isLoose : Expr → Bool
  | .concat _ | .raw _ => true
  | _ => false

mutual

/-- The text of an expression. -/
def print : Expr → String
  | .ident name => name
  | .member object property => printOperand object ++ "." ++ property
  | .call callee args => printOperand callee ++ "(" ++ printList args ++ ")"
  | .str value => quote value
  | .null => "null"
  | .array items => "[" ++ printList items ++ "]"
  | .concat parts => printSum parts
  | .raw code => code

/-- The text of an operand, in parentheses when it is loose. -/
def printOperand : Expr → String
  | .concat parts => "(" ++ printSum parts ++ ")"
  | .raw code => "(" ++ code ++ ")"
  | .ident name => name
  | .member object property => printOperand object ++ "." ++ property
  | .call callee args => printOperand callee ++ "(" ++ printList args ++ ")"
  | .str value => quote value
  | .null => "null"
  | .array items => "[" ++ printList items ++ "]"

/-- Items separated by a comma and a blank. -/
def printList : List Expr → String
  | [] => ""
  | [item] => print item
  | item :: rest => print item ++ ", " ++ printList rest

/-- Operands separated by plus signs. -/
def printSum : List Expr → String
  | [] => ""
  | [part] => printOperand part
  | part :: rest => printOperand part ++ " + " ++ printSum rest

end

/-- An operand is the expression itself, in parentheses when it is loose. -/
theorem printOperand_eq (e : Expr) :
    e.printOperand = if e.isLoose then "(" ++ e.print ++ ")" else e.print := by
  cases e <;> simp [printOperand, print, isLoose]

end Expr

/-- A statement: the declaration of a variable with its first value, or an expression evaluated for its effect. -/
inductive Stmt where
  | var (name : String) (init : Expr)
  | expr (expr : Expr)
deriving Repr, Inhabited

/-- The text of a statement. -/
def Stmt.print : Stmt → String
  | .var name init => "var " ++ name ++ " = " ++ init.print ++ ";"
  | .expr e => e.print ++ ";"

end WidgetTemplates.Script
