import WidgetTemplates.Script.Expr

/-!
# Parts of generated script

`Expr.parts` lists an expression and everything inside it. Which names an expression mentions and which
calls it makes are questions about the members of that list. The text of a template expression
(`Expr.raw`) is one part and stays closed: what it mentions is up to a reading of such texts, which the
definitions take as a parameter.
-/

namespace WidgetTemplates.Script

namespace Expr

mutual

/-- An expression with all expressions inside it. -/
def parts : Expr → List Expr
  | .member object property => .member object property :: object.parts
  | .call callee args => .call callee args :: (callee.parts ++ partsAll args)
  | .array items => .array items :: partsAll items
  | .concat operands => .concat operands :: partsAll operands
  | e => [e]

/-- The parts of several expressions. -/
def partsAll : List Expr → List Expr
  | [] => []
  | e :: rest => e.parts ++ partsAll rest

end

section Induction

variable {motive : Expr → Prop} (ident : ∀ name, motive (.ident name))
  (member : ∀ object property, motive object → motive (.member object property))
  (call : ∀ callee args, motive callee → (∀ arg ∈ args, motive arg) → motive (.call callee args))
  (str : ∀ value, motive (.str value)) (null : motive .null)
  (array : ∀ items, (∀ item ∈ items, motive item) → motive (.array items))
  (concat : ∀ operands, (∀ operand ∈ operands, motive operand) → motive (.concat operands))
  (raw : ∀ code, motive (.raw code))

include ident member call str null array concat raw

/-- Induction over expressions: arguments, items and operands are treated one by one. -/
@[elab_as_elim]
theorem exprInduction (e : Expr) : motive e := by
  refine Expr.rec (motive_2 := fun items => ∀ e ∈ items, motive e)
    ident member call str null array concat raw nofun (fun e items he hitems => ?_) e
  exact List.forall_mem_cons.mpr ⟨he, hitems⟩

end Induction

/-- The expression itself is one of its parts. -/
@[simp] theorem self_mem_parts (e : Expr) : e ∈ e.parts := by
  cases e <;> simp [parts]

/-- Every part of an expression has the property `p`. -/
def AllParts (p : Expr → Prop) (e : Expr) : Prop := ∀ part ∈ e.parts, p part

section AllParts

attribute [local simp] AllParts parts partsAll

variable {p : Expr → Prop}

/-- All parts of some items have a property exactly if all parts of each of them do. -/
theorem allParts_partsAll {items : List Expr} :
    (∀ part ∈ partsAll items, p part) ↔ ∀ e ∈ items, e.AllParts p := by
  induction items with
  | nil => simp
  | cons a items ih => simp [or_imp, forall_and, ih]

@[simp] theorem allParts_ident {name : String} : (ident name).AllParts p ↔ p (ident name) := by
  simp

@[simp] theorem allParts_raw {code : String} : (raw code).AllParts p ↔ p (raw code) := by
  simp

@[simp] theorem allParts_str {value : String} : (str value).AllParts p ↔ p (str value) := by
  simp

@[simp] theorem allParts_null : Expr.null.AllParts p ↔ p Expr.null := by
  simp

@[simp] theorem allParts_member {object : Expr} {property : String} :
    (object.member property).AllParts p ↔ p (object.member property) ∧ object.AllParts p := by
  simp

@[simp] theorem allParts_call {callee : Expr} {args : List Expr} :
    (callee.call args).AllParts p ↔ p (callee.call args) ∧ callee.AllParts p ∧ ∀ e ∈ args, e.AllParts p := by
  rw [← allParts_partsAll]
  simp [or_imp, forall_and]

@[simp] theorem allParts_array {items : List Expr} :
    (array items).AllParts p ↔ p (array items) ∧ ∀ e ∈ items, e.AllParts p := by
  rw [← allParts_partsAll]
  simp

@[simp] theorem allParts_concat {operands : List Expr} :
    (concat operands).AllParts p ↔ p (concat operands) ∧ ∀ e ∈ operands, e.AllParts p := by
  rw [← allParts_partsAll]
  simp

end AllParts

/-- An expression mentions a name: it names it, or holds a text that mentions it when read by `inText`. -/
def Mentions (inText : String → Prop) (name : String) (e : Expr) : Prop :=
  ∃ part ∈ e.parts, part = .ident name ∨ ∃ code, part = .raw code ∧ inText code

/-- An expression asks the widget at hand for the id of an element. -/
def AsksForId (e : Expr) : Prop :=
  ∃ part ∈ e.parts, ∃ args, part = .call (Expr.widget.member "elId") args

section Mentions

attribute [local simp] Mentions parts partsAll

variable {inText : String → Prop} {name : String}

/-- A part of some items mentions a name exactly if one of them does. -/
theorem mentions_partsAll {items : List Expr} :
    (∃ part ∈ partsAll items, part = .ident name ∨ ∃ code, part = .raw code ∧ inText code) ↔
      ∃ e ∈ items, e.Mentions inText name := by
  induction items with
  | nil => simp
  | cons a items ih => simp [or_and_right, exists_or, ih]

@[simp] theorem mentions_ident {n : String} : (ident n).Mentions inText name ↔ n = name := by
  simp

@[simp] theorem mentions_raw {code : String} : (raw code).Mentions inText name ↔ inText code := by
  simp

@[simp] theorem mentions_member {object : Expr} {property : String} :
    (object.member property).Mentions inText name ↔ object.Mentions inText name := by
  simp

@[simp] theorem mentions_call {callee : Expr} {args : List Expr} :
    (callee.call args).Mentions inText name ↔
      callee.Mentions inText name ∨ ∃ e ∈ args, e.Mentions inText name := by
  rw [← mentions_partsAll]
  simp [or_and_right, exists_or]

@[simp] theorem mentions_str {value : String} : ¬ (str value).Mentions inText name := by
  simp

@[simp] theorem mentions_null : ¬ Expr.null.Mentions inText name := by
  simp

@[simp] theorem mentions_array {items : List Expr} :
    (array items).Mentions inText name ↔ ∃ e ∈ items, e.Mentions inText name := by
  rw [← mentions_partsAll]
  simp

@[simp] theorem mentions_concat {operands : List Expr} :
    (concat operands).Mentions inText name ↔ ∃ e ∈ operands, e.Mentions inText name := by
  rw [← mentions_partsAll]
  simp

end Mentions

end Expr

/-- The expression of a statement. -/
def Stmt.value : Stmt → Expr
  | .var _ init => init
  | .expr e => e

end WidgetTemplates.Script
