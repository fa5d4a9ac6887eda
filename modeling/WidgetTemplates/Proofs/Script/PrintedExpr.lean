import WidgetTemplates.Proofs.Script.Pieces
import WidgetTemplates.Proofs.Script.Subexpression
import WidgetTemplates.Proofs.Text.Decimal

/-!
# Brackets of printed expressions

A printed expression is balanced as soon as the texts in it that come from a template are, and its names contain no
character that means something to a reading. Its slashes are those of its texts, in the order in which they are printed
(`Expr.slashes`). What the printer adds are pairs of brackets around operands, arguments and items. So the printed form
is also one piece, unless it is such a text (`Expr.readsBack`).
-/

namespace WidgetTemplates.Script

/-- A name all of whose characters are plain. -/
def PlainName (name : String) : Prop := Plain name.toList

instance (name : String) : Decidable (PlainName name) := inferInstanceAs (Decidable (Plain name.toList))

theorem PlainName.append {name more : String} (h : PlainName name) (h' : PlainName more) :
    PlainName (name ++ more) := by
  intro c hc
  rw [String.toList_append] at hc
  exact (List.mem_append.mp hc).elim (h c) (h' c)

/-- A number is written with plain characters. -/
theorem plainName_toString (n : Nat) : PlainName (toString n) := by
  intro c hc
  have hdigit : c.isDigit = true := Text.isDigit_of_mem_toString hc
  exact isPlain_of_isAlphanum (by rw [Char.isAlphanum, hdigit, Bool.or_true])

/-- A plain name without a comma. -/
def SimpleName (name : String) : Prop := PlainName name ∧ ',' ∉ name.toList

instance (name : String) : Decidable (SimpleName name) := inferInstanceAs (Decidable (PlainName name ∧ _))

theorem SimpleName.append {name more : String} (h : SimpleName name) (h' : SimpleName more) :
    SimpleName (name ++ more) := by
  refine ⟨h.1.append h'.1, ?_⟩
  rw [String.toList_append, List.mem_append, not_or]
  exact ⟨h.2, h'.2⟩

/-- A number is written without commas. -/
theorem simpleName_toString (n : Nat) : SimpleName (toString n) :=
  ⟨plainName_toString n, fun hcomma => absurd (Text.isDigit_of_mem_toString hcomma) (by decide)⟩

/-! ## Expressions -/

namespace Expr

/-- The answers for the slashes in an expression, those of its texts in the order in which they are printed. -/
def slashes (answers : String → List Slash) (e : Expr) : List Slash :=
  e.parts.flatMap fun
    | .raw code => answers code
    | _ => []

/-- The own name of a part of an expression is plain and has no comma, and its own text has the property. -/
def OwnWritten (good : String → Prop) : Expr → Prop
  | .ident name => PlainName name ∧ ',' ∉ name.toList
  | .member _ property => PlainName property ∧ ',' ∉ property.toList
  | .raw code => good code
  | _ => True

/-- All names in an expression are plain and have no comma, and all texts in it have the property. -/
def Written (good : String → Prop) (e : Expr) : Prop := e.AllParts (OwnWritten good)

/-- A text is balanced by the answers that are given for it. -/
def Answered (answers : String → List Slash) (code : String) : Prop := BalancedBy (answers code) code.toList

/-- The printed form of an expression is balanced, and one piece unless it is a text. -/
structure ReadsBack (answers : String → List Slash) (e : Expr) : Prop where
  balancedBy : BalancedBy (e.slashes answers) e.print.toList
  onePiece : (∀ code, e ≠ .raw code) → OnePiece (e.slashes answers) e.print.toList

section

variable {answers : String → List Slash}

/-- The parts of several expressions, taken one by one. -/
theorem flatMap_partsAll (items : List Expr) (f : Expr → List Slash) :
    (partsAll items).flatMap f = items.flatMap fun e => e.parts.flatMap f := by
  induction items with
  | nil => rfl
  | cons e items ih => rw [partsAll, List.flatMap_append, ih, List.flatMap_cons]

theorem slashes_ident (name : String) : (ident name).slashes answers = [] := by
  simp [slashes, parts]

theorem slashes_member (object : Expr) (property : String) :
    (object.member property).slashes answers = object.slashes answers := by
  rw [slashes, parts, List.flatMap_cons]
  rfl

/-- The slashes of a call are those of the callee and then those of the arguments. -/
theorem slashes_call (callee : Expr) (args : List Expr) :
    (callee.call args).slashes answers = callee.slashes answers ++ args.flatMap (slashes answers) := by
  rw [slashes, parts, List.flatMap_cons, List.flatMap_append, flatMap_partsAll]
  rfl

theorem slashes_array (items : List Expr) : (array items).slashes answers = items.flatMap (slashes answers) := by
  rw [slashes, parts, List.flatMap_cons, flatMap_partsAll]
  rfl

theorem slashes_concat (operands : List Expr) :
    (concat operands).slashes answers = operands.flatMap (slashes answers) := by
  rw [slashes, parts, List.flatMap_cons, flatMap_partsAll]
  rfl

namespace ReadsBack

variable {e : Expr} {items : List Expr}

/-- What is one piece is balanced. -/
theorem of_onePiece (h : OnePiece (e.slashes answers) e.print.toList) : e.ReadsBack answers :=
  ⟨h.balancedBy, fun _ => h⟩

/-- An operand is one piece, since a text is put in parentheses. -/
theorem printOperand (h : e.ReadsBack answers) : OnePiece (e.slashes answers) e.printOperand.toList := by
  rw [printOperand_eq]
  split
  · simpa [String.toList_append] using OnePiece.parens h.balancedBy
  · next hloose =>
    refine h.onePiece ?_
    rintro code rfl
    exact hloose rfl

/-- A printed sum is one piece, since its operands are. -/
theorem printSum (h : ∀ e ∈ items, e.ReadsBack answers) :
    OnePiece (items.flatMap (slashes answers)) (printSum items).toList := by
  induction items with
  | nil => exact .nil _
  | cons e items ih =>
    rw [List.forall_mem_cons] at h
    rcases items with _ | ⟨e', items⟩
    · simpa [Expr.printSum] using h.1.printOperand
    · have hplus : OnePiece [] " + ".toList := .of_plain (by decide) (by decide)
      simpa [Expr.printSum] using h.1.printOperand.append (hplus.append (ih h.2))

/-- A printed list is balanced. -/
theorem printList (h : ∀ e ∈ items, e.ReadsBack answers) :
    BalancedBy (items.flatMap (slashes answers)) (printList items).toList := by
  induction items with
  | nil => rfl
  | cons e items ih =>
    rw [List.forall_mem_cons] at h
    rcases items with _ | ⟨e', items⟩
    · simpa [Expr.printList] using h.1.balancedBy
    · have hcomma : BalancedBy [] ", ".toList := rfl
      simpa [Expr.printList] using h.1.balancedBy.append (hcomma.append (ih h.2))

end ReadsBack

/-- An expression reads back if its names and texts do. -/
theorem readsBack (e : Expr) (h : e.Written (Answered answers)) : e.ReadsBack answers := by
  induction e using exprInduction with
  | ident name =>
    obtain ⟨plain, comma⟩ := allParts_ident.mp h
    exact .of_onePiece (by simpa [print, slashes, parts] using OnePiece.of_plain plain comma)
  | member object property ih =>
    obtain ⟨⟨plain, comma⟩, hobject⟩ := allParts_member.mp h
    have hdot : OnePiece [] ['.'] := .of_plain (by decide) (by decide)
    have hmember := (ih hobject).printOperand.append (hdot.append (.of_plain plain comma))
    exact .of_onePiece (by simpa [print, slashes, parts] using hmember)
  | call callee args ihCallee ihArgs =>
    obtain ⟨-, hcallee, hargs⟩ := allParts_call.mp h
    have hlist := ReadsBack.printList fun e he => ihArgs e he (hargs e he)
    have hcall := (ihCallee hcallee).printOperand.append (OnePiece.parens hlist)
    exact .of_onePiece (by simpa [print, slashes_call] using hcall)
  | str value => exact .of_onePiece (by simpa [print, slashes, parts] using OnePiece.quote value)
  | null => exact .of_onePiece (OnePiece.of_plain (by decide) (by decide))
  | array items ih =>
    have hlist := ReadsBack.printList fun e he => ih e he ((allParts_array.mp h).2 e he)
    exact .of_onePiece (by simpa [print, slashes_array] using OnePiece.squares hlist)
  | concat operands ih =>
    have hsum := ReadsBack.printSum fun e he => ih e he ((allParts_concat.mp h).2 e he)
    exact .of_onePiece (by simpa [print, slashes_concat] using hsum)
  | raw code =>
    have hcode : BalancedBy (answers code) code.toList := allParts_raw.mp h
    exact ⟨by simpa [print, slashes, parts] using hcode, fun hraw => absurd rfl (hraw code)⟩

end

/-- All names in an expression are plain and have no comma, and all texts in it are balanced by their answers. -/
def Tidy (answers : String → List Slash) (e : Expr) : Prop := e.Written (Answered answers)

section Tidy

variable {answers : String → List Slash}

@[simp] theorem tidy_ident {name : String} : (ident name).Tidy answers ↔ SimpleName name := allParts_ident

@[simp] theorem tidy_raw {code : String} : (raw code).Tidy answers ↔ Answered answers code := allParts_raw

@[simp] theorem tidy_str {value : String} : (str value).Tidy answers := allParts_str.mpr trivial

@[simp] theorem tidy_null : Expr.null.Tidy answers := allParts_null.mpr trivial

@[simp] theorem tidy_member {object : Expr} {property : String} :
    (object.member property).Tidy answers ↔ SimpleName property ∧ object.Tidy answers := allParts_member

@[simp] theorem tidy_call {callee : Expr} {args : List Expr} :
    (callee.call args).Tidy answers ↔ callee.Tidy answers ∧ ∀ e ∈ args, e.Tidy answers :=
  allParts_call.trans (iff_of_eq (true_and _))

@[simp] theorem tidy_array {items : List Expr} : (array items).Tidy answers ↔ ∀ e ∈ items, e.Tidy answers :=
  allParts_array.trans (iff_of_eq (true_and _))

@[simp] theorem tidy_concat {operands : List Expr} :
    (concat operands).Tidy answers ↔ ∀ e ∈ operands, e.Tidy answers :=
  allParts_concat.trans (iff_of_eq (true_and _))

/-- The printed form of a tidy expression is balanced by the answers for its texts. -/
theorem Tidy.balancedBy_print {e : Expr} (h : e.Tidy answers) : BalancedBy (e.slashes answers) e.print.toList :=
  (e.readsBack h).balancedBy

end Tidy

end Expr

/-! ## Statements -/

/-- A statement with a plain variable and a tidy expression. -/
def Stmt.Tidy (answers : String → List Slash) : Stmt → Prop
  | .var name init => PlainName name ∧ init.Tidy answers
  | .expr e => e.Tidy answers

/-- A tidy statement is balanced by the answers for its expression. -/
theorem Stmt.Tidy.balancedBy {answers : String → List Slash} {s : Stmt} (h : s.Tidy answers) :
    BalancedBy (s.value.slashes answers) s.print.toList := by
  cases s with
  | var name init =>
    have hkeyword : BalancedBy [] "var ".toList := .of_plain (by decide)
    have hequals : BalancedBy [] " = ".toList := .of_plain (by decide)
    have hend : BalancedBy [] ";".toList := .of_plain (by decide)
    have hprint := (((hkeyword.append (.of_plain h.1)).append hequals).append h.2.balancedBy_print).append hend
    simpa [Stmt.print, Stmt.value, String.toList_append] using hprint
  | expr e =>
    have hend : BalancedBy [] ";".toList := .of_plain (by decide)
    simpa [Stmt.print, Stmt.value, String.toList_append] using (Expr.Tidy.balancedBy_print h).append hend

end WidgetTemplates.Script
