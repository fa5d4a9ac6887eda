import WidgetTemplates.Compile.Compile
import WidgetTemplates.Proofs.Compile.PrintedScope
import WidgetTemplates.Proofs.Compile.TidyWeaving
import WidgetTemplates.Proofs.Compile.Woven
import WidgetTemplates.Proofs.Script.Grammar.Whole

/-!
# The brackets of a printed module

The module of a tidy template is balanced (`balancedBy_generate`), its slashes being those of the expressions in the
order in which they are printed (`Item.slashes`). Every line that the writer adds is balanced by itself, except that the
start of a wrapper or a loop leaves a parenthesis and a brace open, which its end closes. The invariant is
`Writer.Prints`: the lines so far lead from no open bracket to those of the functions that are open.

Together with what is known of reading a template, weaving and the grammar of expressions, a compiled module is balanced
if every expression text of the template is one expression to its end (`balanced_compile`).
-/

namespace WidgetTemplates.Compile

open Script (Balanced BalancedBy Bracket Expr OnePiece Passes PlainName SimpleName Slash Stmt)
open Template (Attribute Binding Element Node TidyForest)

variable {answers : String → List Slash} {ss ss' : List Slash}

/-- The brackets of a number of open functions, each of which is an argument of a call. -/
def functionBrackets : Nat → List Bracket
  | 0 => []
  | n + 1 => .curly :: .round :: functionBrackets n

/-- The lines of a render function as text. -/
def bodyText (lines : List Line) : List Char := (String.join (lines.map RenderModule.printLine)).toList

theorem bodyText_append (lines more : List Line) : bodyText (lines ++ more) = bodyText lines ++ bodyText more := by
  simp [bodyText, String.join_append, String.toList_append]

/-- The blanks before a line and the line feed behind it do not matter. -/
theorem passes_line {l : Line} {k k' : List Bracket} (h : Passes ss l.text.toList k k') :
    Passes ss (bodyText [l]) k k' := by
  have hblanks : Script.Plain (List.replicate (2 * l.depth) ' ') := by
    intro c hc
    rw [List.eq_of_mem_replicate hc]
    rfl
  have hend : Script.Plain ['\n'] := by decide
  have htext : bodyText [l] = List.replicate (2 * l.depth) ' ' ++ l.text.toList ++ ['\n'] := by
    simp [bodyText, String.join, RenderModule.printLine, String.toList_append]
  rw [htext]
  simpa using ((Passes.of_plain hblanks k).append h).append (.of_plain hend k')

namespace Writer

/-- The writer has declared tidy variables, and by these answers its lines leave the brackets of `n` functions open. -/
structure Prints (answers : String → List Slash) (w : Writer) (slashes : List Slash) (n : Nat) : Prop where
  unit : w.unit.Tidy answers
  lines : Passes slashes (bodyText w.lines) [] (functionBrackets n)

variable {w w' : Writer} {n m : Nat}

/-- A line that leads to other open functions. -/
theorem Prints.addLine (h : w.Prints answers ss n) (unit : w'.unit = w.unit) {l : Line}
    (lines : w'.lines = w.lines ++ [l])
    (passes : Passes ss' l.text.toList (functionBrackets n) (functionBrackets m)) :
    w'.Prints answers (ss ++ ss') m := by
  refine ⟨unit ▸ h.unit, ?_⟩
  rw [lines, bodyText_append]
  exact h.lines.append (passes_line passes)

/-- A line that has no slashes outside strings. -/
theorem Prints.addPlainLine (h : w.Prints answers ss n) (unit : w'.unit = w.unit) {l : Line}
    (lines : w'.lines = w.lines ++ [l])
    (passes : Passes [] l.text.toList (functionBrackets n) (functionBrackets m)) : w'.Prints answers ss m :=
  List.append_nil ss ▸ h.addLine unit lines passes

/-- The line that writes static markup is balanced. -/
theorem balancedBy_markupLine (markup : String) : BalancedBy [] (markupLine markup).toList := by
  have hfunction : BalancedBy [] "out.w".toList := .of_plain (by decide)
  have hcall := (OnePiece.parens (OnePiece.quote markup).balancedBy).balancedBy
  have hend : BalancedBy [] [';'] := .of_plain (by decide)
  simpa [markupLine, String.toList_append] using (hfunction.append hcall).append hend

/-- Writing out the pending markup opens and closes nothing. -/
theorem Prints.flush (h : w.Prints answers ss n) : w.flush.Prints answers ss n := by
  rw [Writer.flush]
  split
  · exact h
  · exact h.addPlainLine rfl rfl ((balancedBy_markupLine w.pending).passes _)

/-- A statement has the slashes of its expression. -/
theorem Prints.stmt (h : w.Prints answers ss n) {s : Stmt} (tidy : s.Tidy answers) :
    (w.stmt s).Prints answers (ss ++ s.value.slashes answers) n :=
  h.flush.addLine rfl rfl (tidy.balancedBy.passes _)

/-- The start of a function adds its brackets to the open ones. -/
theorem Prints.indent (h : w.Prints answers ss n) {text : String}
    (opens : Passes ss' text.toList [] [.curly, .round]) :
    (w.indent text).Prints answers (ss ++ ss') (n + 1) :=
  h.flush.addLine rfl rfl (opens.within _)

/-- The end of a function closes the brackets of the innermost one. -/
theorem Prints.dedent (h : w.Prints answers ss (n + 1)) : (w.dedent "\x7d);").Prints answers ss n := by
  have hclose : Passes [] "\x7d);".toList [.curly, .round] [] := rfl
  exact h.flush.addPlainLine rfl rfl (hclose.within (functionBrackets n))

/-- A call of a function of the markup helpers has the slashes of its arguments. -/
theorem Prints.helperCall (h : w.Prints answers ss n) {function : String} {args : List Expr}
    (simple : SimpleName function) (tidy : ∀ e ∈ args, e.Tidy answers) :
    (w.helperCall function args).Prints answers (ss ++ args.flatMap (Expr.slashes answers)) n := by
  have hcall : (((Expr.ident "__markoHelpers").member function).call args).Tidy answers := by
    rw [Expr.tidy_call, Expr.tidy_member, Expr.tidy_ident]
    exact ⟨⟨simple, by decide⟩, tidy⟩
  have hstmt : (Stmt.expr ((Expr.out.member "w").call
      [((Expr.ident "__markoHelpers").member function).call args])).Tidy answers := by
    rw [Script.Stmt.Tidy, Expr.tidy_call, Expr.tidy_member, Expr.out, Expr.tidy_ident]
    exact ⟨⟨by decide, by decide⟩, List.forall_mem_singleton.mpr hcall⟩
  have hdeclared : Prints answers { w with unit := w.unit.importModule "__markoHelpers" "marko/runtime/html/helpers" }
      ss n :=
    ⟨h.unit.importModule (by simp [helperModules]), h.lines⟩
  have hslashes : (((Expr.out.member "w").call [((Expr.ident "__markoHelpers").member function).call args]).slashes
      answers) = args.flatMap (Expr.slashes answers) := by
    simp [Expr.slashes_call, Expr.slashes_member, Expr.slashes_ident, Expr.out]
  exact hslashes ▸ hdeclared.stmt hstmt

end Writer

/-! ## The items of a forest -/

/-- The slashes of an item, those of its expressions in the order in which they are printed. -/
def Item.slashes (answers : String → List Slash) (item : Item) : List Slash :=
  item.exprs.flatMap (Expr.slashes answers)

/-- The start of a wrapper leaves a parenthesis and a brace open. -/
theorem passes_openWidget {b : Binding} (tidy : b.helper.Tidy answers ∧ b.widgetType.Tidy answers) :
    Passes (Item.slashes answers (.openWidget b))
      (b.helper.print ++ "(out, " ++ b.widgetType.print ++ ", function (widget) \x7b").toList [] [.curly, .round] := by
  have hcall : Passes [] "(out, ".toList [] [.round] := rfl
  have hfunction : Passes [] ", function (widget) \x7b".toList [.round] [.curly, .round] := rfl
  have hopen := ((tidy.1.balancedBy_print.passes []).append hcall).append
    ((tidy.2.balancedBy_print.passes [.round]).append hfunction)
  simpa [Item.slashes, Item.exprs, String.toList_append] using hopen

/-- The source of a loop is balanced, in parentheses or not. -/
theorem balancedBy_loopSource {source : Expr} (tidy : source.Tidy answers) :
    BalancedBy (source.slashes answers) (Writer.loopSource source).toList := by
  cases source with
  | raw code =>
    have hcode := tidy.balancedBy_print
    rw [Expr.print] at hcode
    simpa [Writer.loopSource, String.toList_append] using (OnePiece.parens hcode).balancedBy
  | _ => exact tidy.balancedBy_print

/-- The start of a loop leaves a parenthesis and a brace open. -/
theorem passes_openLoop {item : String} {source : Expr} (plain : PlainName item) (tidy : source.Tidy answers) :
    Passes (Item.slashes answers (.openLoop item source)) (Writer.loopHeader item source).toList []
      [.curly, .round] := by
  have hopen : Passes [] "(".toList [] [.round] := rfl
  have hdefault : Passes [] " || []).forEach(function (".toList [.round] [.round, .round] := rfl
  have hbody : Passes [] ") \x7b".toList [.round, .round] [.curly, .round] := rfl
  have hheader := (((hopen.append ((balancedBy_loopSource tidy).passes _)).append hdefault).append
    (Passes.of_plain plain _)).append hbody
  simpa [Item.slashes, Item.exprs, Writer.loopHeader, String.toList_append] using hheader

/-- An item leads from `n` open functions to `m`: the start of a wrapper or a loop opens one and the end of a function
closes it, where all expressions are tidy. -/
inductive Item.Leads (answers : String → List Slash) : Item → Nat → Nat → Prop
  | markup (text : String) (n : Nat) : Leads answers (.markup text) n n
  | stmt {s : Stmt} (tidy : s.Tidy answers) (n : Nat) : Leads answers (.stmt s) n n
  | helper {function : String} {args : List Expr} (simple : SimpleName function) (tidy : ∀ e ∈ args, e.Tidy answers)
    (n : Nat) : Leads answers (.helper function args) n n
  | openWidget {b : Binding} (tidy : b.helper.Tidy answers ∧ b.widgetType.Tidy answers) (n : Nat) :
    Leads answers (.openWidget b) n (n + 1)
  | openLoop {item : String} {source : Expr} (plain : PlainName item) (tidy : source.Tidy answers) (n : Nat) :
    Leads answers (.openLoop item source) n (n + 1)
  | close (n : Nat) : Leads answers .close (n + 1) n

/-- The lines with an item more have its slashes behind those that they have. -/
theorem Writer.Prints.put {w : Writer} {n m : Nat} (h : w.Prints answers ss n) {item : Item}
    (leads : item.Leads answers n m) : (w.put item).Prints answers (ss ++ item.slashes answers) m := by
  cases leads with
  | markup text =>
    have hmarkup : (w.markup text).Prints answers ss n := ⟨h.unit, h.lines⟩
    simpa [Item.slashes, Item.exprs, Writer.put] using hmarkup
  | stmt tidy => simpa [Item.slashes, Item.exprs, Writer.put] using h.stmt tidy
  | helper simple tidy => exact h.helperCall simple tidy
  | openWidget tidy => exact h.indent (passes_openWidget tidy)
  | openLoop plain tidy => exact h.indent (passes_openLoop plain tidy)
  | close => simpa [Item.slashes, Item.exprs, Writer.put] using h.dedent

/-- Items in order lead from `n` open functions to `m`. -/
inductive Lead (answers : String → List Slash) : List Item → Nat → Nat → Prop
  | nil (n : Nat) : Lead answers [] n n
  | cons {item : Item} {rest : List Item} {n k m : Nat} (first : item.Leads answers n k)
    (others : Lead answers rest k m) : Lead answers (item :: rest) n m

namespace Lead

variable {items more : List Item} {n k m : Nat}

theorem single {item : Item} (h : item.Leads answers n m) : Lead answers [item] n m := .cons h (.nil m)

theorem append (h : Lead answers items n k) (h' : Lead answers more k m) : Lead answers (items ++ more) n m := by
  induction h with
  | nil => exact h'
  | cons first _ ih => exact .cons first (ih h')

theorem of_forall (h : ∀ item ∈ items, item.Leads answers n n) : Lead answers items n n := by
  induction items with
  | nil => exact .nil n
  | cons item rest ih =>
    rw [List.forall_mem_cons] at h
    exact .cons h.1 (ih h.2)

end Lead

/-- The lines with the items have their slashes in order. -/
theorem Writer.Prints.putAll {w : Writer} {items : List Item} {n m : Nat} (h : w.Prints answers ss n)
    (lead : Lead answers items n m) :
    (w.putAll items).Prints answers (ss ++ items.flatMap (Item.slashes answers)) m := by
  induction lead generalizing w ss with
  | nil => simpa using h
  | cons first _ ih =>
    rw [List.flatMap_cons, ← List.append_assoc]
    exact ih (h.put first)

section Forest

variable {el : Element}

/-- Statements open and close nothing. -/
theorem lead_stmts {ss : List Stmt} (tidy : ∀ s ∈ ss, s.Tidy answers) (n : Nat) : Lead answers (ss.map .stmt) n n :=
  .of_forall (List.forall_mem_map.mpr fun s hs => .stmt (tidy s hs) n)

/-- An attribute opens and closes nothing, whether it is computed or not. -/
theorem leads_attr {a : Attribute} (tidy : ∀ e ∈ a.value, e.Tidy answers) (n : Nat) :
    (printedAttr a).Leads answers n n := by
  rcases a with ⟨name, _ | value⟩
  · exact .markup _ n
  · have hargs : ∀ e ∈ [Expr.str name, value], e.Tidy answers :=
      List.forall_mem_cons.mpr ⟨Expr.tidy_str, List.forall_mem_singleton.mpr (tidy value rfl)⟩
    cases value with
    | str => exact .markup _ n
    | _ => exact .helper (by decide) hargs n

/-- How many functions are open inside an element of which `n` are open outside. -/
def innerCount (n : Nat) (el : Element) : Nat := if el.widget.isSome then n + 1 else n

/-- The start of an element leaves the function of its wrapper open, if it has one. -/
theorem lead_open (tidy : el.Tidy answers) (n : Nat) : Lead answers (printedOpen el) n (innerCount n el) := by
  have hstart : Lead answers (wrapperStart el.widget) n (innerCount n el) := by
    rcases hw : el.widget with _ | b
    · simpa [wrapperStart, innerCount, hw] using Lead.nil n
    · simpa [wrapperStart, innerCount, hw] using Lead.single (.openWidget (tidy.widget b hw) n)
  have hattributes : Lead answers (el.attributes.map printedAttr) (innerCount n el) (innerCount n el) :=
    .of_forall (List.forall_mem_map.mpr fun a ha => leads_attr (tidy.attributes a ha) _)
  exact ((lead_stmts tidy.before n).append hstart).append
    (.cons (.markup _ _) (hattributes.append (.single (.markup _ _))))

/-- The end of an element closes the function of its wrapper, if it has one. -/
theorem lead_close (tidy : el.Tidy answers) (n : Nat) : Lead answers (printedClose el) (innerCount n el) n := by
  have htag : Lead answers (endTag el.tag) (innerCount n el) (innerCount n el) := by
    rw [endTag]
    split
    · exact .nil _
    · exact .single (.markup _ _)
  have hend : Lead answers (wrapperEnd el.widget) (innerCount n el) n := by
    rcases hw : el.widget with _ | b
    · simpa [wrapperEnd, innerCount, hw] using Lead.nil n
    · simpa [wrapperEnd, innerCount, hw] using Lead.single (.close n)
  exact (htag.append hend).append (lead_stmts tidy.after n)

/-- What is printed for a tidy forest closes every function that it opens. -/
theorem lead_printedAll {nodes : List Node} (tidy : TidyForest answers nodes) (n : Nat) :
    Lead answers (printedAll nodes) n n := by
  induction nodes using Template.forestInduction generalizing n with
  | nil => exact .nil n
  | element el children rest inside after =>
    obtain ⟨hel, hchildren, hrest⟩ := Template.tidyForest_element.mp tidy
    -- a void element prints no children
    have hcontent : Lead answers (if Template.isVoid el.tag then [] else printedAll children) (innerCount n el)
        (innerCount n el) := by
      split
      · exact .nil _
      · exact inside hchildren _
    exact (((lead_open hel n).append hcontent).append (lead_close hel n)).append (after hrest n)
  | loop item source body location rest inside after =>
    obtain ⟨⟨hitem, hsource⟩, hbody, hrest⟩ := Template.tidyForest_loop.mp tidy
    have hloop : Lead answers (printedAll body ++ [.close]) (n + 1) n := (inside hbody _).append (.single (.close n))
    exact (Lead.cons (.openLoop hitem hsource n) hloop).append (after hrest n)
  | text value location rest after =>
    obtain ⟨-, hrest⟩ := Template.throughout_text.mp tidy
    exact .cons (.markup _ n) (after hrest n)
  | expression expr location rest after =>
    obtain ⟨hexpr, hrest⟩ := Template.throughout_expression.mp tidy
    exact .cons (.helper (by decide) (List.forall_mem_singleton.mpr hexpr) n) (after hrest n)
  | code stmt rest after =>
    obtain ⟨hstmt, hrest⟩ := Template.throughout_code.mp tidy
    exact .cons (.stmt hstmt n) (after hrest n)

end Forest

/-! ## The module -/

/-- The line of a variable is balanced. -/
theorem balancedBy_declaration {d : Declaration} (h : SimpleName d.name ∧ BalancedBy [] d.code.toList) :
    BalancedBy [] (RenderModule.printDeclaration d).toList := by
  have hkeyword : BalancedBy [] "var ".toList := .of_plain (by decide)
  have hequals : BalancedBy [] " = ".toList := .of_plain (by decide)
  have hend : BalancedBy [] ";\n".toList := .of_plain (by decide)
  simp only [RenderModule.printDeclaration, String.toList_append]
  exact (((hkeyword.append (.of_plain h.1.1)).append hequals).append h.2).append hend

/-- The lines of the variables are balanced. -/
theorem balancedBy_declarations {ds : List Declaration}
    (h : ∀ d ∈ ds, SimpleName d.name ∧ BalancedBy [] d.code.toList) :
    BalancedBy [] (String.join (ds.map RenderModule.printDeclaration)).toList := by
  induction ds with
  | nil => exact .nil
  | cons d rest ih =>
    rw [List.forall_mem_cons] at h
    simpa [String.toList_append] using (balancedBy_declaration h.1).append (ih h.2)

/-- **The module of a tidy template is balanced**, its slashes being those of what is printed, in order. -/
theorem balancedBy_generate {u : CompileUnit} {nodes : List Node} (unit : u.Tidy answers)
    (tidy : TidyForest answers nodes) :
    BalancedBy ((printedAll nodes).flatMap (Item.slashes answers)) (generate u nodes).1.print.toList := by
  have hstart : Writer.Prints answers { unit := u } [] 0 := ⟨unit, Passes.nil []⟩
  have hend : (Writer.nodes { unit := u } nodes).flush.Prints answers
      ([] ++ (printedAll nodes).flatMap (Item.slashes answers)) 0 := by
    rw [← Writer.putAll_printedAll]
    exact (hstart.putAll (lead_printedAll tidy 0)).flush
  have hhead : Passes [] "module.exports = function render(data, out) \x7b\n".toList [] [.curly] := rfl
  have htail : Passes [] "\x7d;\n".toList [.curly] [] := rfl
  have hstrict : BalancedBy [] "\"use strict\";\n".toList := rfl
  have hbody : BalancedBy _ (bodyText (Writer.nodes { unit := u } nodes).flush.lines) := hend.lines
  have hdeclared : Passes [] _ [] [] := hstrict.append (balancedBy_declarations hend.unit.declarations)
  rw [generate]
  delta RenderModule.print
  rw [String.toList_append, String.toList_append, String.toList_append, String.toList_append]
  have hmodule := ((hdeclared.append hhead).append (hbody.passes [.curly])).append htail
  rwa [List.append_nil] at hmodule

/-! ## Whole templates -/

/-- A compilation starts with no widget and no declaration. -/
theorem tidy_start (settings : Template.Settings) (files : Path.Files) :
    CompileUnit.Tidy answers { settings, files } :=
  ⟨nofun, nofun⟩

/-- **A module is balanced if every expression text of its template is an expression to its end.** The slashes of
the module are those of the texts that are printed, in order, and what each of them is says the grammar of
expressions. That a text begins with an expression, which is all that compiling checks, is not enough
(`unbalanced_of_trailing_bracket`). -/
theorem balanced_compile (source : String) (settings : Template.Settings) (files : Path.Files)
    (whole : ∀ code ∈ Template.expressionTexts (Template.parse source settings).nodes,
      Script.Grammar.readsWhole code.toList = true) :
    BalancedBy
      ((printedAll (weave { settings, files } (Template.parse source settings).nodes).1).flatMap
        (Item.slashes Script.Grammar.slashesOf))
      (compile source settings files).code.toList := by
  have htidy : TidyForest Script.Grammar.slashesOf (Template.parse source settings).nodes :=
    Template.tidyForest_parse fun code hcode => Script.Grammar.balancedBy_of_readsWhole (whole code hcode)
  obtain ⟨hunit, hnodes⟩ := (weaveForest_woven false { settings, files } _).tidy (tidy_start settings files) htidy
  rw [← weave_eq rfl] at hunit hnodes
  rw [compile]
  exact balancedBy_generate hunit hnodes

/-- A loop over the items of a text: the only slash of the module divides. -/
theorem balanced_compile_of_loop :
    Template.expressionTexts (Template.parse "<for each=\"x in ${y}\">${[x / 2]}</for>" {}).nodes = ["y", "[x / 2]"] ∧
      BalancedBy [.divides] (compile "<for each=\"x in ${y}\">${[x / 2]}</for>" {} {}).code.toList := by
  have htexts : Template.expressionTexts (Template.parse "<for each=\"x in ${y}\">${[x / 2]}</for>" {}).nodes =
      ["y", "[x / 2]"] := by decide +kernel
  have hslashes : (printedAll (weave { settings := {}, files := {} }
      (Template.parse "<for each=\"x in ${y}\">${[x / 2]}</for>" {}).nodes).1).flatMap
        (Item.slashes Script.Grammar.slashesOf) = [.divides] := by decide +kernel
  have hbalanced := balanced_compile "<for each=\"x in ${y}\">${[x / 2]}</for>" {} {}
    (by rw [htexts]; decide +kernel)
  exact ⟨htexts, hslashes ▸ hbalanced⟩

/-- A text is not balanced if a bracket is closed in it that is not the innermost one. -/
theorem not_balanced_of_run {before rest : List Char} {c : Char} {k : List Bracket}
    (passes : Passes [] before [] k)
    (stuck : ∀ slashes, Script.Reading.next ⟨slashes, .script, k⟩ c = none) : ¬ Balanced (before ++ c :: rest) := by
  rintro ⟨slashes, hrun⟩
  have hbefore : Script.Reading.run ⟨slashes, .script, []⟩ before = some ⟨slashes, .script, k⟩ := passes.run slashes
  rw [BalancedBy, Passes, Script.Reading.run_of_run hbefore, Script.Reading.run_cons, stuck] at hrun
  cases hrun

/-- A closing parenthesis behind the expression is printed as it stands, and nothing is reported. -/
theorem unbalanced_of_trailing_bracket :
    (compile "<p>${a)}</p>" {} {}).diagnostics = [] ∧ ¬ Balanced (compile "<p>${a)}</p>" {} {}).code.toList := by
  have hcode : (compile "<p>${a)}</p>" {} {}).code =
      "\"use strict\";\nvar __markoHelpers = require(\"marko/runtime/html/helpers\");\n" ++
        "module.exports = function render(data, out) \x7b\n  out.w(\"<p>\");\n  out.w(__markoHelpers.x(a))" ++
        (")" ++ ";\n  out.w(\"</p>\");\n\x7d;\n") := by decide +kernel
  refine ⟨by decide +kernel, ?_⟩
  rw [hcode, String.toList_append, String.toList_append, String.toList_append]
  exact not_balanced_of_run (k := [.curly]) (by decide +kernel) fun _ => rfl

end WidgetTemplates.Compile
