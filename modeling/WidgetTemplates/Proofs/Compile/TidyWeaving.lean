import WidgetTemplates.Proofs.Compile.Built
import WidgetTemplates.Proofs.Template.Tidy

/-!
# Weaving keeps a template tidy

Weaving brings in names and calls of its own and moves the expressions of a template around, but it makes no new
text: whatever it builds (`BuiltExpr`) is tidy if the template is. The variables that it declares are tidy anyway. So
a tidy template is tidy when it is woven (`Woven.tidy`).
-/

namespace WidgetTemplates.Compile

open Script (BalancedBy Expr Passes PlainName SimpleName Slash Stmt)
open Template (Everywhere Node TidyForest)

variable {answers : String → List Slash}

/-! ## Compile units -/

/-- What the open widgets know is tidy, and so are the variables at the top of the module. -/
structure CompileUnit.Tidy (answers : String → List Slash) (u : CompileUnit) : Prop where
  widgets : ∀ w ∈ u.widgets, w.widgetType.Tidy answers ∧ ∀ p ∈ w.pending, p.2.Tidy answers
  declarations : ∀ d ∈ u.declarations, SimpleName d.name ∧ BalancedBy [] d.code.toList

/-- A helper name is plain and has no comma. -/
theorem IsHelperName.simple {name : String} (h : IsHelperName name) : SimpleName name := by
  rcases h with h | rfl | ⟨n, -, rfl⟩
  · have hall : ∀ name ∈ ["__widgetArgs", "_cleanupWidgetArgs", "__widgetBody", "__widgetTag", "__markoHelpers"],
        SimpleName name := by decide
    exact hall name h
  · decide
  · exact .append (by decide) (Script.simpleName_toString n)

/-- A call that loads a module is tidy. -/
theorem tidy_requireCall (path : String) : (requireCall path).Tidy answers := by
  rw [requireCall, Expr.tidy_call, Expr.tidy_ident]
  exact ⟨by decide, List.forall_mem_singleton.mpr Expr.tidy_str⟩

/-- The code of a variable that can be declared is balanced, and has no slashes outside strings. -/
theorem Declaration.Follows.balancedBy {widgetsModule : String} {ds : List Declaration} {d : Declaration}
    (h : d.Follows widgetsModule ds) : BalancedBy [] d.code.toList := by
  have hrequire : ∀ path, BalancedBy [] (requireCall path).print.toList := by
    intro path
    have tidy : (requireCall path).Tidy fun _ => [] := tidy_requireCall path
    exact tidy.balancedBy_print
  cases h with
  | helper known => exact hrequire _
  | cleanup helper => exact .of_plain (by decide)
  | description typeName widget path =>
    have tidy : (Expr.str widget).Tidy fun _ => [] := Expr.tidy_str
    have hname : BalancedBy [] (Expr.str widget).print.toList := tidy.balancedBy_print
    have hopen : Passes [] "\x7bname: ".toList [] [.curly] := rfl
    have hmiddle : Passes [] ", def: function() \x7b return ".toList [.curly] [.curly, .curly] := rfl
    have hclose : Passes [] "; \x7d\x7d".toList [.curly, .curly] [] := rfl
    simp only [Initializer.code, String.toList_append]
    exact (((hopen.append (hname.passes _)).append hmiddle).append ((hrequire path).passes _)).append hclose

/-- Extending a unit keeps its variables tidy. -/
theorem CompileUnit.Extends.tidy {u u' : CompileUnit} (h : u.Extends u')
    (tidy : ∀ d ∈ u.declarations, SimpleName d.name ∧ BalancedBy [] d.code.toList) :
    ∀ d ∈ u'.declarations, SimpleName d.name ∧ BalancedBy [] d.code.toList :=
  h.forall_declarations tidy fun _ _ follows => ⟨follows.isHelperName.simple, follows.balancedBy⟩

/-- Importing a helper keeps a unit tidy. -/
theorem CompileUnit.Tidy.importModule {u : CompileUnit} (h : u.Tidy answers) {name path : String}
    (known : (name, path) ∈ helperModules u.settings.widgetsModule) : (u.importModule name path).Tidy answers :=
  ⟨by rw [Site.widgets_importModule]; exact h.widgets, (CompileUnit.extends_importModule known).tidy h.declarations⟩

/-! ## What is built of a tidy template -/

/-- A tidy template, woven in a module with these variables. -/
def tidySources (answers : String → List Slash) (declarations : List Declaration) : Sources where
  expr := Expr.Tidy answers
  stmt := Stmt.Tidy answers
  binding b := b.helper.Tidy answers ∧ b.widgetType.Tidy answers
  item := PlainName
  declarations := declarations

variable {ds : List Declaration}

/-- A tidy node can be drawn on. -/
theorem givenNode_of_tidy {node : Node} (tidy : node.Tidy answers) : GivenNode (tidySources answers ds) node := by
  cases node with
  | element el children => exact ⟨tidy.attributes, tidy.before, tidy.after, tidy.widget⟩
  | _ => exact tidy

/-- An expression that weaving builds is tidy. -/
theorem BuiltExpr.tidy (simple : ∀ d ∈ ds, SimpleName d.name) {e : Expr}
    (h : BuiltExpr (tidySources answers ds) e) : e.Tidy answers := by
  have hparameters : ∀ name ∈ ["out", "data", "widget"], SimpleName name := by decide
  have hkeys : ∀ key ∈ ["id", "elId", "name", "widgetBody"], SimpleName key := by decide
  induction h with
  | given own => exact own
  | widgetType declared code => exact Expr.tidy_ident.mpr (simple _ declared)
  | parameter known => exact Expr.tidy_ident.mpr (hparameters _ known)
  | idVariable n => exact Expr.tidy_ident.mpr (.append (by decide) (Script.simpleName_toString n))
  | str value => exact Expr.tidy_str
  | null => exact Expr.tidy_null
  | member built known ih => exact Expr.tidy_member.mpr ⟨hkeys _ known, ih⟩
  | call built all ih ihAll => exact Expr.tidy_call.mpr ⟨ih, ihAll⟩
  | array all ih => exact Expr.tidy_array.mpr ih
  | concat all ih => exact Expr.tidy_concat.mpr ih

/-- A statement that weaving builds is tidy. -/
theorem BuiltStmt.tidy (simple : ∀ d ∈ ds, SimpleName d.name) {stmt : Stmt}
    (h : BuiltStmt (tidySources answers ds) stmt) : stmt.Tidy answers := by
  cases h with
  | given own => exact own
  | idVariable n built => exact ⟨.append (by decide) (Script.plainName_toString n), built.tidy simple⟩
  | slot place content helper =>
    rw [Site.slotCall, Script.Stmt.Tidy, Expr.tidy_call, Expr.tidy_ident]
    simp only [List.forall_mem_cons, Expr.out, Expr.widget, Expr.tidy_ident]
    exact ⟨by decide, by decide, place.tidy simple, content.tidy simple, by decide, List.forall_mem_nil _⟩
  | deposit args helper =>
    rw [Site.depositStmt, Script.Stmt.Tidy, Expr.tidy_call, Expr.tidy_ident]
    exact ⟨by decide, fun e he => (args e he).tidy simple⟩
  | clear helper =>
    rw [Site.clearStmt, Script.Stmt.Tidy, Expr.tidy_call, Expr.tidy_ident]
    exact ⟨by decide, List.forall_mem_singleton.mpr (Expr.tidy_ident.mpr (by decide))⟩

/-- A node that weaving builds is tidy. -/
theorem BuiltNode.tidy (simple : ∀ d ∈ ds, SimpleName d.name) {node : Node}
    (h : BuiltNode (tidySources answers ds) node) : node.Tidy answers := by
  cases node with
  | element el children =>
    refine ⟨fun a ha e he => (h.attributes a ha e he).tidy simple, fun stmt hs => (h.before stmt hs).tidy simple,
      fun stmt hs => (h.after stmt hs).tidy simple, ?_⟩
    intro b hb
    cases h.widget b hb with
    | given own => exact own
    | root built helper => exact ⟨Expr.tidy_ident.mpr (by decide), built.tidy simple⟩
  | code stmt => exact BuiltStmt.tidy simple h
  | _ => exact h

/-- **Weaving keeps a template tidy.** -/
theorem Woven.tidy {inLoop : Bool} {u u' : CompileUnit} {nodes nodes' : List Node} (h : Woven inLoop u nodes nodes' u')
    (unit : u.Tidy answers) (tidy : TidyForest answers nodes) : u'.Tidy answers ∧ TidyForest answers nodes' := by
  have hdeclarations := h.extends.tidy unit.declarations
  have hsimple : ∀ d ∈ u'.declarations, SimpleName d.name := fun d hd => (hdeclarations d hd).1
  have hwidgets : BuiltWidgets (tidySources answers u'.declarations) u.widgets := fun w hw =>
    ⟨.given (unit.widgets w hw).1, fun p hp => .given ((unit.widgets w hw).2 p hp)⟩
  have hgiven : Everywhere (GivenNode (tidySources answers u'.declarations)) nodes :=
    fun o ho => givenNode_of_tidy (tidy o ho)
  obtain ⟨hwidgets', hnodes⟩ := h.built (List.Subset.refl _) hwidgets hgiven
  refine ⟨⟨fun w hw => ?_, hdeclarations⟩, fun o ho => (hnodes o ho).tidy hsimple⟩
  exact ⟨(hwidgets' w hw).1.tidy hsimple, fun p hp => ((hwidgets' w hw).2 p hp).tidy hsimple⟩

end WidgetTemplates.Compile
