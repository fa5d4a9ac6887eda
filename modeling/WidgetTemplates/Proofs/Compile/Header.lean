import WidgetTemplates.Proofs.Compile.Woven

/-!
# The variables at the top of the module

Variables are declared all the time while a template is woven and printed, and each operation declares at most a few:
a helper, the function that clears what has been handed over, or the description of a widget. `Declaration.Follows`
says what a new variable can be, given those that are there, and a unit `Extends` another one when it has come about
by declaring such variables one after another. Every edit extends the unit, and so do closing an element and weaving
a forest (`Woven.extends`).

So the variables of a template, which starts with none, form a `Header`: their names differ, each initializer refers
to earlier ones only, and each helper is required from its own path.
-/

namespace WidgetTemplates.Compile

open Script (Expr)
open Template (Element Node)
open Relation (ReflTransGen)

/-! ## Initializers -/

/-- The call that requires a module. -/
def requireCall (path : String) : Expr := (Expr.ident "require").call [.str path]

/-- A call that loads a module is printed with its path as a literal. -/
theorem print_requireCall (path : String) : (requireCall path).print = "require(" ++ Script.quote path ++ ")" := by
  simp [requireCall, Expr.print, Expr.printOperand, Expr.printList, String.append_assoc]

/-- The value of a variable at the top of the module: a module, a property of a variable, or the description of the
widget of some name in a module. -/
inductive Initializer where
  | module (path : String)
  | property (holder key : String)
  | description (widget path : String)

namespace Initializer

/-- The code of an initializer. -/
def code : Initializer → String
  | .module path => (requireCall path).print
  | .property holder key => ((Expr.ident holder).member key).print
  | .description widget path =>
    "\x7bname: " ++ (Expr.str widget).print ++ ", def: function() \x7b return " ++ (requireCall path).print
      ++ "; \x7d\x7d"

/-- The expressions in an initializer. -/
def exprs : Initializer → List Expr
  | .module path => [requireCall path]
  | .property holder key => [(Expr.ident holder).member key]
  | .description widget path => [.str widget, requireCall path]

/-- An initializer refers to a name. No text of a template is in it. -/
def RefersTo (name : String) (i : Initializer) : Prop := ∃ e ∈ i.exprs, e.Mentions (fun _ => False) name

theorem code_module (path : String) : (module path).code = "require(" ++ Script.quote path ++ ")" :=
  print_requireCall path

/-- The description of the widget in a module is the code that the compile unit declares for it. -/
theorem code_description (u : CompileUnit) (path : String) :
    (description (u.widgetName path) path).code = u.widgetTypeCode path := by
  simp only [code, print_requireCall, Expr.print, CompileUnit.widgetTypeCode, String.append_assoc]
  rfl

@[simp] theorem refersTo_module {name path : String} : (module path).RefersTo name ↔ name = "require" := by
  simp [RefersTo, exprs, requireCall, eq_comm]

@[simp] theorem refersTo_property {name holder key : String} :
    (property holder key).RefersTo name ↔ name = holder := by
  simp [RefersTo, exprs, eq_comm]

@[simp] theorem refersTo_description {name widget path : String} :
    (description widget path).RefersTo name ↔ name = "require" := by
  simp [RefersTo, exprs, requireCall, eq_comm]

end Initializer

/-! ## What can be declared -/

/-- The helpers and the paths that they are required from: those of the widgets runtime come from the module that the
settings name, the one for markup does not. -/
def helperModules (widgetsModule : String) : List (String × String) :=
  [("__widgetArgs", widgetsModule ++ "/taglib/helpers/widgetArgs"),
    ("__widgetBody", widgetsModule ++ "/taglib/helpers/widgetBody"),
    ("__widgetTag", widgetsModule ++ "/taglib/widget-tag"),
    ("__markoHelpers", "marko/runtime/html/helpers")]

/-- The names of variables that describe widgets: `__widgetType`, `__widgetType2` and so on. -/
def IsTypeName (name : String) : Prop := name = "__widgetType" ∨ ∃ n, 2 ≤ n ∧ name = "__widgetType" ++ toString n

/-- The names that weaving and printing give to variables at the top of the module. -/
def IsHelperName (name : String) : Prop :=
  name ∈ ["__widgetArgs", "_cleanupWidgetArgs", "__widgetBody", "__widgetTag", "__markoHelpers"] ∨ IsTypeName name

/-- A fresh name for a widget type is a name of a widget type. -/
theorem isTypeName_freshName (u : CompileUnit) : IsTypeName (u.freshName "__widgetType") := by
  rw [CompileUnit.freshName]
  rcases hf : List.find? _ _ with _ | name
  · exact .inl rfl
  · rcases List.mem_cons.mp (List.mem_of_find?_eq_some hf) with rfl | hmem
    · exact .inl rfl
    · obtain ⟨i, -, rfl⟩ := List.mem_map.mp hmem
      exact .inr ⟨i + 2, by omega, rfl⟩

/-- All names of widget types start the same. -/
theorem IsTypeName.starts {name : String} (h : IsTypeName name) : "__widgetType".toList <+: name.toList := by
  rcases h with rfl | ⟨n, -, rfl⟩
  · exact List.prefix_refl _
  · rw [String.toList_append]
    exact List.prefix_append _ _

/-- No name that stands for something else is the name of a helper. -/
theorem not_isHelperName {name : String} (noType : ¬ "__widgetType".toList <+: name.toList)
    (other : name ∉ ["__widgetArgs", "_cleanupWidgetArgs", "__widgetBody", "__widgetTag", "__markoHelpers"]) :
    ¬ IsHelperName name := by
  rintro (h | h)
  · exact other h
  · exact noType h.starts

/-- The variables that hold ids are none of the helpers. -/
theorem not_isHelperName_idVariable (n : Nat) : ¬ IsHelperName ("__widgetId" ++ toString n) := by
  have hstarts : "__widgetId".toList <+: ("__widgetId" ++ toString n).toList := by
    rw [String.toList_append]
    exact List.prefix_append _ _
  apply not_isHelperName
  · intro htype
    exact absurd (List.prefix_of_prefix_length_le hstarts htype (by decide)) (by decide)
  · intro hmem
    have hnone : ∀ name ∈ ["__widgetArgs", "_cleanupWidgetArgs", "__widgetBody", "__widgetTag", "__markoHelpers"],
        ¬ "__widgetId".toList <+: name.toList := by decide
    exact hnone _ hmem hstarts

/-- The parameters of the functions in the module are none of the helpers. -/
theorem not_isHelperName_parameter : ∀ name ∈ ["out", "data", "widget", "w"], ¬ IsHelperName name := by
  intro name hname
  have hnone : ∀ name ∈ ["out", "data", "widget", "w"], ¬ "__widgetType".toList <+: name.toList ∧
      name ∉ ["__widgetArgs", "_cleanupWidgetArgs", "__widgetBody", "__widgetTag", "__markoHelpers"] := by decide
  exact not_isHelperName (hnone name hname).1 (hnone name hname).2

namespace Declaration

/-- What the next variable can be when `ds` are declared: a helper, the function that clears what has been handed over,
which the helper for handing over has, or the description of a widget. -/
inductive Follows (widgetsModule : String) (ds : List Declaration) : Declaration → Prop
  | helper {name path : String} (known : (name, path) ∈ helperModules widgetsModule) :
    Follows widgetsModule ds ⟨name, (Initializer.module path).code⟩
  | cleanup (helper : ∃ d ∈ ds, d.name = "__widgetArgs") :
    Follows widgetsModule ds ⟨"_cleanupWidgetArgs", (Initializer.property "__widgetArgs" "cleanup").code⟩
  | description {name : String} (typeName : IsTypeName name) (widget path : String) :
    Follows widgetsModule ds ⟨name, (Initializer.description widget path).code⟩

variable {widgetsModule : String} {ds : List Declaration} {d : Declaration}

/-- A variable that can be declared has a helper name. -/
theorem Follows.isHelperName (h : d.Follows widgetsModule ds) : IsHelperName d.name := by
  cases h with
  | helper known =>
    refine .inl ?_
    simp only [helperModules, List.mem_cons, Prod.mk.injEq, List.not_mem_nil, or_false] at known
    rcases known with ⟨rfl, -⟩ | ⟨rfl, -⟩ | ⟨rfl, -⟩ | ⟨rfl, -⟩ <;> simp
  | cleanup helper => exact .inl (by simp)
  | description typeName widget path => exact .inr typeName

/-- The initializer of a new variable refers to those that are there. -/
theorem Follows.refers (h : d.Follows widgetsModule ds) :
    ∃ i : Initializer, d.code = i.code ∧
      ∀ name, i.RefersTo name → name = "require" ∨ ∃ d' ∈ ds, d'.name = name := by
  cases h with
  | @helper name path known => exact ⟨.module path, rfl, fun name hname => .inl (by simpa using hname)⟩
  | cleanup helper =>
    refine ⟨.property "__widgetArgs" "cleanup", rfl, ?_⟩
    intro name hname
    obtain rfl : name = "__widgetArgs" := by simpa using hname
    exact .inr helper
  | description typeName widget path =>
    exact ⟨.description widget path, rfl, fun name hname => .inl (by simpa using hname)⟩

/-- A variable with the name of a helper is required from the path of that helper. -/
theorem Follows.code_of_helper (h : d.Follows widgetsModule ds) {path : String}
    (known : (d.name, path) ∈ helperModules widgetsModule) : d.code = (Initializer.module path).code := by
  have hpath : ∀ {name path path' : String}, (name, path) ∈ helperModules widgetsModule →
      (name, path') ∈ helperModules widgetsModule → path' = path := by
    intro name path path' h h'
    simp only [helperModules, List.mem_cons, Prod.mk.injEq, List.not_mem_nil, or_false] at h h'
    rcases h with ⟨rfl, rfl⟩ | ⟨rfl, rfl⟩ | ⟨rfl, rfl⟩ | ⟨rfl, rfl⟩ <;> simpa using h'
  cases h with
  | helper known' => rw [hpath known known']
  | cleanup helper => simp [helperModules] at known
  | description typeName widget path' =>
    have hstarts := typeName.starts
    simp only [helperModules, List.mem_cons, Prod.mk.injEq, List.not_mem_nil, or_false] at known
    rcases known with ⟨rfl, -⟩ | ⟨rfl, -⟩ | ⟨rfl, -⟩ | ⟨rfl, -⟩ <;> exact absurd hstarts (by decide)

/-- A variable whose code describes a widget has the name of one that does. -/
theorem Follows.isTypeName (h : d.Follows widgetsModule ds) {u : CompileUnit} {path : String}
    (code : d.code = u.widgetTypeCode path) : IsTypeName d.name := by
  have hbrace : d.code.toList.head? = some '{' := by
    rw [code, CompileUnit.widgetTypeCode]
    simp [String.toList_append]
  cases h with
  | helper known =>
    rw [Initializer.code_module] at hbrace
    simp [String.toList_append] at hbrace
  | cleanup helper => exact absurd hbrace (by decide)
  | description typeName widget path => exact typeName

end Declaration

/-- One more variable is declared, under a name of its own. -/
inductive Declares (widgetsModule : String) (ds : List Declaration) : List Declaration → Prop
  | declare {d : Declaration} (fresh : ∀ d' ∈ ds, d'.name ≠ d.name) (follows : d.Follows widgetsModule ds) :
    Declares widgetsModule ds (ds ++ [d])

/-! ## How units go on -/

namespace CompileUnit

/-- The unit `u'` has come about from `u`, by declaring variables one after another, among other things. The settings
stay. -/
structure Extends (u u' : CompileUnit) : Prop where
  settings : u'.settings = u.settings
  declares : ReflTransGen (Declares u.settings.widgetsModule) u.declarations u'.declarations

variable {u u' u'' : CompileUnit}

/-- A unit with the same variables has come about from the other one. -/
theorem Extends.of_eq (settings : u'.settings = u.settings) (declarations : u'.declarations = u.declarations) :
    u.Extends u' :=
  ⟨settings, by rw [declarations]⟩

theorem Extends.refl (u : CompileUnit) : u.Extends u := .of_eq rfl rfl

theorem Extends.trans (h : u.Extends u') (h' : u'.Extends u'') : u.Extends u'' := by
  refine ⟨h'.settings.trans h.settings, h.declares.trans ?_⟩
  have hrest := h'.declares
  rwa [h.settings] at hrest

/-- What is true of the variables of a unit and of all that can be declared is true of those of a unit that extends
it. -/
theorem Extends.forall_declarations {p : Declaration → Prop} (h : u.Extends u') (start : ∀ d ∈ u.declarations, p d)
    (follows : ∀ ds d, d.Follows u.settings.widgetsModule ds → p d) : ∀ d ∈ u'.declarations, p d := by
  have hall : ∀ {ds : List Declaration}, ReflTransGen (Declares u.settings.widgetsModule) u.declarations ds →
      ∀ d ∈ ds, p d := by
    intro ds hds
    induction hds with
    | refl => exact start
    | tail _ step ih =>
      cases step with
      | declare fresh hfollows =>
        exact List.forall_mem_append.mpr ⟨ih, List.forall_mem_singleton.mpr (follows _ _ hfollows)⟩
  exact hall h.declares

/-- No variable is taken back. -/
theorem Extends.subset (h : u.Extends u') : u.declarations ⊆ u'.declarations := by
  have hall : ∀ {ds : List Declaration}, ReflTransGen (Declares u.settings.widgetsModule) u.declarations ds →
      u.declarations ⊆ ds := by
    intro ds hds
    induction hds with
    | refl => exact List.Subset.refl _
    | tail _ step ih =>
      cases step with
      | declare => exact List.subset_append_of_subset_left _ ih
  exact hall h.declares

/-- Declaring a variable that may follow extends a unit. -/
theorem extends_declare {name code : String}
    (follows : Declaration.Follows u.settings.widgetsModule u.declarations ⟨name, code⟩) :
    u.Extends (u.declare name code) := by
  by_cases hfresh : ∀ d ∈ u.declarations, d.name ≠ name
  · rw [Site.declare_of_fresh hfresh]
    exact ⟨rfl, .single (.declare hfresh follows)⟩
  · rw [declare, if_pos (by simpa using hfresh)]
    exact .refl u

/-- Importing a helper extends a unit. -/
theorem extends_importModule {name path : String} (known : (name, path) ∈ helperModules u.settings.widgetsModule) :
    u.Extends (u.importModule name path) := by
  refine extends_declare ?_
  rw [← Initializer.code_module]
  exact .helper known

/-- A module of the widgets runtime is required from the module that the settings name. -/
theorem requirePath_append (u : CompileUnit) (rest : String) :
    u.requirePath (Template.defaultWidgetsModule ++ rest) = u.settings.widgetsModule ++ rest := by
  rw [requirePath, Text.dropStart?, String.toList_append, if_pos (by simp)]
  simp

/-- Importing a helper under its runtime path extends a unit. -/
theorem extends_importHelper (u : CompileUnit) {name target : String} (rest : String)
    (runtime : target = Template.defaultWidgetsModule ++ rest)
    (known : (name, u.settings.widgetsModule ++ rest) ∈ helperModules u.settings.widgetsModule) :
    u.Extends (u.importHelper name target) := by
  rw [importHelper, runtime, requirePath_append]
  exact extends_importModule known

/-- Describing a widget extends a unit. -/
theorem extends_widgetType (u : CompileUnit) (path : String) : u.Extends (u.widgetType path).2 := by
  rw [widgetType, declareOnce]
  split
  · exact .refl u
  · refine extends_declare ?_
    rw [← Initializer.code_description]
    exact .description (isTypeName_freshName u) _ path

/-- Teaching the containing widget extends a unit. -/
theorem extends_modifyContaining (u : CompileUnit) (f : OpenWidget → OpenWidget) :
    u.Extends (u.modifyContaining f) := by
  rw [modifyContaining]
  split
  · exact .refl u
  · exact .of_eq rfl rfl

end CompileUnit

namespace Site

variable {orig : Element} {late : Bool} {s s' : Site}

/-- Every edit extends the unit. -/
theorem Edit.extends (h : Edit orig late s s') : s.unit.Extends s'.unit := by
  cases h with
  | report p => exact .of_eq rfl rfl
  | declareType path => exact s.unit.extends_widgetType path
  | enter =>
    have hsettings : s.bindId.unit.settings = s.unit.settings :=
      congrArg Background.settings s.background_bindId
    exact .of_eq hsettings s.bindId_frame.2.2.1
  | assign repeated => rcases s.unit_assign repeated with h | h <;> rw [h] <;> exact .of_eq rfl rfl
  | ensureVariable =>
    rw [unit_ensureVariable]
    exact .refl _
  | listen name type handler =>
    unfold Site.listen
    split
    · exact .refl _
    · exact s.unit.extends_modifyContaining _
  | announce => exact s.unit.extends_modifyContaining _
  | slot =>
    exact s.unit.extends_importHelper "/taglib/helpers/widgetBody" (by decide) (by simp [helperModules])
  | _ => exact .refl _

/-- The edits at an element extend its unit. -/
theorem Edits.extends (h : Edits orig late s s') : s.unit.Extends s'.unit :=
  h.keeps (p := fun t => s.unit.Extends t.unit) (fun _ _ step ih => ih.trans step.extends) (.refl _)

/-- Declaring the variables for what is handed over extends a unit. -/
theorem extends_declareArgs (u : CompileUnit) : u.Extends (declareArgs u) := by
  have hdeposit : u.Extends (u.importHelper "__widgetArgs" "marko-widgets/taglib/helpers/widgetArgs") :=
    u.extends_importHelper "/taglib/helpers/widgetArgs" (by decide) (by simp [helperModules])
  refine hdeposit.trans (CompileUnit.extends_declare ?_)
  have hcode : "__widgetArgs.cleanup" = (Initializer.property "__widgetArgs" "cleanup").code := rfl
  rw [hcode]
  exact .cleanup (declare_declared u "__widgetArgs" _)

/-- Surrounding a custom tag extends its unit. -/
theorem extends_surround (s : Site) : s.unit.Extends s.surround.unit := by
  rcases s.surround_cases with ⟨hs, -⟩ | ⟨h, -, -, hs⟩
  · rw [hs]
    exact .refl _
  · rw [hs]
    exact extends_declareArgs s.unit

/-- Leaving an element extends its unit. -/
theorem extends_leave (s : Site) : s.unit.Extends s.leave.unit := by
  rcases s.leave_cases with ⟨-, m, hs⟩ | ⟨w, rest, -, hs⟩ <;> rw [hs]
  · exact .of_eq rfl rfl
  · have hrest : s.unit.Extends { s.unit with widgets := rest } := .of_eq rfl rfl
    exact hrest.trans (CompileUnit.extends_importHelper _ "/taglib/widget-tag" (by decide) (by simp [helperModules]))

/-- Closing a widget extends its unit. -/
theorem extends_close (s : Site) : s.unit.Extends s.close.unit := by
  rw [close]
  split
  · exact s.extends_surround.trans s.surround.extends_leave
  · exact s.extends_surround

/-- Finishing an element extends the unit after its children. -/
theorem extends_finished (el : Element) (u u₁ : CompileUnit) (inLoop : Bool) :
    u₁.Extends (finished el u inLoop u₁).unit :=
  extends_close { (start el u inLoop).applyRules with unit := u₁ }

end Site

/-- **Weaving extends the unit.** -/
theorem Woven.extends {inLoop : Bool} {u u' : CompileUnit} {nodes nodes' : List Node}
    (h : Woven inLoop u nodes nodes' u') : u.Extends u' := by
  induction h with
  | nil => exact .refl _
  | @element inLoop u u₁ u₂ el children children' rest rest' inside after ihInside ihAfter =>
    have hrules := (Site.start_edits el u inLoop).extends
    exact ((hrules.trans ihInside).trans (Site.extends_finished el u u₁ inLoop)).trans ihAfter
  | loop inside after ihInside ihAfter => exact ihInside.trans ihAfter
  | leaf leaf after ih => exact ih

/-! ## Headers -/

/-- The variables of a template: they have been declared one after another, from none. -/
def IsHeader (widgetsModule : String) (ds : List Declaration) : Prop := ReflTransGen (Declares widgetsModule) [] ds

namespace IsHeader

variable {widgetsModule : String} {ds : List Declaration}

/-- The unit of a template has declared a header. -/
theorem of_extends {u u' : CompileUnit} (h : u.Extends u') (none : u.declarations = []) :
    IsHeader u.settings.widgetsModule u'.declarations := by
  have hdeclares := h.declares
  rwa [none] at hdeclares

/-- Every variable of a header could be declared behind those before it. -/
theorem follows (h : IsHeader widgetsModule ds) {front back : List Declaration} {d : Declaration}
    (split : ds = front ++ d :: back) : d.Follows widgetsModule front ∧ ∀ d' ∈ front, d'.name ≠ d.name := by
  induction h generalizing back with
  | refl => simp at split
  | tail _ step ih =>
    cases step with
    | @declare last fresh hfollows =>
      rcases List.eq_nil_or_concat back with rfl | ⟨more, d', rfl⟩
      · obtain ⟨rfl, rfl⟩ : _ = front ∧ last = d := by simpa using split
        exact ⟨hfollows, fresh⟩
      · rw [List.concat_eq_append, ← List.cons_append, ← List.append_assoc] at split
        obtain ⟨hfront, -⟩ := List.append_inj' split rfl
        exact ih hfront

/-- The names in a header differ. -/
theorem nodup (h : IsHeader widgetsModule ds) : (ds.map (·.name)).Nodup := by
  induction h with
  | refl => exact List.nodup_nil
  | tail _ step ih =>
    cases step with
    | declare fresh hfollows =>
      rw [List.map_append, List.nodup_append]
      refine ⟨ih, by simp, ?_⟩
      intro name hname other hother
      obtain ⟨d, hd, rfl⟩ := List.mem_map.mp hname
      obtain rfl := List.mem_singleton.mp hother
      exact fresh d hd

/-- Every variable of a header could be declared after those before it. -/
theorem follows_of_mem (h : IsHeader widgetsModule ds) {d : Declaration} (mem : d ∈ ds) :
    ∃ front, d.Follows widgetsModule front := by
  obtain ⟨front, back, hsplit⟩ := List.append_of_mem mem
  exact ⟨front, (h.follows hsplit).1⟩

end IsHeader

end WidgetTemplates.Compile
