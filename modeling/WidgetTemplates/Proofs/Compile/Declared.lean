import WidgetTemplates.Proofs.Compile.Built

/-!
# Every helper is declared

Weaving and printing refer to helpers of the runtime by names that the module has to declare. What weaving builds
mentions a helper only if it is declared, an item is printed from what has been built (`BuiltItem`), and the writer
declares the helper for markup itself as soon as it prints a call of it. So the printed module declares every helper
that it uses, provided that the template itself uses none of these names (`helpers_declared`).

What a template expression mentions is up to the reading `reads` of its text.
-/

namespace WidgetTemplates

open Script (Expr Stmt)

/-- The names that a statement gives to variables. -/
def Script.Stmt.bound : Stmt → List String
  | .var name _ => [name]
  | .expr _ => []

namespace Template

/-- The names that a node gives to variables and to loop items. -/
def Node.bound (node : Node) : List String := node.statements.flatMap Stmt.bound ++ node.item?.toList

/-- A node uses a name: one of its expressions mentions it, or the node gives it to something. -/
def Node.Uses (reads : String → String → Prop) (name : String) (node : Node) : Prop :=
  (∃ e ∈ node.exprs, e.Mentions (reads name) name) ∨ name ∈ node.bound

end Template

namespace Compile

open Template (Attribute Binding Element Everywhere Node Occurrence occurrencesAll)

variable {reads : String → String → Prop}

/-! ## Names in print -/

/-- The statement that writes what a function of the markup helpers makes of the arguments. -/
def helperStmt (function : String) (args : List Expr) : Stmt :=
  .expr ((Expr.out.member "w").call [((Expr.ident "__markoHelpers").member function).call args])

namespace Item

/-- The expressions that an item is printed with. -/
def printedExprs : Item → List Expr
  | .helper function args => [(helperStmt function args).value]
  | .openWidget b => [.out, b.helper, b.widgetType]
  | .stmt s => [s.value]
  | .openLoop _ source => [source]
  | .markup _ | .close => []

/-- The names that an item gives to variables and parameters. -/
def bound : Item → List String
  | .stmt s => s.bound
  | .openWidget _ => ["widget"]
  | .openLoop item _ => [item]
  | .helper _ _ | .markup _ | .close => []

/-- A printed item uses a name: it mentions it or gives it to something. -/
def Uses (reads : String → String → Prop) (name : String) (item : Item) : Prop :=
  (∃ e ∈ item.printedExprs, e.Mentions (reads name) name) ∨ name ∈ item.bound

end Item

/-! ## Helpers in what weaving builds -/

/-- The template uses no helper name itself. -/
def apartSources (reads : String → String → Prop) (declarations : List Declaration) : Sources where
  expr e := ∀ name, IsHelperName name → ¬ e.Mentions (reads name) name
  stmt s := ∀ name, IsHelperName name → ¬ s.value.Mentions (reads name) name ∧ name ∉ s.bound
  binding b := ∀ name, IsHelperName name →
    ¬ b.helper.Mentions (reads name) name ∧ ¬ b.widgetType.Mentions (reads name) name
  item name := ¬ IsHelperName name
  declarations := declarations

variable {ds : List Declaration} {name : String}

/-- A node that uses no helper name can be drawn on. -/
theorem givenNode_of_apart {node : Node} (apart : ∀ name, IsHelperName name → ¬ node.Uses reads name) :
    GivenNode (apartSources reads ds) node := by
  have hexprs : ∀ e ∈ node.exprs, (apartSources reads ds).expr e :=
    fun e he name hname hm => apart name hname (.inl ⟨e, he, hm⟩)
  have hbound : ∀ name ∈ node.bound, ¬ IsHelperName name := fun name hmem hname => apart name hname (.inr hmem)
  refine givenNode_of_exprs hexprs ?_ ?_ ?_
  · intro stmt hstmt name hname
    refine ⟨hexprs stmt.value (Node.value_mem_exprs hstmt) name hname, fun hb => hbound name ?_ hname⟩
    exact List.mem_append_left _ (List.mem_flatMap.mpr ⟨stmt, hstmt, hb⟩)
  · intro b hb name hname
    have hmem := Node.mem_exprs_of_binding hb
    exact ⟨hexprs b.helper (hmem _ (by simp)) name hname, hexprs b.widgetType (hmem _ (by simp)) name hname⟩
  · intro name hmem
    exact hbound name (List.mem_append_right _ (Option.mem_toList.mpr hmem))

/-- What weaving builds mentions a helper only if it is declared. -/
theorem BuiltExpr.declare {e : Expr} (h : BuiltExpr (apartSources reads ds) e) (helper : IsHelperName name)
    (mentions : e.Mentions (reads name) name) : (apartSources reads ds).Declare name := by
  obtain ⟨d, hd, hname, -⟩ := h.describes helper (fun e own => own name helper) mentions
  exact ⟨d, hd, hname⟩

/-- A call of a declared helper with such arguments mentions only declared helpers. -/
theorem declare_of_call {callee : String} {args : List Expr} (declared : (apartSources reads ds).Declare callee)
    (built : ∀ e ∈ args, BuiltExpr (apartSources reads ds) e) (helper : IsHelperName name)
    (mentions : ((Expr.ident callee).call args).Mentions (reads name) name) : (apartSources reads ds).Declare name := by
  rcases Expr.mentions_call.mp mentions with hcallee | ⟨e, he, hm⟩
  · obtain rfl := Expr.mentions_ident.mp hcallee
    exact declared
  · exact (built e he).declare helper hm

/-- A helper name that a built statement uses has been declared. -/
theorem BuiltStmt.declare {stmt : Stmt} (h : BuiltStmt (apartSources reads ds) stmt) (helper : IsHelperName name)
    (uses : stmt.value.Mentions (reads name) name ∨ name ∈ stmt.bound) : (apartSources reads ds).Declare name := by
  have hout : BuiltExpr (apartSources reads ds) .out := .parameter (by decide)
  cases h with
  | given own => exact absurd uses (not_or.mpr (own name helper))
  | idVariable n built =>
    rcases uses with hm | hb
    · exact built.declare helper hm
    · obtain rfl := List.mem_singleton.mp hb
      exact absurd helper (not_isHelperName_idVariable n)
  | slot place content known =>
    have hm := uses.resolve_right (by simp [Site.slotCall, Stmt.bound])
    refine declare_of_call known ?_ helper hm
    simp only [List.forall_mem_cons]
    exact ⟨hout, place, content, .parameter (by decide), List.forall_mem_nil _⟩
  | deposit args known =>
    have hm := uses.resolve_right (by simp [Site.depositStmt, Stmt.bound])
    exact declare_of_call known args helper hm
  | clear known =>
    have hm := uses.resolve_right (by simp [Site.clearStmt, Stmt.bound])
    exact declare_of_call known (List.forall_mem_singleton.mpr hout) helper hm

/-- A helper name that a built widget mentions has been declared. -/
theorem BuiltBinding.declare {b : Binding} (h : BuiltBinding (apartSources reads ds) b) (helper : IsHelperName name)
    (mentions : b.helper.Mentions (reads name) name ∨ b.widgetType.Mentions (reads name) name) :
    (apartSources reads ds).Declare name := by
  cases h with
  | given own => exact absurd mentions (not_or.mpr (own name helper))
  | root built known =>
    rcases mentions with hm | hm
    · obtain rfl := Expr.mentions_ident.mp hm
      exact known
    · exact built.declare helper hm

/-! ## Helpers in print -/

/-- An item is a call of a markup helper. -/
def Item.IsMarkupCall (item : Item) : Prop := ∃ function args, item = .helper function args

/-- A call of a markup helper mentions that helper, and what its arguments mention. -/
theorem declare_of_markupCall {function : String} {args : List Expr}
    (built : ∀ e ∈ args, BuiltExpr (apartSources reads ds) e) (helper : IsHelperName name)
    (uses : (Item.helper function args).Uses reads name) :
    (apartSources reads ds).Declare name ∨ name = "__markoHelpers" := by
  have hm := uses.resolve_right (by simp [Item.bound])
  simp only [Item.printedExprs, helperStmt, Stmt.value, List.mem_singleton, exists_eq_left, Expr.mentions_call,
    Expr.mentions_member, Expr.mentions_ident, Expr.out] at hm
  rcases hm with rfl | rfl | ⟨e, he, hm⟩
  · exact absurd helper (not_isHelperName_parameter "out" (by decide))
  · exact .inr rfl
  · exact .inl ((built e he).declare helper hm)

/-- A printed item uses only helpers that are declared, except for the one for markup that it may be a call of. -/
theorem BuiltItem.declare {item : Item} (h : BuiltItem (apartSources reads ds) item) (helper : IsHelperName name)
    (uses : item.Uses reads name) :
    (apartSources reads ds).Declare name ∨ name = "__markoHelpers" ∧ item.IsMarkupCall := by
  cases h with
  | markup | close => simp [Item.Uses, Item.printedExprs, Item.bound] at uses
  | stmt built => exact .inl (built.declare helper (by simpa [Item.Uses, Item.printedExprs, Item.bound] using uses))
  | helper function built =>
    exact (declare_of_markupCall built helper uses).imp_right fun hname => ⟨hname, function, _, rfl⟩
  | openWidget built =>
    simp only [Item.Uses, Item.printedExprs, Item.bound, List.mem_cons, List.not_mem_nil, or_false,
      exists_eq_or_imp, exists_eq_left] at uses
    rcases uses with (hout | hm) | rfl
    · obtain rfl := Expr.mentions_ident.mp hout
      exact absurd helper (not_isHelperName_parameter "out" (by decide))
    · exact .inl (built.declare helper hm)
    · exact absurd helper (not_isHelperName_parameter "widget" (by decide))
  | openLoop named own =>
    simp only [Item.Uses, Item.printedExprs, Item.bound, List.mem_singleton, exists_eq_left] at uses
    rcases uses with hm | rfl
    · exact absurd hm (own name helper)
    · exact absurd helper named

/-! ## The writer -/

namespace Writer

variable (w : Writer)

theorem unit_flush : w.flush.unit = w.unit := by
  rw [flush]
  split <;> rfl

/-- Only a call of a markup helper declares anything. -/
theorem unit_put (item : Item) : (w.put item).unit =
    match item with
    | .helper _ _ => w.unit.importModule "__markoHelpers" "marko/runtime/html/helpers"
    | _ => w.unit := by
  cases item with
  | markup text => rfl
  | helper function args =>
    exact unit_flush { w with unit := w.unit.importModule "__markoHelpers" "marko/runtime/html/helpers" }
  | _ => exact w.unit_flush

/-- Writing an item extends the compile unit. -/
theorem extends_put (item : Item) : w.unit.Extends (w.put item).unit := by
  rw [unit_put]
  cases item with
  | helper function args => exact CompileUnit.extends_importModule (by simp [helperModules])
  | _ => exact .refl _

/-- Writing items extends the compile unit. -/
theorem extends_putAll (items : List Item) : w.unit.Extends (w.putAll items).unit := by
  induction items generalizing w with
  | nil => exact .refl _
  | cons item rest ih => exact (w.extends_put item).trans (ih (w.put item))

/-- A call of a markup helper has its helper declared. -/
theorem declares_markup {items : List Item} {item : Item} (mem : item ∈ items) (call : item.IsMarkupCall) :
    ∃ d ∈ (w.putAll items).unit.declarations, d.name = "__markoHelpers" := by
  obtain ⟨function, args, rfl⟩ := call
  obtain ⟨front, back, rfl⟩ := List.append_of_mem mem
  let before := w.putAll front
  obtain ⟨d, hd, hname⟩ := Site.declare_declared before.unit "__markoHelpers" _
  have hput : d ∈ (before.put (.helper function args)).unit.declarations := by
    rw [unit_put]
    exact hd
  refine ⟨d, ?_, hname⟩
  rw [putAll_append, putAll_cons]
  exact (extends_putAll _ back).subset hput

end Writer

/-- The variables of a module are those that have been declared when everything is written. -/
theorem generate_declarations (u : CompileUnit) (nodes : List Node) :
    (generate u nodes).1.declarations = (Writer.putAll { unit := u } (printedAll nodes)).unit.declarations := by
  rw [Writer.putAll_printedAll]
  exact congrArg CompileUnit.declarations (Writer.unit_flush _)

/-- The module has all variables that weaving has declared. -/
theorem extends_generate (u : CompileUnit) (nodes : List Node) :
    u.declarations ⊆ (generate u nodes).1.declarations := by
  rw [generate_declarations]
  exact (Writer.extends_putAll { unit := u } _).subset

/-- The variables of a module form a header. -/
theorem isHeader_generate (settings : Template.Settings) (files : Path.Files) (nodes : List Node) :
    let woven := weave { settings, files } nodes
    IsHeader settings.widgetsModule (generate woven.2 woven.1).1.declarations := by
  intro woven
  have hwritten := Writer.extends_putAll { unit := woven.2 } (printedAll woven.1)
  rw [generate_declarations]
  have hwoven : CompileUnit.Extends { settings, files } woven.2 := by
    simp only [woven, weave_eq]
    exact (weaveForest_woven false { settings, files } nodes).extends
  exact .of_extends (hwoven.trans hwritten) rfl

/-- The nodes of a woven template are built of the template and the variables of the module. -/
theorem built_weave (settings : Template.Settings) (files : Path.Files) {nodes : List Node} {src : Sources}
    (declared : (weave { settings, files } nodes).2.declarations ⊆ src.declarations)
    (given : Everywhere (GivenNode src) nodes) :
    Everywhere (BuiltNode src) (weave { settings, files } nodes).1 := by
  rw [weave_eq rfl] at declared ⊢
  exact ((weaveForest_woven false { settings, files } nodes).built declared nofun given).2

/-- **Every helper is declared.** When a template that uses no helper name itself is woven and printed, the lines of
the render function are those of the printed items, and each helper name that one of them uses is the name of exactly
one variable at the top of the module. An initializer refers to `require` and to variables of earlier lines only, each
of which is declared once, too. All variables have helper names, and a helper is required from the path that belongs
to it. -/
theorem helpers_declared (reads : String → String → Prop) (settings : Template.Settings) (files : Path.Files)
    (nodes : List Node)
    (apart : Everywhere (fun node => ∀ name, IsHelperName name → ¬ node.Uses reads name) nodes) :
    let woven := weave { settings, files } nodes
    let m := (generate woven.2 woven.1).1
    let names := m.declarations.map (·.name)
    m.body = (Writer.putAll { unit := woven.2 } (printedAll woven.1)).flush.lines ∧
      (∀ item ∈ printedAll woven.1, ∀ name, IsHelperName name → item.Uses reads name → names.count name = 1) ∧
      (∀ front d back, m.declarations = front ++ d :: back →
        ∃ i : Initializer, d.code = i.code ∧
          ∀ name, i.RefersTo name → name = "require" ∨ name ∈ front.map (·.name) ∧ names.count name = 1) ∧
      ∀ d ∈ m.declarations, IsHelperName d.name ∧
        ∀ path, (d.name, path) ∈ helperModules settings.widgetsModule → d.code = (Initializer.module path).code := by
  intro woven m names
  have hheader : IsHeader settings.widgetsModule m.declarations := isHeader_generate settings files nodes
  have hcount : ∀ name, (∃ d ∈ m.declarations, d.name = name) → names.count name = 1 := by
    rintro name ⟨d, hd, rfl⟩
    exact List.count_eq_one_of_mem hheader.nodup (List.mem_map_of_mem hd)
  refine ⟨generate_body _ _, ?_, ?_, ?_⟩
  · intro item hitem name helper uses
    have hbuilt : Everywhere (BuiltNode (apartSources reads m.declarations)) woven.1 :=
      built_weave settings files (extends_generate woven.2 woven.1)
        fun o ho => givenNode_of_apart (apart o ho)
    refine hcount name ?_
    rcases (built_printedAll hbuilt item hitem).declare helper uses with hdeclared | ⟨rfl, hcall⟩
    · exact hdeclared
    · -- the writer has declared the helper for markup itself
      rw [generate_declarations]
      exact Writer.declares_markup _ hitem hcall
  · intro front d back hsplit
    obtain ⟨i, hcode, hrefers⟩ := (hheader.follows hsplit).1.refers
    refine ⟨i, hcode, fun name hname => (hrefers name hname).imp_right ?_⟩
    rintro ⟨d', hd', rfl⟩
    refine ⟨List.mem_map_of_mem hd', hcount _ ⟨d', ?_, rfl⟩⟩
    rw [hsplit]
    exact List.mem_append_left _ hd'
  · intro d hd
    obtain ⟨front, hfollows⟩ := hheader.follows_of_mem hd
    exact ⟨hfollows.isHelperName, fun path hpath => hfollows.code_of_helper hpath⟩

/-- A root with a custom element that listens to an event, a body and a printed expression: all helpers are declared,
whatever the lines use. -/
theorem helpers_declared_of_root :
    let nodes : List Node :=
      [.element { tag := "div", attributes := [⟨"w-bind", some (.str "./w")⟩] }
        [.element { tag := "app-x", custom := true, attributes := [⟨"w-onclick", some (.str "go")⟩] } [],
          .element { tag := "p", attributes := [⟨"w-body", some (.raw "data.body")⟩] } [],
          .expression (.raw "data.title") .start]]
    Everywhere (fun node => ∀ name, IsHelperName name → ¬ node.Uses (fun _ _ => False) name) nodes ∧
      (∀ item ∈ printedAll (weave {} nodes).1, ∀ name, IsHelperName name → item.Uses (fun _ _ => False) name →
        ((generate (weave {} nodes).2 (weave {} nodes).1).1.declarations.map (·.name)).count name = 1) ∧
      (generate (weave {} nodes).2 (weave {} nodes).1).1.declarations.map (·.name) =
        ["__widgetType", "__widgetArgs", "_cleanupWidgetArgs", "__widgetBody", "__widgetTag", "__markoHelpers"] := by
  intro nodes
  have apart : Everywhere (fun node => ∀ name, IsHelperName name → ¬ node.Uses (fun _ _ => False) name) nodes := by
    simp [nodes, Everywhere, Node.Uses, Node.exprs, Node.outerExprs, Node.innerExprs, Node.bound,
      Node.statements, Node.item?]
  obtain ⟨-, hitems, -⟩ := helpers_declared _ {} {} nodes apart
  exact ⟨apart, hitems, by decide +kernel⟩

end Compile

end WidgetTemplates
