import WidgetTemplates.Proofs.Compile.Placed
import WidgetTemplates.Proofs.Compile.Spent

/-!
# What is reported about a template

Five rules can report a problem: those for `w-bind` and `w-extend` when there is no default widget to take, and those
for `w-id`, events, `w-for` and `w-body` when the element lies in no widget. `findings` lists what is wrong with an
element as codes and wordings, given whether there is a default widget and whether a widget encloses the element, and
`CompileUnit.reports` says where; `CompileUnit.problems` names the same mistakes by their causes, as the rules do
(`CompileUnit.reports_eq`). Each rule finds its own attributes as the template has them, because the rules before it
touch other ones (`Site.select_bind` and its like), so the rules of one element report its problems
(`Turn.diagnostics_site`), closing it reports nothing, and weaving a template reports the problems of all elements in
document order (`diagnostics_weave`).
-/

namespace WidgetTemplates.Template.Problem

/-- The problem, if something is the case. -/
def onlyIf (p : Problem) (b : Bool) : List Problem := if b then [p] else []

@[simp] theorem onlyIf_true (p : Problem) : p.onlyIf true = [p] := rfl

@[simp] theorem onlyIf_false (p : Problem) : p.onlyIf false = [] := rfl

end WidgetTemplates.Template.Problem

namespace WidgetTemplates.Compile

open Script (Expr Stmt)
open Template (Attribute Element Node Problem Diagnostic Settings)

/-- Whether an element has an attribute that stands for the default widget: one without a value, or with the empty text
as its value. -/
def asksDefault (el : Element) (name : String) : Bool :=
  match el.find? name with
  | some ⟨_, none⟩ => true
  | some ⟨_, some (.str path)⟩ => path.isEmpty
  | _ => false

/-- Whether a name is that of an event attribute: `w-on` with something after it. -/
def namesEvent (name : String) : Bool := "w-on".toList.isPrefixOf name.toList && 4 < name.toList.length

/-- The attributes that listen to events are the ones with such a name. -/
theorem isEvent_eq (a : Attribute) : isEvent a = namesEvent a.name := by
  rw [isEvent, Site.eventType?, namesEvent, Text.dropStart?]
  rcases hstart : "w-on".toList.isPrefixOf a.name.toList with _ | _
  · rfl
  · obtain ⟨type, hname⟩ := List.isPrefixOf_iff_prefix.mp hstart
    rw [if_pos rfl, ← hname, List.drop_left, List.length_append]
    rcases type with _ | ⟨c, rest⟩
    · rfl
    · exact (decide_eq_true (Nat.lt_add_of_pos_right (Nat.succ_pos rest.length))).symm

/-- Whether a template has a default widget: a `widget.js` or an `index.js` lies in its directory. -/
def hasDefaultWidget (settings : Settings) (files : Path.Files) : Bool :=
  settings.dirname.any fun dir => files.exist (Path.join dir "widget.js") || files.exist (Path.join dir "index.js")

/-- Whether an element opens a widget: it has `w-bind`, and this names a widget type or there is a default widget. -/
def boundWith (default : Bool) (el : Element) : Bool := el.has "w-bind" && (!asksDefault el "w-bind" || default)

/-- What is wrong with an element, each time the code and the wording of the mistake. A root takes its id from the
widget around it, so its own widget does not count for `w-id`; for the attributes after it, it does. Of several events
only the first one is reported. -/
def findings (default : Bool) (p : PlacedElement) : List (String × String) :=
  (if asksDefault p.el "w-bind" && !default then
      [("W-ERR-DEFAULT-MODULE", "Unable to find default widget module when using w-bind without a value")]
    else []) ++
    (if p.el.has "w-id" && !p.enclosed then
      [("W-ERR-BIND-SCOPE", "w-id can only be used within the scope of w-bind")]
    else []) ++
    (if boundWith default p.el || p.enclosed then []
    else ((p.el.attributes.find? fun a => namesEvent a.name).map fun a =>
      ("W-ERR-BIND-SCOPE", a.name ++ " can only be used within the scope of w-bind")).toList) ++
    (if asksDefault p.el "w-extend" && !default then
      [("W-ERR-DEFAULT-MODULE", "Unable to find default widget module when using w-extend without a value")]
    else []) ++
    (if p.el.has "w-for" && !(boundWith default p.el || p.enclosed) then
      [("W-ERR-BIND-SCOPE", "w-for can only be used within the scope of w-bind")]
    else []) ++
    if p.el.has "w-body" && !(boundWith default p.el || p.enclosed) then
      [("W-ERR-BODY-SCOPE", "w-body can only be used within the scope of w-bind")]
    else []

namespace CompileUnit

variable (u : CompileUnit)

/-- What is reported about an element: what is wrong with it, in the file of the template, at the place of the
element. -/
def reports (p : PlacedElement) : List Diagnostic :=
  (findings (hasDefaultWidget u.settings u.files) p).map fun finding =>
    { code := finding.1
      message := finding.2
      file := u.settings.filePath
      line := p.el.location.line
      column := p.el.location.column }

/-- Whether an element has an attribute that stands for the default widget, and there is none. -/
def lacksDefault (el : Element) (name : String) : Bool := asksDefault el name && u.defaultModule?.isNone

/-- The mistakes of an element by their causes, in the order of the rules. -/
def problems (p : PlacedElement) : List Problem :=
  (Problem.noDefaultWidget "w-bind").onlyIf (u.lacksDefault p.el "w-bind") ++
    (Problem.outsideWidget "w-id").onlyIf (p.el.has "w-id" && !p.enclosed) ++
    (if p.inside u.opens then []
      else ((eventAttributes p.el.attributes).head?.map fun a => .outsideWidget a.name).toList) ++
    (Problem.noDefaultWidget "w-extend").onlyIf (u.lacksDefault p.el "w-extend") ++
    (Problem.outsideWidget "w-for").onlyIf (p.el.has "w-for" && !p.inside u.opens) ++
    Problem.bodyOutsideWidget.onlyIf (p.el.has "w-body" && !p.inside u.opens)

/-- The module of the default widget is found exactly if there is a default widget. -/
theorem isSome_defaultModule? : u.defaultModule?.isSome = hasDefaultWidget u.settings u.files := by
  rw [defaultModule?, hasDefaultWidget]
  rcases u.settings.dirname with _ | dir
  · rfl
  · dsimp only [Option.any_some]
    rcases u.files.exist (Path.join dir "widget.js") with _ | _
    · rcases u.files.exist (Path.join dir "index.js") with _ | _ <;> rfl
    · rfl

/-- The default widget is missing exactly if no such file exists. -/
theorem isNone_defaultModule? : u.defaultModule?.isNone = !hasDefaultWidget u.settings u.files := by
  rw [← Option.not_isSome, u.isSome_defaultModule?]

/-- An element becomes the root of a widget exactly if it opens one. -/
theorem opens_eq : u.opens = boundWith (hasDefaultWidget u.settings u.files) := by
  funext el
  rw [opens, boundWith, asksDefault, Element.has_eq_isSome, ← u.isSome_defaultModule?]
  rcases el.find? "w-bind" with _ | ⟨name, value⟩
  · rfl
  · rcases value with _ | e
    · rfl
    · cases e with
      | str path => rfl
      | _ => rfl

/-- The mistakes by their causes have the codes and the wordings of what is wrong with the element. -/
theorem map_problems (p : PlacedElement) :
    (u.problems p).map (fun problem => (problem.code, problem.message)) =
      findings (hasDefaultWidget u.settings u.files) p := by
  have honly : ∀ (problem : Problem) (b : Bool),
      (problem.onlyIf b).map (fun problem => (problem.code, problem.message)) =
        if b then [(problem.code, problem.message)] else [] := by
    rintro problem (_ | _) <;> rfl
  have hevent : ∀ inside : Bool, (if inside then []
        else ((eventAttributes p.el.attributes).head?.map fun a => Problem.outsideWidget a.name).toList).map
          (fun problem => (problem.code, problem.message)) =
      if inside then []
        else ((p.el.attributes.find? fun a => namesEvent a.name).map fun a =>
          ("W-ERR-BIND-SCOPE", a.name ++ " can only be used within the scope of w-bind")).toList := by
    rintro (_ | _)
    · rw [eventAttributes, List.head?_filter, funext isEvent_eq]
      generalize p.el.attributes.find? (fun a => namesEvent a.name) = first
      rcases first with _ | a <;> rfl
    · rfl
  have hinside : p.inside u.opens = (boundWith (hasDefaultWidget u.settings u.files) p.el || p.enclosed) := by
    rw [PlacedElement.inside, u.opens_eq]
  rw [problems, findings]
  simp only [List.map_append, honly, hevent, lacksDefault, isNone_defaultModule?, hinside]
  rfl

/-- The reports are those of the mistakes by their causes. -/
theorem reports_eq (p : PlacedElement) :
    u.reports p = (u.problems p).map (.of u.settings.filePath p.el.location) := by
  rw [reports, ← u.map_problems, List.map_map]
  rfl

variable {u} {u' : CompileUnit} {el : Element} {name : String}

/-- An attribute stands for no widget type exactly if it stands for the default widget and there is none. -/
theorem lacksDefault_of_find? {a : Attribute} (h : el.find? name = some a) :
    u.lacksDefault el name = (u.widgetTypeOf? a.value).isNone := by
  have hvalue := Site.isSome_widgetTypeOf? u a.value
  rw [← Option.not_isSome, hvalue, lacksDefault, asksDefault, h, ← Option.not_isSome]
  rcases a with ⟨_, _ | e⟩
  · rfl
  · cases e with
    | str path =>
      dsimp only
      rcases path.isEmpty with _ | _ <;> rfl
    | _ => rfl

/-- The settings and the files decide which attributes lack a default widget. -/
theorem lacksDefault_congr (settings : u'.settings = u.settings) (files : u'.files = u.files) {el' : Element}
    (found : el'.find? name = el.find? name) : u'.lacksDefault el' name = u.lacksDefault el name := by
  have hdefault : u'.defaultModule? = u.defaultModule? := by rw [defaultModule?, defaultModule?, settings, files]
  rw [lacksDefault, lacksDefault, asksDefault, asksDefault, hdefault, found]

/-- The reports at an element depend on the settings and the files of the unit only. -/
theorem reports_congr (settings : u'.settings = u.settings) (files : u'.files = u.files) (p : PlacedElement) :
    u'.reports p = u.reports p := by
  rw [reports, reports, settings, files]

end CompileUnit

namespace Site

variable {s : Site} {repeated : Bool}

/-- The reports of problems at a site. -/
def reports (s : Site) (problems : List Problem) : List Diagnostic :=
  problems.map (.of s.unit.settings.filePath s.el.location)

/-! ## Rules that do not report -/

/-- Declaring a variable reports nothing. -/
theorem diagnostics_declare (u : CompileUnit) (name code : String) :
    (u.declare name code).diagnostics = u.diagnostics := by
  obtain ⟨ds, h⟩ := declare_frame u name code
  rw [h]

/-- Naming a type that is found reports nothing, and changes neither settings nor widgets. -/
theorem diagnostics_widgetTypeOf? {u u' : CompileUnit} {value : Option Expr} {widgetType : Expr}
    (h : u.widgetTypeOf? value = some (widgetType, u')) :
    u'.diagnostics = u.diagnostics ∧ u'.settings = u.settings ∧ u'.widgets = u.widgets := by
  rcases widgetTypeOf?_cases h with ⟨-, rfl⟩ | ⟨path, hpath⟩
  · exact ⟨rfl, rfl, rfl⟩
  · have hu : u' = (u.widgetType path).2 := congrArg Prod.snd hpath
    obtain ⟨ds, hds⟩ := widgetType_frame u path
    rw [hu, hds]
    exact ⟨rfl, rfl, rfl⟩

/-- Teaching the containing widget reports nothing. -/
theorem diagnostics_modifyContaining (u : CompileUnit) (f : OpenWidget → OpenWidget) :
    (u.modifyContaining f).diagnostics = u.diagnostics := by
  rw [CompileUnit.modifyContaining]
  split <;> rfl

/-- Settling an id reports nothing. -/
theorem diagnostics_assign (s : Site) (repeated : Bool) :
    (s.assign repeated).unit.diagnostics = s.unit.diagnostics := by
  rcases s.unit_assign repeated with h | h <;> rw [h]
  rfl

/-- The rule for an event attribute reports nothing. -/
theorem diagnostics_handleEvent {name : String} (event : (eventType? name).isSome = true) :
    (s.handleEvent name).unit.diagnostics = s.unit.diagnostics := by
  obtain ⟨type, htype⟩ := Option.isSome_iff_exists.mp event
  rw [handleEvent_eq htype]
  rcases s.el.value? name with _ | handler
  · rfl
  · dsimp only
    rw [listen]
    split
    · rfl
    · exact diagnostics_modifyContaining _ _

/-- The rules for event attributes report nothing. -/
theorem diagnostics_foldl_handleEvent {names : List String}
    (events : ∀ name ∈ names, (eventType? name).isSome = true) :
    (names.foldl handleEvent s).unit.diagnostics = s.unit.diagnostics := by
  induction names generalizing s with
  | nil => rfl
  | cons name rest ih =>
    obtain ⟨hname, hrest⟩ := List.forall_mem_cons.mp events
    exact (ih hrest).trans (diagnostics_handleEvent hname)

/-! ## What each rule reports -/

/-- A root without a widget around it cannot take an id from there. -/
theorem diagnostics_bindId (s : Site) :
    s.bindId.unit.diagnostics = s.unit.diagnostics ++
      s.reports ((Problem.outsideWidget "w-id").onlyIf (s.el.has "w-id" && !s.inWidget)) := by
  rw [bindId, takeAttr_eq, Element.has_eq_isSome]
  rcases s.el.find? "w-id" with _ | ⟨name, value⟩
  · exact (List.append_nil _).symm
  · dsimp only
    rw [inWidget_drop]
    rcases s.inWidget with _ | _
    · rfl
    · rcases value with _ | e <;> exact (List.append_nil _).symm

/-- The rule for `w-bind` reports that there is no default widget, or what is wrong with the id of the root. -/
theorem diagnostics_bind (s : Site) :
    s.bind.unit.diagnostics = s.unit.diagnostics ++
      s.reports ((Problem.noDefaultWidget "w-bind").onlyIf (s.unit.lacksDefault s.el "w-bind") ++
        (Problem.outsideWidget "w-id").onlyIf (s.unit.opens s.el && (s.el.has "w-id" && !s.inWidget))) := by
  rw [bind, takeAttr_eq]
  rcases hf : s.el.find? "w-bind" with _ | a
  · rw [CompileUnit.lacksDefault, asksDefault, CompileUnit.opens, hf]
    exact (List.append_nil _).symm
  · rw [CompileUnit.lacksDefault_of_find? hf, opens_of_find? hf]
    dsimp only
    rw [unit_drop]
    rcases ht : s.unit.widgetTypeOf? a.value with _ | ⟨widgetType, u⟩
    · rfl
    · obtain ⟨hdiagnostics, hsettings, hwidgets⟩ := diagnostics_widgetTypeOf? ht
      let typed : Site := { s.drop "w-bind" with unit := u }
      have hid : typed.el.has "w-id" = s.el.has "w-id" := Element.has_congr (Element.find?_remove_ne (by decide))
      have hinside : typed.inWidget = s.inWidget := inWidget_congr hwidgets
      have hreports : ∀ problems, typed.reports problems = s.reports problems := fun _ => by
        rw [reports, reports, hsettings]
        rfl
      have h := typed.diagnostics_bindId
      rw [hid, hinside, hreports] at h
      rw [← hdiagnostics]
      exact h

/-- The rule for `w-id` reports that there is no widget for the id. -/
theorem diagnostics_handleId (s : Site) :
    s.handleId.unit.diagnostics = s.unit.diagnostics ++
      s.reports ((Problem.outsideWidget "w-id").onlyIf (s.el.has "w-id" && !s.inWidget)) := by
  rcases s.handleId_cases with ⟨has, h⟩ | ⟨has, ⟨outside, h⟩ | ⟨inside, ⟨-, h⟩ | ⟨-, h⟩⟩⟩
  · rw [h, has]
    exact (List.append_nil _).symm
  · rw [h, has, outside]
    rfl
  · rw [h, has, inside]
    exact (s.diagnostics_assign s.inLoop).trans (List.append_nil _).symm
  · rw [h, has, inside, unit_ensureVariable]
    exact (s.diagnostics_assign s.inLoop).trans (List.append_nil _).symm

/-- The rule for events reports that there is no widget for the first of them. -/
theorem diagnostics_handleEvents (s : Site) :
    s.handleEvents.unit.diagnostics = s.unit.diagnostics ++
      s.reports (if s.inWidget then [] else (s.eventAttributes.head?.map fun a => .outsideWidget a.name).toList) := by
  rcases hinside : s.inWidget with _ | _
  · rw [handleEvents_outside hinside]
    rcases s.eventAttributes.head? with _ | a
    · exact (List.append_nil _).symm
    · rfl
  · have hheard : (s.eventNames.foldl handleEvent s).unit.diagnostics = s.unit.diagnostics :=
      diagnostics_foldl_handleEvent s.forall_mem_eventNames
    rcases handleEvents_inside hinside with ⟨-, h⟩ | ⟨-, h⟩ <;> rw [h]
    · exact ((diagnostics_assign _ _).trans hheard).trans (List.append_nil _).symm
    · exact hheard.trans (List.append_nil _).symm

/-- The rule for `w-extend` reports that there is no default widget. -/
theorem diagnostics_handleExtend (s : Site) :
    s.handleExtend.unit.diagnostics = s.unit.diagnostics ++
      s.reports ((Problem.noDefaultWidget "w-extend").onlyIf (s.unit.lacksDefault s.el "w-extend")) := by
  rw [handleExtend, takeAttr_eq]
  rcases hf : s.el.find? "w-extend" with _ | a
  · rw [CompileUnit.lacksDefault, asksDefault, hf]
    exact (List.append_nil _).symm
  · rw [CompileUnit.lacksDefault_of_find? hf]
    dsimp only
    rw [unit_drop]
    rcases ht : s.unit.widgetTypeOf? a.value with _ | ⟨widgetType, u⟩
    · rfl
    · exact (diagnostics_widgetTypeOf? ht).1.trans (List.append_nil _).symm

/-- The rule for `w-for` reports that there is no widget for the label. -/
theorem diagnostics_handleFor (s : Site) :
    s.handleFor.unit.diagnostics = s.unit.diagnostics ++
      s.reports ((Problem.outsideWidget "w-for").onlyIf (s.el.has "w-for" && !s.inWidget)) := by
  rw [handleFor, takeAttr_eq, Element.has_eq_isSome]
  rcases s.el.find? "w-for" with _ | ⟨name, value⟩
  · exact (List.append_nil _).symm
  · dsimp only
    rw [requireWidget, inWidget_drop]
    rcases s.inWidget with _ | _
    · rfl
    · rcases value with _ | e <;> exact (List.append_nil _).symm

/-- The rule for `w-body` reports that there is no widget for the body. -/
theorem diagnostics_handleBody (s : Site) :
    s.handleBody.unit.diagnostics = s.unit.diagnostics ++
      s.reports (Problem.bodyOutsideWidget.onlyIf (s.el.has "w-body" && !s.inWidget)) := by
  rcases hinside : s.inWidget with _ | _
  · rw [handleBody_outside hinside]
    rcases s.el.has "w-body" with _ | _
    · exact (List.append_nil _).symm
    · rfl
  · rw [Bool.not_true, Bool.and_false, Problem.onlyIf_false, reports, List.map_nil, List.append_nil]
    apply handleBody_induction (motive := fun t => t.unit.diagnostics = s.unit.diagnostics)
    · exact fun _ => rfl
    · intro outside
      cases hinside.symm.trans outside
    · exact fun _ => rfl
    · exact fun t repeated ht => (t.diagnostics_assign repeated).trans ht
    · exact fun t _ ht => (diagnostics_modifyContaining t.unit _).trans ht
    · intro t ht
      rwa [unit_ensureVariable]
    · exact fun t _ _ ht => (diagnostics_declare t.unit _ _).trans ht

/-- Closing an element reports nothing. -/
theorem diagnostics_close (s : Site) : s.close.unit.diagnostics = s.unit.diagnostics := by
  have hsurround : s.surround.unit.diagnostics = s.unit.diagnostics := by
    rcases s.surround_cases with ⟨hs, -⟩ | ⟨h, -, -, hs⟩
    · rw [hs]
    · rw [hs]
      exact (diagnostics_declare _ _ _).trans (diagnostics_declare _ _ _)
  rw [close]
  split
  · rcases s.surround.leave_cases with ⟨-, m, hs⟩ | ⟨w, rest, -, hs⟩ <;> rw [hs]
    · exact hsurround
    · exact (diagnostics_declare _ _ _).trans hsurround
  · exact hsurround

end Site

/-! ## The problems of one element -/

namespace Turn

variable (t : Turn) {q : String → Bool}

/-- The reports of problems with the element. -/
def report (problems : List Problem) : List Diagnostic := problems.map (.of t.unit.settings.filePath t.el.location)

/-- Reports in a row. -/
theorem report_append (problems more : List Problem) :
    t.report (problems ++ more) = t.report problems ++ t.report more :=
  List.map_append

/-- All rules report at the place of the element. -/
theorem reports_of_mem_stages {s : Site} (h : s ∈ t.stages) (problems : List Problem) :
    s.reports problems = t.report problems := by
  have edits := t.edits_to_stage h
  rw [Site.reports, edits.settings, edits.location]
  rfl

/-- No rule changes whether there is a default widget. -/
theorem lacksDefault_of_mem_stages {s : Site} (h : s ∈ t.stages) {name : String}
    (found : s.el.find? name = t.el.find? name) : s.unit.lacksDefault s.el name = t.unit.lacksDefault t.el name :=
  CompileUnit.lacksDefault_congr (t.edits_to_stage h).settings (t.edits_to_stage h).files found

/-- The rules for `w-bind` and `w-id` touch these and `id`. -/
theorem select_named (bound : q "w-bind" = false) (given : q "w-id" = false) (id : q "id" = false) :
    t.named.el.select q = t.el.select q := by
  have hentered : t.entered.el.select q = t.el.select q := Site.select_bind given bound
  rw [named]
  split
  · exact hentered
  · exact (Site.select_handleId given id).trans hentered

/-- The rule for events touches no attribute of a name that neither listens nor is that of a listener. -/
theorem find?_handleEvents_named {name : String} (quiet : Site.eventType? name = none)
    (other : name.toList.head? ≠ some 'd') (rest : name ≠ "w-bind" ∧ name ≠ "w-id" ∧ name ≠ "id") :
    t.named.handleEvents.el.find? name = t.el.find? name := by
  obtain ⟨bound, given, id⟩ := rest
  refine Element.find?_congr_select ((Site.select_handleEvents ?_ ?_ ?_ ?_).trans (t.select_named ?_ ?_ ?_))
  · rintro event hevent
    rw [beq_eq_false_iff_ne]
    rintro rfl
    exact nomatch quiet ▸ hevent
  · intro type
    rw [beq_eq_false_iff_ne]
    rintro rfl
    exact other (by simp)
  all_goals exact beq_eq_false_iff_ne.mpr (Ne.symm ‹_›)

/-- The rules before it leave `w-extend` alone. -/
theorem find?_extend : t.named.handleEvents.el.find? "w-extend" = t.el.find? "w-extend" :=
  t.find?_handleEvents_named rfl (by decide) (by decide)

/-- The rules before it leave `w-for` alone. -/
theorem find?_label : t.named.handleEvents.handleExtend.el.find? "w-for" = t.el.find? "w-for" :=
  (Element.find?_congr_select (Site.select_handleExtend rfl rfl rfl)).trans
    (t.find?_handleEvents_named rfl (by decide) (by decide))

/-- The first two rules report what is wrong with `w-bind` and with `w-id`. -/
theorem diagnostics_named :
    t.named.unit.diagnostics = t.unit.diagnostics ++
      t.report ((Problem.noDefaultWidget "w-bind").onlyIf (t.unit.lacksDefault t.el "w-bind") ++
        (Problem.outsideWidget "w-id").onlyIf (t.el.has "w-id" && !t.enclosed)) := by
  have hstart : (Site.start t.el t.unit t.inLoop).inWidget = t.enclosed := by
    rw [Bool.eq_iff_iff, Site.inWidget_iff, enclosed, Bool.not_eq_true', List.isEmpty_eq_false_iff]
    rfl
  have hentered : t.entered.unit.diagnostics = t.unit.diagnostics ++
      t.report ((Problem.noDefaultWidget "w-bind").onlyIf (t.unit.lacksDefault t.el "w-bind") ++
        (Problem.outsideWidget "w-id").onlyIf (t.bound && (t.el.has "w-id" && !t.enclosed))) := by
    rw [t.bound_eq, ← hstart]
    exact Site.diagnostics_bind _
  rw [named, show t.entered.isRoot = t.bound from rfl]
  rcases hb : t.bound with _ | _
  · have hinside : t.entered.inWidget = t.enclosed := by
      rw [t.inWidget_eq_of_mem_stages t.entered_mem_stages, hb, Bool.false_or]
    have hid : t.entered.el.has "w-id" = t.el.has "w-id" := Element.has_congr (t.find?_id_entered hb)
    rw [if_neg (by decide), Site.diagnostics_handleId, t.reports_of_mem_stages t.entered_mem_stages, hentered, hb,
      hinside, hid, Bool.false_and, Problem.onlyIf_false, List.append_nil, t.report_append, List.append_assoc]
  · rw [if_pos rfl, hentered, hb, Bool.true_and]

/-- **The rules for an element report its problems.** -/
theorem diagnostics_site : t.site.unit.diagnostics = t.unit.diagnostics ++ t.unit.reports t.placed := by
  let heard := t.named.handleEvents
  let extended := heard.handleExtend
  let labelled := extended.handleFor
  have hstages : ∀ s ∈ [t.named, heard, extended, labelled], s ∈ t.stages := by simp [stages, heard, extended, labelled]
  simp only [List.forall_mem_cons, List.not_mem_nil, false_imp_iff, implies_true, and_true] at hstages
  obtain ⟨hnamed, hheard, hextended, hlabelled⟩ := hstages
  have hinside : ∀ s ∈ t.stages, s.inWidget = t.placed.inside t.unit.opens := fun s hs => by
    rw [t.inWidget_eq_of_mem_stages hs, t.inside_placed rfl]
  have hlabel : extended.el.has "w-for" = t.el.has "w-for" := Element.has_congr t.find?_label
  have hbody : labelled.el.has "w-body" = t.el.has "w-body" := Element.has_congr t.beforeBody_frame.2.2
  calc t.site.unit.diagnostics
      = labelled.unit.diagnostics ++ labelled.reports _ := labelled.diagnostics_handleBody
    _ = _ := by
      rw [show labelled.unit.diagnostics = _ from extended.diagnostics_handleFor,
        show extended.unit.diagnostics = _ from heard.diagnostics_handleExtend,
        show heard.unit.diagnostics = _ from t.named.diagnostics_handleEvents, t.diagnostics_named,
        t.reports_of_mem_stages hnamed, t.reports_of_mem_stages hheard, t.reports_of_mem_stages hextended,
        t.reports_of_mem_stages hlabelled, hinside _ hnamed, hinside _ hextended, hinside _ hlabelled, hlabel, hbody,
        t.lacksDefault_of_mem_stages hheard t.find?_extend, t.eventAttributes_named,
        show t.unit.reports t.placed = t.report (t.unit.problems t.placed) from t.unit.reports_eq t.placed,
        CompileUnit.problems]
      simp only [List.append_assoc, report_append]
      rfl

end Turn

/-! ## The problems of a template -/

/-- What is reported while a forest is woven is what the turns report. -/
theorem diagnostics_weaveForest (inLoop : Bool) (u : CompileUnit) (nodes : List Node) :
    (weaveForest inLoop u nodes).2.diagnostics =
      u.diagnostics ++ (turnsAll inLoop u nodes).flatMap fun t => t.unit.reports t.placed := by
  induction nodes using Template.forestInduction generalizing inLoop u with
  | nil => exact (List.append_nil _).symm
  | element el children rest inside after =>
    let t : Turn := ⟨el, children, u, inLoop⟩
    have hfinished : t.finished.unit.diagnostics = t.inside.diagnostics := Site.diagnostics_close _
    have hinside : t.inside.diagnostics = _ := inside inLoop t.site.unit
    have hafter : (weaveForest inLoop u (.element el children :: rest)).2.diagnostics = _ :=
      after inLoop t.finished.unit
    rw [hafter, hfinished, hinside, t.diagnostics_site, turnsAll, turns, List.flatMap_append, List.flatMap_cons,
      List.append_assoc, List.append_assoc, List.append_assoc]
    rfl
  | loop item source body location rest inside after =>
    have hafter : (weaveForest inLoop u (.loop item source body location :: rest)).2.diagnostics = _ :=
      after inLoop (weaveForest true u body).2
    rw [hafter, inside, turnsAll, turns, List.flatMap_append, List.append_assoc]
    rfl
  | _ =>
    rename_i after
    exact after inLoop u

/-- **What is reported about a template.** Woven with no widget open, a template is reported exactly the mistakes of its
elements, element by element in document order and for each element in the order of the rules, each with its code and
its wording, the file of the template, and the line and the column of the element. -/
theorem diagnostics_weave {u : CompileUnit} (closed : u.widgets = []) (nodes : List Node) :
    let default := hasDefaultWidget u.settings u.files
    (weave u nodes).2.diagnostics =
      u.diagnostics ++ (placedAll (boundWith default) nodes).flatMap fun p =>
        (findings default p).map fun finding =>
          { code := finding.1
            message := finding.2
            file := u.settings.filePath
            line := p.el.location.line
            column := p.el.location.column } := by
  intro default
  have hplaced : placedAll (boundWith default) nodes = (turnsAll false u nodes).map Turn.placed := by
    rw [← u.opens_eq]
    exact placedAll_eq closed false nodes
  rw [weave_eq closed, diagnostics_weaveForest, hplaced, List.flatMap_map]
  congr 1
  apply List.flatMap_congr
  intro t ht
  obtain ⟨hsettings, hfiles⟩ := context_of_mem_turnsAll ht
  exact CompileUnit.reports_congr hsettings hfiles t.placed

/-- A root whose default widget is missing is no root: what is in it lies outside. A root below it has a widget, but no
id to take from one around it. -/
theorem diagnostics_weave_of_missing_default :
    let paragraph : Element :=
      { tag := "p", location := ⟨2, 3⟩
        attributes := [⟨"w-body", none⟩, ⟨"w-onclick", some (.str "f")⟩, ⟨"w-onkeyup", none⟩] }
    let list : Element :=
      { tag := "ul", location := ⟨3, 3⟩
        attributes := [⟨"w-bind", some (.str "./w")⟩, ⟨"w-id", none⟩, ⟨"w-for", none⟩] }
    let item : Element :=
      { tag := "li", location := ⟨4, 5⟩, attributes := [⟨"w-extend", some (.str "")⟩, ⟨"w-id", none⟩] }
    let nodes : List Node :=
      [.element { tag := "div", attributes := [⟨"w-id", some (.str "a")⟩, ⟨"w-bind", none⟩] }
        [.element paragraph [], .element list [.element item []]]]
    (weave { settings := { filePath := "a.marko" } } nodes).2.diagnostics =
      [⟨"W-ERR-DEFAULT-MODULE", "Unable to find default widget module when using w-bind without a value",
          "a.marko", 1, 1⟩,
        ⟨"W-ERR-BIND-SCOPE", "w-id can only be used within the scope of w-bind", "a.marko", 1, 1⟩,
        ⟨"W-ERR-BIND-SCOPE", "w-onclick can only be used within the scope of w-bind", "a.marko", 2, 3⟩,
        ⟨"W-ERR-BODY-SCOPE", "w-body can only be used within the scope of w-bind", "a.marko", 2, 3⟩,
        ⟨"W-ERR-BIND-SCOPE", "w-id can only be used within the scope of w-bind", "a.marko", 3, 3⟩,
        ⟨"W-ERR-DEFAULT-MODULE", "Unable to find default widget module when using w-extend without a value",
          "a.marko", 4, 5⟩] := by
  intro paragraph list item nodes
  exact (diagnostics_weave rfl nodes).trans rfl

end WidgetTemplates.Compile
