import Mathlib.Data.List.Nodup
import Mathlib.Data.List.Perm.Subperm
import WidgetTemplates.Proofs.Compile.Edits
import WidgetTemplates.Proofs.Text.Decimal

/-!
# Every rule is a sequence of edits

What each rule does, case by case, and that it consists of edits. `Site.start_edits` says that all rules together
are a sequence of edits at the site of a new element, so a property of sites is kept by the rules as soon as it is
kept by each kind of edit.
-/

namespace WidgetTemplates.Compile

open Script (Expr Stmt)
open Template (Element Node Problem Attribute)
open Relation (ReflTransGen)

namespace Site

section Rules

variable {orig : Element} {late : Bool} {s : Site}

/-- A variable that is asked for is there afterwards. -/
theorem declare_declared (u : CompileUnit) (name code : String) :
    ∃ d ∈ (u.declare name code).declarations, d.name = name := by
  rw [CompileUnit.declare]
  split
  · next hany =>
    obtain ⟨d, hd, hname⟩ := List.any_eq_true.mp hany
    exact ⟨d, hd, eq_of_beq hname⟩
  · exact ⟨_, List.mem_append_right _ (List.mem_singleton_self _), rfl⟩

/-- A variable with a fresh name is declared behind the others. -/
theorem declare_of_fresh {u : CompileUnit} {name : String} (fresh : ∀ d ∈ u.declarations, d.name ≠ name)
    (code : String) : u.declare name code = { u with declarations := u.declarations ++ [⟨name, code⟩] } := by
  rw [CompileUnit.declare, if_neg]
  simpa using fresh

/-- No variable has the fresh name yet. -/
theorem freshName_fresh (u : CompileUnit) (base : String) : ∀ d ∈ u.declarations, d.name ≠ u.freshName base := by
  let names := base :: (List.range u.declarations.length).map fun i => base ++ toString (i + 2)
  rcases hf : names.find? fun n => !u.declarations.any (·.name == n) with _ | name
  · -- otherwise all the names would be declared, and there are more of them than declarations
    have hdeclared : names ⊆ u.declarations.map (·.name) := by
      intro n hn
      have := List.find?_eq_none.mp hf n hn
      simpa using this
    have hnumbered : ((List.range u.declarations.length).map fun i => base ++ toString (i + 2)).Nodup :=
      List.nodup_range.map fun i j h => by simpa using Text.append_toString_injective base h
    have hnames : names.Nodup := by
      refine List.nodup_cons.mpr ⟨?_, hnumbered⟩
      intro hmem
      obtain ⟨i, -, hi⟩ := List.mem_map.mp hmem
      exact Text.append_toString_ne base (i + 2) hi
    have hle := (List.Nodup.subperm hnames hdeclared).length_le
    simp only [names, List.length_cons, List.length_map, List.length_range] at hle
    omega
  · have hfree := List.find?_some hf
    intro d hd heq
    have hname : u.freshName base = name := by
      rw [CompileUnit.freshName]
      exact congrArg (·.getD base) hf
    rw [hname] at heq
    simp only [Bool.not_eq_true', List.any_eq_false] at hfree
    exact hfree d hd (by simp [heq])

/-- The variable that describes the widget in a module is declared. -/
theorem widgetType_declared (u : CompileUnit) (path : String) :
    ∃ d ∈ (u.widgetType path).2.declarations,
      (u.widgetType path).1 = .ident d.name ∧ d.code = (u.widgetType path).2.widgetTypeCode path := by
  unfold CompileUnit.widgetType CompileUnit.declareOnce
  split
  · next d hd => exact ⟨d, List.mem_of_find?_eq_some hd, rfl, by simpa using List.find?_some hd⟩
  · dsimp only
    rw [declare_of_fresh (freshName_fresh u "__widgetType")]
    exact ⟨_, List.mem_append_right _ (List.mem_singleton_self _), rfl, rfl⟩

/-- A widget type is given, or it is the variable of a module, which is then declared. -/
theorem widgetTypeOf?_cases {u u' : CompileUnit} {value : Option Expr} {widgetType : Expr}
    (h : u.widgetTypeOf? value = some (widgetType, u')) :
    (value = some widgetType ∧ u' = u) ∨ ∃ path, (widgetType, u') = u.widgetType path := by
  have default : ∀ {r}, u.defaultModule?.map u.widgetType = some r → ∃ path, r = u.widgetType path := by
    intro r hr
    obtain ⟨path, -, rfl⟩ := Option.map_eq_some_iff.mp hr
    exact ⟨path, rfl⟩
  unfold CompileUnit.widgetTypeOf? at h
  split at h
  · split at h
    · exact .inr (default h)
    · exact .inr ⟨_, (Option.some.inj h).symm⟩
  · exact .inr (default h)
  · obtain ⟨rfl, rfl⟩ := Prod.mk.inj (Option.some.inj h)
    exact .inl ⟨rfl, rfl⟩

/-- Taking an attribute other than the id and the body is an edit. -/
theorem drop_edits (name : String) (widgetName : isWidgetName name = true) (noBody : name ≠ "w-body")
    (noId : name ≠ "w-id") : Edits orig late s (s.drop name) :=
  .single (.drop name widgetName noBody (fun h => absurd h noId))

/-- The unit in which a widget type is known comes about by an edit, after which the type is named. -/
theorem typed_edits {name : String} {a : Attribute} {widgetType : Expr} {u : CompileUnit}
    (honest : Honest orig s) (found : s.el.find? name = some a) (widgetName : isWidgetName name = true)
    (noBody : name ≠ "w-body") (noId : name ≠ "w-id")
    (typed : (s.drop name).unit.widgetTypeOf? a.value = some (widgetType, u)) :
    Edits orig late s { s.drop name with unit := u } ∧
      NamesType orig name { s.drop name with unit := u } widgetType := by
  have first : Edits orig late s (s.drop name) := drop_edits name widgetName noBody noId
  rcases widgetTypeOf?_cases typed with ⟨hvalue, rfl⟩ | ⟨path, hpath⟩
  · exact ⟨first, .inl (honest.given found hvalue widgetName)⟩
  · obtain ⟨rfl, rfl⟩ := Prod.mk.inj hpath
    obtain ⟨d, hd, hident, hcode⟩ := widgetType_declared (s.drop name).unit path
    exact ⟨first.tail (.declareType path), .inr ⟨d, hd, hident, path, hcode⟩⟩

/-- Binding a widget: there is no `w-bind`, no type stands for its value, or the widget is opened when the id of the
root has been taken. -/
theorem bind_cases (s : Site) :
    s.el.find? "w-bind" = none ∧ s.bind = s ∨
      ∃ a, s.el.find? "w-bind" = some a ∧
        (s.unit.widgetTypeOf? a.value = none ∧ (∃ p, s.bind = (s.drop "w-bind").report p) ∨
          ∃ widgetType u, s.unit.widgetTypeOf? a.value = some (widgetType, u) ∧
            s.bind = ({ s.drop "w-bind" with unit := u }.bindId).enter widgetType) := by
  rw [bind, takeAttr_eq]
  rcases hf : s.el.find? "w-bind" with _ | a
  · exact .inl ⟨rfl, drop_of_find?_none hf⟩
  · refine .inr ⟨a, rfl, ?_⟩
    dsimp only
    rw [unit_drop]
    rcases s.unit.widgetTypeOf? a.value with _ | ⟨widgetType, u⟩
    · exact .inl ⟨rfl, _, rfl⟩
    · exact .inr ⟨widgetType, u, rfl, rfl⟩

/-- The rule for `w-bind` is a run of edits. -/
theorem bind_edits (honest : Honest orig s) (outer : s.isRoot = false)
    (unsettled : s.assigned = none) : Edits orig late s s.bind := by
  rcases s.bind_cases with ⟨-, h⟩ | ⟨a, hf, ⟨-, p, h⟩ | ⟨widgetType, u, ht, h⟩⟩
  · rw [h]
  · rw [h]
    have taken : Edits orig late s (s.drop "w-bind") := drop_edits _ rfl (by simp) (by simp)
    exact taken.tail (.report p)
  · rw [h]
    obtain ⟨typed, names⟩ := typed_edits honest hf rfl (by simp) (by simp) ht
    exact typed.tail (.enter widgetType names outer unsettled)

/-- Settling the id is at most one edit. -/
theorem assign_edits (inside : s.inWidget = true) (custom : s.isRoot = true → s.el.custom = true)
    (repeated : Bool) (single : repeated = false → s.inLoop = false ∨ TakesProvidedBody orig) :
    Edits orig late s (s.assign repeated) := by
  rcases h : s.assigned with _ | a
  · exact .single (.assign repeated inside h custom single)
  · rw [assign_of_settled h]

/-- A settled id is the id. -/
theorem id_of_settled {a : AssignedId} (h : s.assigned = some a) : s.id = a := by
  rw [id, h]
  rfl

/-- A custom element in a widget settles its id and hands it over. -/
theorem handNestedId_edits (inside : s.inWidget = true) (custom : s.el.custom = true) :
    Edits orig late s (s.nestedId.2.handOver (·.setId s.nestedId.1)) := by
  obtain ⟨a, ha⟩ := s.assign_settles s.inLoop
  have hid : s.nestedId.1 = a.nested := by rw [nestedId, id_of_settled ha]
  rw [hid]
  exact (assign_edits inside (fun _ => custom) s.inLoop .inl).tail
    (.handId a ha (by simpa using inside) (by simpa using custom))

/-- An explicit id: there is no `w-id`, it is taken and reported where no widget is open, or the id is settled, which a
custom element hands over and an ordinary one carries. -/
theorem handleId_cases (s : Site) :
    s.el.has "w-id" = false ∧ s.handleId = s ∨
      s.el.has "w-id" = true ∧
        (s.inWidget = false ∧ s.handleId = (s.report (.outsideWidget "w-id")).drop "w-id" ∨
          s.inWidget = true ∧
            (s.el.custom = true ∧ s.handleId = s.nestedId.2.handOver (·.setId s.nestedId.1) ∨
              s.el.custom = false ∧ s.handleId = (s.assign s.inLoop).ensureVariable)) := by
  rw [handleId, requireWidget]
  rcases s.el.has "w-id" with _ | _
  · exact .inl ⟨rfl, rfl⟩
  · refine .inr ⟨rfl, ?_⟩
    rcases s.inWidget with _ | _
    · exact .inl ⟨rfl, rfl⟩
    · refine .inr ⟨rfl, ?_⟩
      simp only [Bool.not_true, Bool.false_eq_true, if_false, if_true]
      split
      · next custom => exact .inl ⟨custom, rfl⟩
      · next plain => exact .inr ⟨Bool.eq_false_iff.mpr plain, rfl⟩

/-- The rule for `w-id` is a run of edits. -/
theorem handleId_edits (outer : s.isRoot = false) : Edits orig late s s.handleId := by
  rcases s.handleId_cases with ⟨-, h⟩ | ⟨-, ⟨outside, h⟩ | ⟨inside, ⟨custom, h⟩ | ⟨-, h⟩⟩⟩ <;> rw [h]
  · exact (ReflTransGen.single (.report _)).tail (.drop "w-id" rfl (by simp) fun _ => outside)
  · exact handNestedId_edits inside custom
  · refine (assign_edits inside (by simp [outer]) s.inLoop .inl).tail (.ensureVariable ?_ ?_)
    · rw [inWidget_assign, inside]
    · rw [isRoot_assign, outer]

/-! ### Events -/

/-- Event attributes are widget attributes. -/
theorem isWidgetName_of_eventType? {name type : String} (h : eventType? name = some type) :
    isWidgetName name = true := by
  unfold eventType? Text.dropStart? at h
  split at h
  · simp at h
  · simp at h
  · next heq =>
    -- the names of event attributes begin with `w-on`, and so with `w-`
    have hp := List.isPrefixOf_iff_prefix.mp (Option.ite_none_right_eq_some.mp heq).1
    exact List.isPrefixOf_iff_prefix.mpr ((by decide : "w-".toList <+: "w-on".toList).trans hp)

/-- An event attribute is taken; its value, if there is one, becomes the handler. -/
theorem handleEvent_eq {name type : String} (h : eventType? name = some type) :
    s.handleEvent name =
      match s.el.value? name with
      | some handler => (s.drop name).listen type handler
      | none => s.drop name := by
  rw [handleEvent, takeAttr_eq, h, Element.value?]
  rcases s.el.find? name with _ | ⟨n, _ | handler⟩ <;> rfl

/-- An event attribute changes neither where the element stands nor its id. -/
theorem handleEvent_frame {name : String} (event : (eventType? name).isSome = true) (s : Site) :
    (s.handleEvent name).isRoot = s.isRoot ∧ (s.handleEvent name).inWidget = s.inWidget ∧
      (s.handleEvent name).el.custom = s.el.custom ∧
      (s.handleEvent name).assigned = s.assigned := by
  obtain ⟨type, htype⟩ := Option.isSome_iff_exists.mp event
  rw [handleEvent_eq htype]
  rcases s.el.value? name with _ | handler
  · exact ⟨rfl, rfl, rfl, rfl⟩
  · exact (s.drop name).listen_frame type handler

/-- The rule for one event is a run of edits. -/
theorem handleEvent_edits {name : String} (honest : Honest orig s) (inside : s.inWidget = true)
    (event : (eventType? name).isSome = true) : Edits orig late s (s.handleEvent name) := by
  obtain ⟨type, htype⟩ := Option.isSome_iff_exists.mp event
  have hname := isWidgetName_of_eventType? htype
  have taken : Edits orig late s (s.drop name) :=
    drop_edits name hname (by rintro rfl; exact nomatch htype) (by rintro rfl; exact nomatch htype)
  rw [handleEvent_eq htype]
  rcases hv : s.el.value? name with _ | handler
  · exact taken
  · obtain ⟨a, hf, ha⟩ := Option.bind_eq_some_iff.mp hv
    exact taken.tail (.listen name type handler (honest.given hf ha hname) htype inside)

/-- The rules for events change neither the widgets around the element nor its settled id. -/
theorem foldl_handleEvent_frame {names : List String}
    (events : ∀ name ∈ names, (eventType? name).isSome = true) (s : Site) :
    (names.foldl handleEvent s).isRoot = s.isRoot ∧
      (names.foldl handleEvent s).inWidget = s.inWidget ∧
      (names.foldl handleEvent s).el.custom = s.el.custom ∧
      (names.foldl handleEvent s).assigned = s.assigned := by
  induction names generalizing s with
  | nil => exact ⟨rfl, rfl, rfl, rfl⟩
  | cons name rest ih =>
    obtain ⟨hr, hi, hc, ha⟩ := handleEvent_frame (events name (by simp)) s
    obtain ⟨hr', hi', hc', ha'⟩ := ih (fun n hn => events n (List.mem_cons_of_mem _ hn)) (s.handleEvent name)
    exact ⟨hr'.trans hr, hi'.trans hi, hc'.trans hc, ha'.trans ha⟩

/-- The rules for events are a run of edits. -/
theorem foldl_handleEvent_edits {names : List String}
    (events : ∀ name ∈ names, (eventType? name).isSome = true) (honest : Honest orig s)
    (inside : s.inWidget = true) : Edits orig late s (names.foldl handleEvent s) := by
  induction names generalizing s with
  | nil => exact .refl
  | cons name rest ih =>
    have hname := events name (by simp)
    have first : Edits orig late s _ := handleEvent_edits honest inside hname
    refine first.trans (ih (fun n hn => events n (List.mem_cons_of_mem _ hn)) (first.honest honest) ?_)
    rw [(handleEvent_frame hname s).2.1, inside]

/-- An ordinary element hands over no events. -/
theorem foldl_handleEvent_handover {names : List String}
    (events : ∀ name ∈ names, (eventType? name).isSome = true) (plain : s.el.custom = false) :
    (names.foldl handleEvent s).handover = s.handover := by
  induction names generalizing s with
  | nil => rfl
  | cons name rest ih =>
    have hname := events name (by simp)
    have hkeep : (s.handleEvent name).handover = s.handover := by
      obtain ⟨type, htype⟩ := Option.isSome_iff_exists.mp hname
      rw [handleEvent_eq htype]
      rcases s.el.value? name with _ | handler
      · rfl
      · simp [listen, plain, drop, takeAttr, Element.remove, setAttr]
    have hplain : (s.handleEvent name).el.custom = false := by
      rw [(handleEvent_frame hname s).2.2.1, plain]
    rw [List.foldl_cons, ih (fun n hn => events n (List.mem_cons_of_mem _ hn)) hplain, hkeep]

/-- The event attributes are named after events. -/
theorem forall_mem_eventNames (s : Site) : ∀ name ∈ s.eventNames, (eventType? name).isSome = true :=
  fun _ h => (List.mem_filter.mp h).2

/-- The events of an element: the first of them is reported where no widget is open; in a widget each is listened to,
and the id is handed over if that hands over an event. -/
theorem handleEvents_cases (s : Site) :
    let heard := s.eventNames.foldl handleEvent s
    s.inWidget = false ∧ s.eventNames = [] ∧ s.handleEvents = s ∨
      s.inWidget = false ∧ (∃ first more, s.eventNames = first :: more ∧
        s.handleEvents = s.report (.outsideWidget first)) ∨
      s.inWidget = true ∧ (s.handover.getD {}).events.length < (heard.handover.getD {}).events.length ∧
        s.handleEvents = heard.nestedId.2.handOver (·.setId heard.nestedId.1) ∨
      s.inWidget = true ∧ ¬ (s.handover.getD {}).events.length < (heard.handover.getD {}).events.length ∧
        s.handleEvents = heard := by
  intro heard
  rw [handleEvents]
  simp only [heard]
  rcases s.eventNames with _ | ⟨first, more⟩
  · rcases s.inWidget with _ | _
    · exact .inl ⟨rfl, rfl, rfl⟩
    · exact .inr (.inr (.inr ⟨rfl, Nat.lt_irrefl _, rfl⟩))
  · dsimp only
    rw [requireWidget]
    rcases s.inWidget with _ | _
    · exact .inr (.inl ⟨rfl, first, more, rfl, rfl⟩)
    · simp only [if_true]
      split
      · next hmore => exact .inr (.inr (.inl ⟨trivial, hmore, rfl⟩))
      · next hsame => exact .inr (.inr (.inr ⟨trivial, hsame, rfl⟩))

/-- Handling all events of an element is a run of edits. -/
theorem handleEvents_edits (honest : Honest orig s) : Edits orig late s s.handleEvents := by
  have events := s.forall_mem_eventNames
  obtain ⟨-, hinside, hcustom, -⟩ := foldl_handleEvent_frame events s
  rcases s.handleEvents_cases with ⟨-, -, h⟩ | ⟨-, first, more, -, h⟩ | ⟨inside, hlt, h⟩ | ⟨inside, -, h⟩ <;> rw [h]
  · exact .single (.report _)
  · -- only a custom element can have handed over an event
    have custom : s.el.custom = true := by
      by_contra hne
      rw [foldl_handleEvent_handover events (by simpa using hne)] at hlt
      exact Nat.lt_irrefl _ hlt
    exact (foldl_handleEvent_edits events honest inside).trans
      (handNestedId_edits (hinside.trans inside) (hcustom.trans custom))
  · exact foldl_handleEvent_edits events honest inside

/-! ### Base widgets, labels and bodies -/

/-- Extending a widget: there is no `w-extend`, no type stands for its value, or the base widget is handed over with
the values of the two further attributes. -/
theorem handleExtend_cases (s : Site) :
    s.handleExtend = s.drop "w-extend" ∨ (∃ p, s.handleExtend = (s.drop "w-extend").report p) ∨
      ∃ a widgetType u, s.el.find? "w-extend" = some a ∧
        s.unit.widgetTypeOf? a.value = some (widgetType, u) ∧
        let typed : Site := { s.drop "w-extend" with unit := u }
        s.handleExtend = ((typed.drop "w-config").drop "w-state").handOver
          (·.setExtension widgetType (typed.el.value? "w-config") ((typed.drop "w-config").el.value? "w-state")) := by
  rw [handleExtend, takeAttr_eq]
  rcases hf : s.el.find? "w-extend" with _ | a
  · exact .inl rfl
  · refine .inr ?_
    dsimp only
    rw [unit_drop]
    rcases ht : s.unit.widgetTypeOf? a.value with _ | ⟨widgetType, u⟩
    · exact .inl ⟨_, rfl⟩
    · exact .inr ⟨a, widgetType, u, rfl, ht, rfl⟩

/-- The rule for `w-extend` is a run of edits. -/
theorem handleExtend_edits (honest : Honest orig s) : Edits orig late s s.handleExtend := by
  have taken : Edits orig late s (s.drop "w-extend") := drop_edits _ rfl (by simp) (by simp)
  rcases s.handleExtend_cases with h | ⟨p, h⟩ | ⟨a, widgetType, u, hf, ht, h⟩
  · rw [h]
    exact taken
  · rw [h]
    exact taken.tail (.report p)
  · rw [h]
    obtain ⟨typed, names⟩ := @typed_edits orig late s _ _ _ _ honest hf rfl (by simp) (by simp) ht
    -- the values of the two further attributes are given too
    have value_given : ∀ {t : Site} {name : String}, Honest orig t → isWidgetName name = true →
        ∀ e ∈ t.el.value? name, Given orig name e := by
      intro t name ht hname e he
      obtain ⟨b, hb, hv⟩ := Option.bind_eq_some_iff.mp he
      exact ht.given hb hv hname
    have honest₁ := typed.honest honest
    have honest₂ := honest₁.drop "w-config"
    refine ((typed.trans (drop_edits "w-config" rfl ?_ ?_)).trans
      (drop_edits "w-state" rfl ?_ ?_)).tail
      (.extend widgetType _ _ names (value_given honest₁ rfl) (value_given honest₂ rfl)) <;> simp

/-- Labelling: there is no `w-for` with a value, no widget is open, or the label points at the target. -/
theorem handleFor_cases (s : Site) :
    s.handleFor = s.drop "w-for" ∨ (∃ p, s.handleFor = (s.drop "w-for").report p) ∨
      ∃ a target, s.el.find? "w-for" = some a ∧ a.value = some target ∧ s.inWidget = true ∧
        s.handleFor = (s.drop "w-for").setAttr "for" (elementIdCall (some target)) := by
  rw [handleFor, takeAttr_eq]
  rcases hf : s.el.find? "w-for" with _ | a
  · exact .inl rfl
  · dsimp only
    rw [requireWidget, inWidget_drop]
    rcases s.inWidget with _ | _
    · exact .inr (.inl ⟨_, rfl⟩)
    · rcases hv : a.value with _ | target
      · exact .inl rfl
      · exact .inr (.inr ⟨a, target, rfl, hv, rfl, rfl⟩)

/-- The rule for `w-for` is a run of edits. -/
theorem handleFor_edits (honest : Honest orig s) : Edits orig late s s.handleFor := by
  have taken : Edits orig late s (s.drop "w-for") := drop_edits _ rfl (by simp) (by simp)
  rcases s.handleFor_cases with h | ⟨p, h⟩ | ⟨a, target, hf, hv, inside, h⟩
  · rw [h]
    exact taken
  · rw [h]
    exact taken.tail (.report p)
  · rw [h]
    exact taken.tail (.label target (honest.given hf hv rfl) inside)

/-- The absolute form of a settled id only needs its variable. -/
theorem absoluteId_of_settled {a : AssignedId} (h : s.assigned = some a) :
    s.absoluteId = (a.absolute, s.ensureVariable) := by
  obtain ⟨a', ha', -, habs, -⟩ := ensureVariable_ready h
  rw [absoluteId, assign_of_settled h, id_of_settled ha', habs]

/-- The slot for a body of its own. -/
theorem innerSlot_some {a : AssignedId} (e : Expr) (h : (s.assign true).assigned = some a) :
    s.innerSlot (some e) = (a.absolute, e, (s.assign true).ensureVariable) := by
  obtain ⟨a', ha', -, habs, hready⟩ := ensureVariable_ready h
  rw [innerSlot]
  dsimp only
  rw [absoluteId_of_settled ha', habs, ensureVariable_of_ready ha' hready]

/-- The slot for a provided body. -/
theorem innerSlot_none {a : AssignedId} (h : (s.assign false).assigned = some a) :
    s.innerSlot none
      = (a.absolute, providedBody, ((s.assign false).announce "body" a.nested).ensureVariable) := by
  have hn : (s.assign false).nestedId = (a.nested, s.assign false) := by
    rw [nestedId, assign_of_settled h, id_of_settled h]
  rw [innerSlot]
  dsimp only
  rw [hn]
  dsimp only
  exact congrArg (fun r => (r.1, providedBody, r.2))
    (absoluteId_of_settled (s := (s.assign false).announce "body" a.nested) h)

/-- The rule for `w-body` is a run of edits where the element is no root. -/
theorem innerSlot_edits {body : Option Expr} (inside : s.inWidget = true) (outer : s.isRoot = false)
    (content : ∀ e ∈ body, Given orig "w-body" e) (provided : body = none → TakesProvidedBody orig) :
    Edits orig true s (fill (s.innerSlot body)) := by
  have inner : s.isRoot = true → s.el.custom = true := by simp [outer]
  cases body with
  | some e =>
    obtain ⟨a, ha⟩ := s.assign_settles true
    obtain ⟨a', ha', -, habs, hready⟩ := ensureVariable_ready ha
    rw [innerSlot_some e ha]
    -- the slot uses the absolute form of the id, whose variable is ensured first
    refine ((assign_edits inside inner true nofun).tail (.ensureVariable ?_ ?_)).tail (.slot _ _ ?_ ?_ ?_)
    · simpa using inside
    · simpa using outer
    · simpa using inside
    · exact .inr ⟨a', ha', habs.symm, hready⟩
    · exact .inl (content e rfl)
  | none =>
    obtain ⟨a, ha⟩ := s.assign_settles false
    have ha₁ : ((s.assign false).announce "body" a.nested).assigned = some a := ha
    obtain ⟨a', ha', -, habs, hready⟩ := ensureVariable_ready ha₁
    rw [innerSlot_none ha]
    -- the root is told the nested form before the absolute one is used
    refine (((assign_edits inside inner false fun _ => .inr (provided rfl)).tail (.announce a.nested ?_ ?_)).tail
      (.ensureVariable ?_ ?_)).tail (.slot _ _ ?_ ?_ ?_)
    · simpa using inside
    · exact .inr ⟨a, ha, rfl⟩
    · simpa using inside
    · simpa using outer
    · simpa using inside
    · exact .inr ⟨a', ha', habs.symm, hready⟩
    · exact .inr rfl

/-- The rule for `w-body` is a run of edits where the element is a root. -/
theorem rootSlot_edits {body : Option Expr} (inside : s.inWidget = true) (root : s.isRoot = true)
    (content : ∀ e ∈ body, Given orig "w-body" e) :
    Edits orig true s (fill (s.rootSlot body)) := by
  cases body with
  | some e => exact .single (.slot _ e inside (.inl ⟨rfl, root⟩) (.inl (content e rfl)))
  | none =>
    refine (ReflTransGen.single (.announce (.str "") inside (.inl ⟨rfl, root⟩))).tail
      (.slot _ _ ?_ (.inl ⟨rfl, root⟩) (.inr rfl))
    exact (s.inWidget_announce "body" (.str "")).trans inside

/-- In a widget, `w-body` is taken and the body is rendered in its slot. -/
theorem handleBody_eq (has : s.el.has "w-body" = true) (inside : s.inWidget = true) :
    s.handleBody =
      fill (if s.isRoot then (s.drop "w-body").rootSlot (s.el.value? "w-body")
        else (s.drop "w-body").innerSlot (s.el.value? "w-body")) := by
  rw [handleBody, has, requireWidget, inside]
  rfl

/-- The place of a body: there is no `w-body`, it is reported where no widget is open, or it is taken and the body is
rendered in the slot of a root or of another element. -/
theorem handleBody_cases (s : Site) :
    s.el.has "w-body" = false ∧ s.handleBody = s ∨
      s.el.has "w-body" = true ∧
        (s.inWidget = false ∧ s.handleBody = s.report .bodyOutsideWidget ∨
          s.inWidget = true ∧
            (s.isRoot = true ∧ s.handleBody = fill ((s.drop "w-body").rootSlot (s.el.value? "w-body")) ∨
              s.isRoot = false ∧ s.handleBody = fill ((s.drop "w-body").innerSlot (s.el.value? "w-body")))) := by
  rcases has : s.el.has "w-body" with _ | _
  · refine .inl ⟨rfl, ?_⟩
    rw [handleBody, has]
    rfl
  · refine .inr ⟨rfl, ?_⟩
    rcases inside : s.inWidget with _ | _
    · refine .inl ⟨rfl, ?_⟩
      rw [handleBody, has, requireWidget, inside]
      rfl
    · refine .inr ⟨rfl, ?_⟩
      rw [handleBody_eq has inside]
      rcases s.isRoot with _ | _
      · exact .inr ⟨rfl, rfl⟩
      · exact .inl ⟨rfl, rfl⟩

/-- A property of a site is kept by preparing and filling the slot of an element that is no root, if it holds after
settling the id, and announcing the place of a body, declaring the variable and rendering the body keep it. -/
theorem fill_innerSlot_induction {motive : Site → Prop} {body : Option Expr}
    (settled : motive (s.assign body.isSome))
    (announce : ∀ t id, motive t → motive (t.announce "body" id))
    (declare : ∀ t, motive t → motive t.ensureVariable)
    (slot : ∀ t id content, motive t → motive (t.slot id content)) : motive (fill (s.innerSlot body)) := by
  obtain ⟨a, ha⟩ := s.assign_settles body.isSome
  cases body with
  | none =>
    rw [innerSlot_none ha]
    exact slot _ _ _ (declare _ (announce _ _ settled))
  | some e =>
    rw [innerSlot_some e ha]
    exact slot _ _ _ (declare _ settled)

/-- A property of a site is kept by the rule for `w-body`, if it holds where there is no such attribute, after reporting
it, or after taking it, and the steps that prepare and fill a slot keep it. -/
theorem handleBody_induction {motive : Site → Prop} (absent : s.el.has "w-body" = false → motive s)
    (outside : s.inWidget = false → motive (s.report .bodyOutsideWidget))
    (taken : s.inWidget = true → motive (s.drop "w-body"))
    (assign : ∀ t repeated, motive t → motive (t.assign repeated))
    (announce : ∀ t id, motive t → motive (t.announce "body" id))
    (declare : ∀ t, motive t → motive t.ensureVariable)
    (slot : ∀ t id content, motive t → motive (t.slot id content)) : motive s.handleBody := by
  rcases s.handleBody_cases with ⟨has, h⟩ | ⟨-, ⟨hout, h⟩ | ⟨hin, ⟨-, h⟩ | ⟨-, h⟩⟩⟩ <;> rw [h]
  · exact absent has
  · exact outside hout
  · rcases s.el.value? "w-body" with _ | e
    · exact slot _ _ _ (announce _ _ (taken hin))
    · exact slot _ _ _ (taken hin)
  · exact fill_innerSlot_induction (assign _ _ (taken hin)) announce declare slot

/-- The rule for `w-body` is a run of edits, the attribute being untouched so far. -/
theorem handleBody_edits (honest : Honest orig s)
    (untouched : s.el.find? "w-body" = orig.find? "w-body") : Edits orig true s s.handleBody := by
  have content : ∀ e ∈ s.el.value? "w-body", Given orig "w-body" e := by
    intro e he
    obtain ⟨b, hf, hv⟩ := Option.bind_eq_some_iff.mp he
    exact honest.given hf hv rfl
  rcases s.handleBody_cases with ⟨-, h⟩ | ⟨has, ⟨-, h⟩ | ⟨inside, ⟨root, h⟩ | ⟨outer, h⟩⟩⟩ <;> rw [h]
  · exact .single (.report _)
  · exact (ReflTransGen.single (.takeBody inside)).trans (rootSlot_edits inside root content)
  · -- no rule before the last one touches `w-body`, so it had no value from the start
    have provided : s.el.value? "w-body" = none → TakesProvidedBody orig := by
      intro hnone
      rw [Element.value?, untouched] at hnone
      exact ⟨(Element.has_congr untouched).symm.trans has, hnone⟩
    exact (ReflTransGen.single (.takeBody inside)).trans (innerSlot_edits inside outer content provided)

/-- The site when all rules but the last one have been applied. -/
def beforeBody (s : Site) : Site :=
  (if s.bind.isRoot then s.bind else s.bind.handleId).handleEvents.handleExtend.handleFor

/-- The rule for `w-body` has its turn last. -/
theorem applyRules_eq (s : Site) : s.applyRules = s.beforeBody.handleBody := rfl

/-- The rules before that for `w-body` are a run of edits. -/
theorem beforeBody_edits (honest : Honest orig s) (outer : s.isRoot = false)
    (unsettled : s.assigned = none) : Edits orig late s s.beforeBody := by
  have bound : Edits orig late s s.bind := bind_edits honest outer unsettled
  have named : Edits orig late s (if s.bind.isRoot then s.bind else s.bind.handleId) := by
    rcases hr : s.bind.isRoot with _ | _
    · exact bound.trans (handleId_edits hr)
    · exact bound
  have listened : Edits orig late s _ := named.trans (handleEvents_edits (named.honest honest))
  have extended : Edits orig late s _ := listened.trans (handleExtend_edits (listened.honest honest))
  exact extended.trans (handleFor_edits (extended.honest honest))

/-- What the rules find at a new element. -/
theorem honest_start (el : Element) (u : CompileUnit) (inLoop : Bool) : Honest el (start el u inLoop) :=
  fun _ ha _ => ha

/-- All rules but the last one, at the site of a new element. -/
theorem start_early (el : Element) (u : CompileUnit) (inLoop : Bool) :
    Edits el late (start el u inLoop) (start el u inLoop).beforeBody :=
  beforeBody_edits (honest_start el u inLoop) rfl rfl

/-- The last rule at the site of a new element. -/
theorem start_late (el : Element) (u : CompileUnit) (inLoop : Bool) :
    Edits el true (start el u inLoop).beforeBody (start el u inLoop).applyRules := by
  have early : Edits el false _ _ := start_early el u inLoop
  exact handleBody_edits (early.honest (honest_start el u inLoop)) early.early.1

/-- **The rules only edit.** All rules together are a sequence of edits at the site of a new element. -/
theorem start_edits (el : Element) (u : CompileUnit) (inLoop : Bool) :
    Edits el true (start el u inLoop) (start el u inLoop).applyRules :=
  (start_early el u inLoop).trans (start_late el u inLoop)

end Rules

end Site

end WidgetTemplates.Compile
