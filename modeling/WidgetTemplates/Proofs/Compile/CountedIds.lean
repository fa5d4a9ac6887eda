import WidgetTemplates.Proofs.Compile.IdSteps

/-!
# Ids below loops

Below a loop an element is rendered many times, and each time it needs an id of its own. A number is then given in its
repeated form, which the template counts when it runs, and a variable before an ordinary element holds the result.
All rules see to this but one: the rule for `w-body` gives the place of a provided body a fixed number, whether it
lies below a loop or not. So a number below a loop is counted unless that rule is the first to ask for the id.

`Site.TakesAs` says in which form a number is taken. The rules before the last one take it as the loops around the
element ask for (`Turn.takesAs_beforeBody`), the last one is looked at for itself, and `Turn.repeats` puts the two
together. The main result is `counted_below_loops_iff`.
-/

namespace WidgetTemplates.Compile

open Script (Expr Stmt)
open Template (Element Node Occurrence occurrencesAll)

/-- Whether the place of a provided body is all that asks for the id of an element: neither `w-id` nor a handler on a
custom element does. -/
def asksAsSlot (el : Element) : Bool := marksBody el && !(el.has "w-id" || handsEvents el)

namespace AssignedId

/-- No id has both forms: one is a variable and the other a call. -/
theorem IsFixed.not_isCounted {n m : Nat} {a : AssignedId} (h : a.IsFixed n) : ¬ a.IsCounted m := by
  intro counted
  exact nomatch counted.2.symm.trans h.2

end AssignedId

namespace Site

variable {n : Nat} {repeated : Bool} {s s' : Site}

/-- Since `n` was the next number none has been taken, or it has been taken as the settled id, in its repeated form or
in its fixed one. As long as no id is settled, no number is taken. -/
structure TakesAs (n : Nat) (repeated : Bool) (s : Site) : Prop where
  unsettled : s.assigned = none → s.unit.nextId = n
  settled : ∀ a, s.assigned = some a → s.unit.nextId = n ∨ a.SameForms (.numbered n repeated)

/-- Whether a number is taken does not depend on the other parts of a site. -/
theorem TakesAs.of_frame (h : TakesAs n repeated s) (assigned : s'.assigned = s.assigned)
    (next : s'.unit.nextId = s.unit.nextId) : TakesAs n repeated s' := by
  constructor
  · exact fun hnone => next.trans (h.unsettled (assigned ▸ hnone))
  · intro a ha
    rw [next]
    exact h.settled a (assigned ▸ ha)

/-- Declaring the variable of an id takes no number. -/
theorem TakesAs.ensureVariable (h : TakesAs n repeated s) : TakesAs n repeated s.ensureVariable := by
  rcases s.ensureVariable_cases with hs | ⟨a, stmt, ha, -, -, hs⟩
  · rwa [hs]
  · rw [hs]
    refine ⟨nofun, ?_⟩
    intro a' ha'
    obtain rfl := Option.some.inj ha'
    exact h.settled a ha

/-- Settling the id takes the number in the form that is asked for. -/
theorem TakesAs.assign (h : TakesAs n repeated s) : TakesAs n repeated (s.assign repeated) := by
  refine assign_induction h ?_ ?_ (fun _ ht => ht.ensureVariable) fun _ ht => ht.of_frame rfl rfl
  · intro e unsettled _
    exact ⟨nofun, fun _ _ => .inl (h.unsettled unsettled)⟩
  · intro unsettled _
    refine ⟨nofun, fun a ha => .inr ?_⟩
    obtain rfl := Option.some.inj ha
    rw [h.unsettled unsettled]
    exact ⟨rfl, rfl⟩

/-- Steps that settle the id in one form keep to it. -/
theorem TakesAs.idSteps (steps : IdSteps (· = repeated) s s') (h : TakesAs n repeated s) : TakesAs n repeated s' := by
  induction steps with
  | refl => exact h
  | tail _ step ih =>
    cases step with
    | aside assigned before next => exact ih.of_frame assigned next
    | assign form asked => exact asked ▸ ih.assign
    | ensureVariable => exact ih.ensureVariable

/-- A slot takes what settling its id takes: a body of its own may be rendered many times, a provided one is not. -/
theorem takesAs_fill_innerSlot {body : Option Expr} (h : TakesAs n repeated (s.assign body.isSome)) :
    TakesAs n repeated (fill (s.innerSlot body)) := by
  apply fill_innerSlot_induction h
  · exact fun t _ ht => ht.of_frame rfl (nextId_modifyContaining t.unit _)
  · exact fun _ ht => ht.ensureVariable
  · exact fun t _ _ ht => ht.of_frame rfl (nextId_importModule t.unit _ _)

/-- The rule for `w-body` keeps to a settled id. On an element that is no root it settles one that is not. -/
theorem takesAs_handleBody (h : TakesAs n repeated s) (has : s.el.has "w-body" = true) (inside : s.inWidget = true) :
    TakesAs n (if s.isRoot || s.assigned.isSome then repeated else (s.el.value? "w-body").isSome) s.handleBody := by
  rw [handleBody_eq has inside]
  rcases s.isRoot with _ | _
  · rw [if_neg Bool.false_ne_true, Bool.false_or]
    refine takesAs_fill_innerSlot ?_
    rcases ha : s.assigned with _ | a
    · have hfree : TakesAs n (s.el.value? "w-body").isSome (s.drop "w-body") :=
        ⟨fun _ => h.unsettled ha, fun a ha' => absurd (ha'.symm.trans ha) (Option.some_ne_none a)⟩
      exact hfree.assign
    · rw [assign_of_settled (s := s.drop "w-body") ha]
      exact h.of_frame rfl rfl
  · rw [if_pos rfl, Bool.true_or, if_pos rfl]
    rcases s.el.value? "w-body" with _ | body
    · exact h.of_frame rfl ((nextId_importModule _ _ _).trans (nextId_modifyContaining _ _))
    · exact h.of_frame rfl (nextId_importModule _ _ _)

end Site

/-! ## The turn of one element -/

namespace Turn

variable (t : Turn)

/-- Whether the rule for `w-body` is the one that settles the id of the element, at the place of a provided body. -/
def settledAsSlot : Bool := !t.bound && asksAsSlot t.el

/-- Whether a number of the element is taken in its repeated form: below a loop it is, and if only a body slot asks for
the id of an element that is no root, for a body of its own. -/
def repeats : Bool :=
  if !t.bound && (t.el.has "w-body" && !(t.el.has "w-id" || handsEvents t.el)) then (t.el.value? "w-body").isSome
  else t.inLoop

/-- The rules before the last one take the number as the loops around the element ask for. -/
theorem takesAs_beforeBody :
    Site.TakesAs t.unit.nextId t.inLoop (Site.start t.el t.unit t.inLoop).beforeBody :=
  Site.TakesAs.idSteps (Site.idSteps_beforeBody _ rfl) ⟨fun _ => rfl, nofun⟩

/-- The form in which the rules take the number. -/
theorem takesAs_repeats (inside : t.entered.inWidget = true) : Site.TakesAs t.unit.nextId t.repeats t.site := by
  let last := (Site.start t.el t.unit t.inLoop).beforeBody
  obtain ⟨hroot, hinside, hfind⟩ := t.beforeBody_frame
  have hhas : last.el.has "w-body" = t.el.has "w-body" := Element.has_congr hfind
  rw [site, Site.applyRules_eq, repeats]
  rcases hb : t.el.has "w-body" with _ | _
  · rw [Bool.false_and, Bool.and_false, if_neg Bool.false_ne_true, Site.handleBody, hhas, hb]
    exact t.takesAs_beforeBody
  · have hvalue : last.el.value? "w-body" = t.el.value? "w-body" := by rw [Element.value?, hfind]; rfl
    have htakes := Site.takesAs_handleBody t.takesAs_beforeBody (hhas.trans hb) (hinside.trans inside)
    rw [hroot, t.settled_beforeBody inside, hvalue] at htakes
    revert htakes
    rcases t.bound with _ | _ <;> rcases t.el.has "w-id" with _ | _ <;> rcases handsEvents t.el with _ | _ <;> exact id

/-- Below a loop the number is taken in its repeated form, unless it is the last rule that settles the id at the place
of a provided body. -/
theorem takesAs_site (loop : t.inLoop = true) (inside : t.entered.inWidget = true) :
    Site.TakesAs t.unit.nextId (!t.settledAsSlot) t.site := by
  have hrepeats : t.repeats = !t.settledAsSlot := by
    rw [repeats, settledAsSlot, asksAsSlot, marksBody, loop]
    rcases t.bound with _ | _ <;> rcases t.el.has "w-body" with _ | _ <;>
      rcases t.el.has "w-id" || handsEvents t.el with _ | _ <;> rcases t.el.value? "w-body" with _ | e <;> rfl
  exact hrepeats ▸ t.takesAs_repeats inside

/-- An element takes at most one number, in a widget and for its settled id. -/
theorem settled_of_mem_taken {k : Nat} (h : k ∈ t.taken) :
    t.entered.inWidget = true ∧ k = t.unit.nextId ∧ t.site.unit.nextId = k + 1 ∧ ∃ a, t.site.assigned = some a := by
  obtain ⟨hle, hlt⟩ : t.unit.nextId ≤ k ∧ k < t.site.unit.nextId := by
    rw [taken, List.mem_range'] at h
    omega
  obtain ⟨-, hnext⟩ := (Site.start t.el t.unit t.inLoop).assigned_bind
  obtain ⟨hedits, -⟩ := t.edits_of_mem_stages t.site_mem_stages
  have hinside : t.entered.inWidget = true := by
    by_contra houtside
    have hsite : t.site.inWidget = false :=
      (t.inWidget_of_mem_stages t.site_mem_stages).trans (by simpa using houtside)
    have := (hedits.nextId_outside hsite).trans hnext
    exact absurd hlt (Nat.not_lt.mpr (Nat.le_trans (Nat.le_of_eq this) hle))
  have hchooses := t.choosesId_site hinside
  rcases ha : t.site.assigned with _ | a
  · have := (hchooses.unsettled ha).1
    omega
  · have hchosen := hchooses.settled a ha
    generalize t.site.unit.nextId = next at hlt hchosen ⊢
    cases hchosen with
    | explicit => omega
    | numbered => exact ⟨hinside, by omega, by omega, a, rfl⟩

/-- An ordinary element that takes a number is not bound. -/
theorem loose_of_mem_taken {k : Nat} (h : k ∈ t.taken) (plain : t.el.custom = false) : t.bound = false := by
  obtain ⟨hinside, -, -, a, ha⟩ := t.settled_of_mem_taken h
  have hasks := t.settled_site hinside
  by_contra hb
  rw [ha, asksId, if_pos (by simpa using hb), handsEvents, plain] at hasks
  exact Bool.false_ne_true hasks.symm

/-- The statements before an ordinary element and its id stay as the rules have left them. -/
theorem woven_of_loose (loose : t.bound = false) :
    t.woven.find? "id" = t.site.el.find? "id" ∧ t.site.el.before ⊆ t.woven.before := by
  rw [woven, t.finished_eq_handed loose, Element.find?, t.attributes_handed]
  exact ⟨rfl, t.before_handed⟩

/-- An ordinary element below a loop whose number is counted has the variable as its id, and the variable is declared
before it. -/
theorem declared_of_isCounted {k : Nat} {a : AssignedId} (h : k ∈ t.taken) (plain : t.el.custom = false)
    (settled : t.site.assigned = some a) (counted : a.IsCounted k) :
    t.woven.find? "id" = some ⟨"id", some (.ident ("__widgetId" ++ toString k))⟩ ∧
      .var ("__widgetId" ++ toString k) (elementIdCall (some (.str (toString k ++ "[]")))) ∈ t.woven.before := by
  obtain ⟨-, hk, hnext, -⟩ := t.settled_of_mem_taken h
  have loose := t.loose_of_mem_taken h plain
  obtain ⟨hid, hsubset⟩ := t.woven_of_loose loose
  have ordinary : Site.OrdinaryId t.el t.inLoop t.unit.nextId t.site :=
    Site.applyRules_ordinaryId (t.isRoot_site.trans loose) plain
  obtain ⟨hfind, hbefore, hsettles⟩ := ordinary.settled a settled
  refine ⟨hid.trans (hfind.trans (by rw [counted.2])), hsubset ?_⟩
  rw [hnext, ← hk] at hsettles
  rw [hbefore]
  cases hsettles with
  | numbered repeated =>
    cases repeated with
    | false => exact nomatch counted.2
    | true =>
      rw [AssignedId.preamble_ready]
      exact List.mem_append_right _ (List.mem_singleton_self _)

end Turn

/-! ## Forests -/

/-- The element of an occurrence, and whether it lies below a loop. -/
def loopedElement? (o : Occurrence) : Option (Element × Bool) :=
  match o.node with
  | .element el _ => some (el, o.inLoop)
  | _ => none

/-- A turn tells rightly whether its element lies below a loop. -/
theorem map_inLoop_turnsAll {above : List Node} {inLoop : Bool} (loop : inLoop = above.any Node.isLoop)
    (u : CompileUnit) (nodes : List Node) :
    (turnsAll inLoop u nodes).map (fun t => (t.el, t.inLoop)) =
      (occurrencesAll above nodes).filterMap loopedElement? := by
  induction nodes using Template.forestInduction generalizing above inLoop u with
  | nil => rfl
  | element el children rest inside after =>
    have hinside : inLoop = (Node.element el children :: above).any Node.isLoop := loop
    rw [turnsAll, turns, occurrencesAll, Node.occurrences, List.map_append, List.filterMap_append, List.map_cons,
      inside hinside, after loop, loop]
    rfl
  | loop item source body location rest inside after =>
    have hinside : true = (Node.loop item source body location :: above).any Node.isLoop := rfl
    rw [turnsAll, turns, occurrencesAll, Node.occurrences, List.map_append, List.filterMap_append, inside hinside,
      after loop]
    rfl
  | _ =>
    rename_i after
    exact after loop u

/-- **Which numbers are counted below loops.** Weaving has a turn for every element, which tells whether the element
lies below a loop. If it does, a number that it takes is its settled id and is counted when the template runs, and the
variable that holds the result is the `id` of an ordinary element and is declared before it. The exception is an
element that is not bound and whose id nothing but the place of a provided body asks for: its number is fixed. -/
theorem counted_below_loops_iff (u : CompileUnit) (nodes : List Node) :
    (turnsAll false u nodes).map (fun t => (t.el, t.inLoop)) = (occurrencesAll [] nodes).filterMap loopedElement? ∧
      ∀ t ∈ turnsAll false u nodes, t.inLoop = true → ∀ k ∈ t.taken, ∃ a, t.site.assigned = some a ∧
        ((a.IsCounted k ∧ (t.el.custom = false →
            t.woven.find? "id" = some ⟨"id", some (.ident ("__widgetId" ++ toString k))⟩ ∧
              .var ("__widgetId" ++ toString k) (elementIdCall (some (.str (toString k ++ "[]")))) ∈ t.woven.before)) ↔
          ¬ (t.bound = false ∧ asksAsSlot t.el = true)) ∧
        (t.bound = false ∧ asksAsSlot t.el = true → a.IsFixed k) := by
  refine ⟨@map_inLoop_turnsAll [] false rfl u nodes, ?_⟩
  intro t _ loop k hk
  obtain ⟨hinside, hnumber, hnext, a, ha⟩ := t.settled_of_mem_taken hk
  -- below a loop the number has the form that fits whether only a slot asks for it
  have hforms : a.SameForms (.numbered k (!t.settledAsSlot)) := by
    rcases (t.takesAs_site loop hinside).settled a ha with h | h
    · omega
    · exact hnumber ▸ h
  have hslot : t.settledAsSlot = true ↔ t.bound = false ∧ asksAsSlot t.el = true := by
    rw [Turn.settledAsSlot, Bool.and_eq_true, Bool.not_eq_true']
  refine ⟨a, ha, ?_⟩
  rw [← hslot]
  rcases hs : t.settledAsSlot with _ | _
  · rw [hs] at hforms
    have counted : a.IsCounted k := hforms
    exact ⟨iff_of_true ⟨counted, fun plain => t.declared_of_isCounted hk plain ha counted⟩ (by decide), nofun⟩
  · rw [hs] at hforms
    have fixed : a.IsFixed k := hforms
    exact ⟨iff_of_false (fun h => fixed.not_isCounted h.1) (by decide), fun _ => fixed⟩

/-- A list item with an empty `w-id` that is also the place of the body: `w-id` asks first, and the id is counted. -/
theorem counted_below_loop_of_named_slot :
    let nodes : List Node :=
      [.element { tag := "ul", attributes := [⟨"w-bind", some (.str "./w")⟩] }
        [.loop "x" (.ident "xs")
          [.element { tag := "li", attributes := [⟨"w-body", none⟩, ⟨"w-id", none⟩] } []] .start]]
    ∃ t ∈ turnsAll false {} nodes, t.inLoop = true ∧ 0 ∈ t.taken ∧ ∃ a, t.site.assigned = some a ∧ a.IsCounted 0 ∧
      .var "__widgetId0" (elementIdCall (some (.str "0[]"))) ∈ t.woven.before := by
  intro nodes
  obtain ⟨-, hcounted⟩ := counted_below_loops_iff {} nodes
  obtain ⟨root, li, hturns, loop, hk, hplain, hasks⟩ : ∃ root li, turnsAll false {} nodes = [root, li] ∧
      li.inLoop = true ∧ 0 ∈ li.taken ∧ li.el.custom = false ∧ asksAsSlot li.el = false :=
    ⟨_, _, rfl, rfl, by decide, rfl, rfl⟩
  have hmem : li ∈ turnsAll false {} nodes := by simp [hturns]
  obtain ⟨a, ha, hiff, -⟩ := hcounted li hmem loop 0 hk
  obtain ⟨counted, hdeclared⟩ := hiff.mpr (by simp [hasks])
  exact ⟨li, hmem, loop, hk, a, ha, counted, (hdeclared hplain).2⟩

/-- A list item that is just the place of the body: all items get the id `0`, and no variable is declared. -/
theorem fixed_below_loop_of_slot :
    let nodes : List Node :=
      [.element { tag := "ul", attributes := [⟨"w-bind", some (.str "./w")⟩] }
        [.loop "x" (.ident "xs") [.element { tag := "li", attributes := [⟨"w-body", none⟩] } []] .start]]
    ∃ t ∈ turnsAll false {} nodes, t.inLoop = true ∧ 0 ∈ t.taken ∧ t.woven.before = [] ∧
      ∃ a, t.site.assigned = some a ∧ a.IsFixed 0 ∧ ¬ a.IsCounted 0 := by
  intro nodes
  obtain ⟨root, li, hturns, loop, hk, hbefore, ha⟩ : ∃ root li, turnsAll false {} nodes = [root, li] ∧
      li.inLoop = true ∧ 0 ∈ li.taken ∧ li.woven.before = [] ∧ li.site.assigned = some (.numbered 0 false) :=
    ⟨_, _, rfl, rfl, by decide, rfl, rfl⟩
  have hfixed : (AssignedId.numbered 0 false).IsFixed 0 := ⟨rfl, rfl⟩
  exact ⟨li, by simp [hturns], loop, hk, hbefore, _, ha, hfixed, hfixed.not_isCounted⟩

end WidgetTemplates.Compile
