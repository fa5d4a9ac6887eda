import WidgetTemplates.Proofs.Compile.Allocation
import WidgetTemplates.Proofs.Rendering.Run

/-!
# The numbers in a woven template

Weaving takes a new number for each element that it gives an id. An element outside all loops gets a single id,
which is its number. Below a loop the id is a repeated one, and the variable that holds it is declared right before
the element. `Numbered` says this of a woven forest and lists the numbers of the single ids, which differ from each
other (`numbered_woven`).
-/

namespace WidgetTemplates.Rendering

open Compile (AssignedId CompileUnit Site TakesProvidedBody Woven elementIdCall nextId_finished)
open Script (Expr Stmt)
open Template (Element Node Occurrence Throughout)

/-- The numbers of the single ids that an element itself has: at most one, and none if the element is the root of a
widget or has no id from weaving. `inside` tells whether it lies in a widget, as every element does that weaving has
given an id. -/
inductive OwnNumbers (inside : Bool) (el : Element) : List Nat → Prop
  | foreign (foreign : el.widget.isSome = true ∨ hasGeneratedId el = false) : OwnNumbers inside el []
  | single (n : Nat) (lies : inside = true)
    (id : el.find? "id" = some ⟨"id", some (elementIdCall (some (.str (toString n))))⟩) :
    OwnNumbers inside el [n]
  | repeated (n : Nat) (lies : inside = true)
    (id : el.find? "id" = some ⟨"id", some (.ident ("__widgetId" ++ toString n))⟩) (front : List Stmt)
    (calls : List Expr)
    (before : el.before = front ++ .var ("__widgetId" ++ toString n)
      (elementIdCall (some (.str (toString n ++ "[]")))) :: calls.map .expr) :
    OwnNumbers inside el []

/-- An element that has its own numbers outside of widgets has them inside, too. -/
theorem OwnNumbers.mono {inside inside' : Bool} {el : Element} {numbers : List Nat} (h : OwnNumbers inside el numbers)
    (wider : inside = true → inside' = true) : OwnNumbers inside' el numbers := by
  cases h with
  | foreign foreign => exact .foreign foreign
  | single n lies id => exact .single n (wider lies) id
  | repeated n lies id front calls before => exact .repeated n (wider lies) id front calls before

/-- The ids in a woven forest are in order, and `numbers` are those of the single ids, none of them below a loop. -/
inductive Numbered : Bool → List Node → List Nat → Prop
  | nil {inside : Bool} : Numbered inside [] []
  | element {inside : Bool} {el : Element} {children rest : List Node} {own below after : List Nat}
    (id : OwnNumbers inside el own) (within : Numbered (inside || el.widget.isSome) children below)
    (next : Numbered inside rest after) :
    Numbered inside (.element el children :: rest) (own ++ below ++ after)
  | loop {inside : Bool} {item : String} {source : Expr} {location : Template.Location}
    {body rest : List Node} {after : List Nat} (within : Numbered inside body [])
    (next : Numbered inside rest after) :
    Numbered inside (.loop item source body location :: rest) after
  | leaf {inside : Bool} {node : Node} {rest : List Node} {after : List Nat}
    (leaf : Compile.IsLeaf node) (next : Numbered inside rest after) :
    Numbered inside (node :: rest) after

/-- More elements may lie in a widget. -/
theorem Numbered.mono {inside inside' : Bool} {nodes : List Node} {numbers : List Nat}
    (h : Numbered inside nodes numbers) (wider : inside = true → inside' = true) : Numbered inside' nodes numbers := by
  induction h generalizing inside' with
  | nil => exact .nil
  | element id within next ihWithin ihNext =>
    refine .element (id.mono wider) (ihWithin fun hor => ?_) (ihNext wider)
    rw [Bool.or_eq_true] at hor ⊢
    exact hor.imp_left wider
  | loop within next ihWithin ihNext => exact .loop (ihWithin wider) (ihNext wider)
  | leaf leaf next ih => exact .leaf leaf (ih wider)

/-- Slots add no numbers. -/
theorem Numbered.append_statements {inside : Bool} {nodes : List Node} {numbers : List Nat}
    (h : Numbered inside nodes numbers) (stmts : List Stmt) :
    Numbered inside (nodes ++ stmts.map .code) numbers := by
  induction h with
  | nil =>
    induction stmts with
    | nil => exact .nil
    | cons stmt rest ih => exact .leaf trivial ih
  | element id within next _ ih => exact .element id within ih
  | loop within next _ ih => exact .loop within ih
  | leaf leaf next ih => exact .leaf leaf ih

/-- Different numbers from `lo` up to `hi`, which is not one of them. -/
structure NumbersIn (lo hi : Nat) (numbers : List Nat) : Prop where
  range : lo ≤ hi
  nodup : numbers.Nodup
  bounds : ∀ n ∈ numbers, lo ≤ n ∧ n < hi

/-- No number is needed where there is none. -/
theorem NumbersIn.nil {lo hi : Nat} (range : lo ≤ hi) : NumbersIn lo hi [] := ⟨range, List.nodup_nil, nofun⟩

/-- Numbers of a range and of the next one. -/
theorem NumbersIn.append {lo mid hi : Nat} {numbers more : List Nat} (h : NumbersIn lo mid numbers)
    (h' : NumbersIn mid hi more) : NumbersIn lo hi (numbers ++ more) := by
  refine ⟨Nat.le_trans h.range h'.range, List.nodup_append.mpr ⟨h.nodup, h'.nodup, ?_⟩, ?_⟩
  · rintro n hn m hm rfl
    have := h.bounds n hn
    have := h'.bounds n hm
    omega
  · intro n hn
    have := h.range
    have := h'.range
    rcases List.mem_append.mp hn with hn | hn
    · have := h.bounds n hn
      omega
    · have := h'.bounds n hn
      omega

/-! ## The id of a finished element -/

/-- An expression that does not ask for an id is no such call. -/
theorem isIdCall_of_not_asks {e : Expr} (h : ¬ e.AsksForId) : isIdCall e = false := by
  by_contra hcall
  apply h
  cases e with
  | call callee args =>
    refine ⟨.call callee args, Expr.self_mem_parts _, args, ?_⟩
    rw [isIdCall] at hcall
    cases callee with
    | member object property =>
      cases object with
      | ident name =>
        obtain ⟨rfl, rfl⟩ : name = "widget" ∧ property = "elId" := by simpa [isWidgetMember] using hcall
        rfl
      | _ => exact absurd hcall (by simp [isWidgetMember])
    | _ => exact absurd hcall (by simp [isWidgetMember])
  | _ => exact absurd hcall (by simp [isIdCall])

/-- A statement that does not ask for an id declares no variable for one. -/
theorem declaresId_of_not_asks {s : Stmt} (h : ¬ s.value.AsksForId) (name : String) : declaresId name s = false := by
  cases s with
  | var n init =>
    have hinit : isIdCall init = false := isIdCall_of_not_asks h
    rw [declaresId, hinit, Bool.and_false]
  | expr e => rfl

/-- An element has no generated id if its `id` attribute is its own and no variable for an id is declared before it. -/
theorem hasGeneratedId_of_own {el : Element} {front : List Stmt} (quiet : ∀ s ∈ front, ¬ s.value.AsksForId)
    (calls : List Expr) (before : el.before = front ++ calls.map .expr)
    (own : ∀ e ∈ el.value? "id", ¬ e.AsksForId) : hasGeneratedId el = false := by
  have hbefore : ∀ name, el.before.any (declaresId name) = false := by
    intro name
    rw [before, List.any_append, Bool.or_eq_false_iff, List.any_eq_false, List.any_eq_false]
    refine ⟨fun s hs => by simp [declaresId_of_not_asks (quiet s hs)], ?_⟩
    rw [List.forall_mem_map]
    exact fun e _ => Bool.false_ne_true
  rw [hasGeneratedId]
  rcases hv : el.value? "id" with _ | e
  · simp
  · have he := isIdCall_of_not_asks (own e hv)
    cases e <;> simp_all

section Finished

variable {el : Element} {u u₁ : CompileUnit} {inLoop : Bool}

/-- The finished element of an ordinary element has the id that the rules have left, and only calls stand between
the statements of the rules and the element. -/
theorem finished_ordinary (closed : u.opens el = false) (plain : el.custom = false) :
    (Site.finished el u inLoop u₁).el.custom = false ∧
      (Site.finished el u inLoop u₁).el.find? "id" = (Site.start el u inLoop).applyRules.el.find? "id" ∧
      ∃ calls : List Expr, (Site.finished el u inLoop u₁).el.before =
        (Site.start el u inLoop).applyRules.el.before ++ calls.map .expr := by
  obtain ⟨s, hfinished, hel, -⟩ := @Site.finished_of_not_opens el u u₁ inLoop closed
  obtain ⟨calls, hbefore⟩ := s.before_surround
  have hcustom := s.kind_surround.2.1
  rw [hfinished, hcustom, hbefore, ← hel]
  refine ⟨?_, ?_, calls, rfl⟩
  · rw [hel, (Site.start_edits el u inLoop).custom]
    exact plain
  · rw [Element.find?, Element.find?, s.surround_el.1]

/-- The id of an ordinary element, when the element is finished. -/
theorem finished_id (closed : u.opens el = false) (plain : el.custom = false)
    (quiet : ∀ s ∈ el.before, ¬ s.value.AsksForId) (free : el.value? "w-id" = none)
    (own : ∀ e ∈ el.value? "id", ¬ e.AsksForId) :
    ((Site.start el u inLoop).applyRules.assigned = none ∧
        hasGeneratedId (Site.finished el u inLoop u₁).el = false) ∨
      ∃ repeated, (repeated = false → inLoop = false ∨ TakesProvidedBody el) ∧
        (Site.start el u inLoop).applyRules.assigned = some (.ready u.nextId repeated) ∧
        (Site.start el u inLoop).applyRules.unit.nextId = u.nextId + 1 ∧
        (Site.finished el u inLoop u₁).el.find? "id" =
          some ⟨"id", some (AssignedId.ready u.nextId repeated).absolute⟩ ∧
        ∃ calls : List Expr, (Site.finished el u inLoop u₁).el.before =
          el.before ++ (AssignedId.ready u.nextId repeated).preamble ++ calls.map .expr := by
  have houter := (Site.isRoot_applyRules el u inLoop).trans closed
  have ordinary := Site.applyRules_ordinaryId houter plain
  obtain ⟨-, hid, calls, hbefore⟩ := @finished_ordinary el u u₁ inLoop closed plain
  rcases ha : (Site.start el u inLoop).applyRules.assigned with _ | a
  · -- no id is settled, and the `id` attribute is that of the template
    obtain ⟨hkept, hnothing, -⟩ := ordinary.unsettled ha
    refine .inl ⟨rfl, hasGeneratedId_of_own quiet calls ?_ ?_⟩
    · rw [hbefore, hnothing]
    · rw [Element.value?, hid, hkept]
      exact own
  · -- an id is settled, and it is a number since the template gives none
    obtain ⟨hset, hpreamble, hsettles⟩ := ordinary.settled a ha
    rw [hset] at hid
    rw [hpreamble] at hbefore
    generalize (Site.start el u inLoop).applyRules.unit.nextId = next at hsettles
    cases hsettles with
    | explicit given => exact absurd (given.symm.trans free) (by simp)
    | numbered repeated free' single => exact .inr ⟨repeated, single, rfl, rfl, hid, calls, hbefore⟩

/-- **The criterion is right.** The attributes by which a run recognises the ids that weaving has given are those of
the ordinary elements for which the rules have settled an id. -/
theorem hasGeneratedId_iff (closed : u.opens el = false) (plain : el.custom = false)
    (quiet : ∀ s ∈ el.before, ¬ s.value.AsksForId) (free : el.value? "w-id" = none)
    (own : ∀ e ∈ el.value? "id", ¬ e.AsksForId) :
    hasGeneratedId (Site.finished el u inLoop u₁).el = true ↔
      (Site.start el u inLoop).applyRules.assigned.isSome = true := by
  rcases @finished_id el u u₁ inLoop closed plain quiet free own with
    ⟨hnone, hgenerated⟩ | ⟨repeated, -, ha, -, hid, calls, hbefore⟩
  · rw [hnone, hgenerated]
    simp
  · obtain ⟨hplain, -⟩ := @finished_ordinary el u u₁ inLoop closed plain
    rw [ha, hasGeneratedId, hplain, Element.value?, hid, hbefore]
    cases repeated with
    | false => exact iff_of_true rfl rfl
    | true =>
      rw [AssignedId.absolute_ready, AssignedId.preamble_ready]
      simp [declaresId, isIdCall, elementIdCall, isWidgetMember, Expr.widget]

/-- The numbers of a finished element. -/
theorem ownNumbers_finished (quiet : ∀ s ∈ el.before, ¬ s.value.AsksForId) (free : el.value? "w-id" = none)
    (placed : inLoop = true → ¬ TakesProvidedBody el) (own : ∀ e ∈ el.value? "id", ¬ e.AsksForId)
    (inside : Compile.SameStack (Site.start el u inLoop).applyRules.unit.widgets u₁.widgets) :
    ∃ numbers, OwnNumbers (!u.widgets.isEmpty) (Site.finished el u inLoop u₁).el numbers ∧
      NumbersIn u.nextId (Site.start el u inLoop).applyRules.unit.nextId numbers ∧
      (inLoop = true → numbers = []) := by
  have hle : u.nextId ≤ (Site.start el u inLoop).applyRules.unit.nextId :=
    (Site.start_edits el u inLoop).nextId_le
  rcases ho : u.opens el with _ | _
  · rcases hc : el.custom with _ | _
    · rcases @finished_id el u u₁ inLoop ho hc quiet free own with
        ⟨-, hgenerated⟩ | ⟨repeated, single, ha, hnext, hid, calls, hbefore⟩
      · exact ⟨[], .foreign (.inr hgenerated), .nil hle, fun _ => rfl⟩
      · have hlies : (!u.widgets.isEmpty) = true := by
          have hsettled := (Site.start_edits el u inLoop).settled_inside rfl (by rw [ha]; rfl)
          have hstack := @Site.stack_applyRules el u inLoop ho
          rw [Site.inWidget_iff, Ne, hstack.eq_nil] at hsettled
          simpa using hsettled
        cases repeated with
        | false =>
          -- below a loop only the place of a provided body has a single id
          have hloop : inLoop = false := by
            rcases hl : inLoop with _ | _
            · rfl
            · exact absurd ((single rfl).resolve_left (by simp [hl])) (placed hl)
          refine ⟨[u.nextId], .single u.nextId hlies hid, ⟨hle, by simp, ?_⟩, ?_⟩
          · intro n hn
            obtain rfl := List.mem_singleton.mp hn
            omega
          · exact fun hl => absurd (hl.symm.trans hloop) (by simp)
        | true =>
          rw [List.append_assoc] at hbefore
          exact ⟨[], .repeated u.nextId hlies hid el.before calls hbefore, .nil hle, fun _ => rfl⟩
    · obtain ⟨s, hfinished, hel, -⟩ := @Site.finished_of_not_opens el u u₁ inLoop ho
      have hcustom : (Site.finished el u inLoop u₁).el.custom = true := by
        rw [hfinished, s.kind_surround.2.1, hel, (Site.start_edits el u inLoop).custom]
        exact hc
      exact ⟨[], .foreign (.inr (by rw [hasGeneratedId, hcustom]; rfl)), .nil hle, fun _ => rfl⟩
  · obtain ⟨s, w, hfinished, -⟩ := Site.finished_of_opens ho inside
    refine ⟨[], .foreign (.inl ?_), .nil hle, fun _ => rfl⟩
    rw [hfinished, (Site.finishRoot_frame _ w).2.2.2]
    rfl

/-- If a widget is open around the children of an element, then one is open around it, or it has one itself. -/
theorem opened_or_bound (inside : Compile.SameStack (Site.start el u inLoop).applyRules.unit.widgets u₁.widgets)
    (opened : (!(Site.start el u inLoop).applyRules.unit.widgets.isEmpty) = true) :
    (!u.widgets.isEmpty || (Site.finished el u inLoop u₁).el.widget.isSome) = true := by
  rw [Bool.or_eq_true]
  rcases ho : u.opens el with _ | _
  · have hstack := @Site.stack_applyRules el u inLoop ho
    refine .inl ?_
    simpa [hstack.eq_nil] using opened
  · obtain ⟨s, w, hfinished, -⟩ := Site.finished_of_opens ho inside
    refine .inr ?_
    rw [hfinished, (Site.finishRoot_frame _ w).2.2.2]
    rfl

end Finished

/-! ## Forests -/

/-- What a template has to keep to so that its generated ids are unique: it gives no ids, its `id` attributes and what
stands before its elements ask for none, and no place of a provided body lies below a loop. -/
structure LeavesIds (o : Occurrence) (el : Element) : Prop where
  free : el.value? "w-id" = none
  own : ∀ e ∈ el.value? "id", ¬ e.AsksForId
  placed : o.inLoop = true → ¬ TakesProvidedBody el
  quiet : ∀ s ∈ el.before, ¬ s.value.AsksForId

/-- **Weaving numbers the elements.** -/
theorem numbered_woven {inLoop : Bool} {u u' : CompileUnit} {nodes nodes' above : List Node}
    (h : Woven inLoop u nodes nodes' u') (below : inLoop = above.any Node.isLoop)
    (leaves : Throughout (fun o => ∀ el children, o.node = .element el children → LeavesIds o el) above nodes) :
    ∃ numbers, Numbered (!u.widgets.isEmpty) nodes' numbers ∧ NumbersIn u.nextId u'.nextId numbers ∧
      (inLoop = true → numbers = []) := by
  induction h generalizing above with
  | nil => exact ⟨[], .nil, .nil (Nat.le_refl _), fun _ => rfl⟩
  | @element inLoop u u₁ u₂ el children children' rest rest' inside after ihInside ihAfter =>
    rw [Template.throughout_element] at leaves
    obtain ⟨hself, hchildren, hrest⟩ := leaves
    have hown := hself el children rfl
    have hstack := inside.stack
    obtain ⟨own, hid, hownIn, hownLoop⟩ := @ownNumbers_finished el u u₁ inLoop hown.quiet
      hown.free (below ▸ hown.placed) hown.own hstack
    obtain ⟨inner, hinner, hinnerIn, hinnerLoop⟩ := @ihInside (.element el children :: above) below hchildren
    obtain ⟨next, hnext, hnextIn, hnextLoop⟩ := ihAfter below hrest
    have hwithin := hinner.mono (opened_or_bound hstack)
    have hsame : (!(Site.finished el u inLoop u₁).unit.widgets.isEmpty) = !u.widgets.isEmpty := by
      rw [Bool.eq_iff_iff]
      simp [(Site.finished_stack hstack).eq_nil]
    rw [hsame] at hnext
    rw [nextId_finished] at hnextIn
    -- the numbers of the element, of its children and of what follows lie in consecutive ranges
    refine ⟨own ++ inner ++ next, .element hid (hwithin.append_statements _) hnext,
      (hownIn.append hinnerIn).append hnextIn, ?_⟩
    intro hl
    rw [hownLoop hl, hinnerLoop hl, hnextLoop hl]
    rfl
  | @loop inLoop u u₁ u₂ item source location body body' rest rest' inside after ihInside ihAfter =>
    rw [Template.throughout_loop] at leaves
    obtain ⟨-, hbody, hrest⟩ := leaves
    obtain ⟨inner, hinner, hinnerIn, hinnerLoop⟩ :=
      @ihInside (.loop item source body location :: above) rfl hbody
    obtain ⟨next, hnext, hnextIn, hnextLoop⟩ := ihAfter below hrest
    obtain rfl := hinnerLoop rfl
    have hsame : (!u₁.widgets.isEmpty) = !u.widgets.isEmpty := by
      rw [Bool.eq_iff_iff]
      simp [inside.stack.eq_nil]
    rw [hsame] at hnext
    exact ⟨next, .loop hinner hnext, hinnerIn.append hnextIn, hnextLoop⟩
  | @leaf inLoop u u' node rest rest' leaf after ih =>
    have hrest : Throughout (fun o => ∀ el children, o.node = .element el children → LeavesIds o el)
        above rest := by
      intro o ho
      exact leaves o (List.mem_append_right _ ho)
    obtain ⟨next, hnext, hnextIn, hnextLoop⟩ := ih below hrest
    exact ⟨next, .leaf leaf hnext, hnextIn, hnextLoop⟩

end WidgetTemplates.Rendering
