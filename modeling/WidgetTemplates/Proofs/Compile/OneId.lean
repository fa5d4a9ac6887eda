import WidgetTemplates.Proofs.Compile.IdSteps

/-!
# One id, whatever is asked of a site

The rules for the widget attributes are applied in a fixed order, but nothing in a site depends on it: any operation may
come at any time and any number of times. Each of them is a sequence of steps that settle the id, declare its variable,
or do something else (`Site.idSteps_perform`).

The invariant `Site.OneId` links what is settled with the numbers, the statements before the element and the answers
that have been given, and every step keeps it. `operations_settle_one_id` reads the result off.
-/

namespace WidgetTemplates.Compile

open Script (Expr Stmt)
open Template (Element Problem)
open Relation (ReflTransGen)

/-! ## Operations -/

/-- What can be asked of a site: the rules, the forms of its id, and single changes. -/
inductive Operation where
  | bind
  | id
  | events
  | extend
  | label
  | body
  | assign (repeated : Bool)
  | nestedId
  | absoluteId
  | ensureVariable
  | setAttr (name : String) (value : Expr)
  | report (problem : Problem)

/-- An id that is given as an answer, in one of its two forms. -/
inductive Answer where
  | nested (id : Expr)
  | absolute (id : Expr)

/-- Carries out an operation, with its answer if it has one. -/
def Operation.perform (s : Site) : Operation → Option Answer × Site
  | .bind => (none, s.bind)
  | .id => (none, s.handleId)
  | .events => (none, s.handleEvents)
  | .extend => (none, s.handleExtend)
  | .label => (none, s.handleFor)
  | .body => (none, s.handleBody)
  | .assign repeated => (none, s.assign repeated)
  | .nestedId => (some (.nested s.nestedId.1), s.nestedId.2)
  | .absoluteId => (some (.absolute s.absoluteId.1), s.absoluteId.2)
  | .ensureVariable => (none, s.ensureVariable)
  | .setAttr name value => (none, s.setAttr name value)
  | .report problem => (none, s.report problem)

/-- Carries out operations one after another, with their answers. -/
def performAll (s : Site) : List Operation → List Answer × Site
  | [] => ([], s)
  | op :: rest =>
    let (answer, s) := op.perform s
    let (more, s) := performAll s rest
    (answer.toList ++ more, s)

namespace Site

/-- Every operation is a sequence of steps. -/
theorem idSteps_perform (s : Site) (op : Operation) : IdSteps (fun _ => True) s (op.perform s).2 := by
  cases op with
  | bind => exact s.idSteps_bind
  | id => exact s.idSteps_handleId trivial
  | events => exact s.idSteps_handleEvents trivial
  | extend => exact s.idSteps_handleExtend
  | label => exact s.idSteps_handleFor
  | body => exact s.idSteps_handleBody fun _ => trivial
  | assign repeated => exact .single (.assign s repeated trivial)
  | nestedId => exact .single (.assign s s.inLoop trivial)
  | absoluteId => exact s.idSteps_absoluteId trivial
  | ensureVariable => exact .single (.ensureVariable s)
  | setAttr name value => exact .aside rfl rfl rfl rfl
  | report problem => exact .aside rfl rfl rfl rfl

end Site

/-! ## The invariant -/

/-- The ids that can be settled when `n` is the next number, with the next number afterwards: one that the template
gives, or the number, in its fixed form or as that of an element that can be rendered many times, whose variable may
have been declared. -/
inductive AssignedId.Drawn (n : Nat) : AssignedId → Nat → Prop
  | explicit (e : Expr) : Drawn n (.explicit e) n
  | fixed : Drawn n (.numbered n false) (n + 1)
  | computed (declared : Bool) : Drawn n { numbered n true with declared } (n + 1)

/-- An answer gives a form of the id; the absolute one is only given once it can be used. -/
def Answer.Gives (a : AssignedId) : Answer → Prop
  | .nested e => e = a.nested
  | .absolute e => e = a.absolute ∧ (a.declared = true ∨ a.varName = none)

namespace Site

variable {form : Bool → Prop} {orig : Element} {n : Nat} {answers : List Answer} {s s' : Site}

/-- One id has been settled for the element `orig`, or none yet, `n` being the next number at the start, and the answers
give this id. As long as none is settled, no number is taken, nothing is declared and nothing has been answered. A
settled id has been drawn once, and all that is added before the element is the declaration of its variable. -/
structure OneId (orig : Element) (n : Nat) (answers : List Answer) (s : Site) : Prop where
  unsettled : s.assigned = none → s.unit.nextId = n ∧ s.el.before = orig.before ∧ answers = []
  settled : ∀ a, s.assigned = some a → a.Drawn n s.unit.nextId ∧ s.el.before = orig.before ++ a.preamble ∧
    ∀ answer ∈ answers, answer.Gives a

/-- Declaring the variable adds its declaration, unless it is there. -/
theorem OneId.ensureVariable (h : OneId orig n answers s) : OneId orig n answers s.ensureVariable := by
  rcases s.ensureVariable_cases with hs | ⟨a, stmt, ha, hundeclared, hstmt, hs⟩
  · rwa [hs]
  · obtain ⟨hdrawn, hbefore, hanswers⟩ := h.settled a ha
    rw [hs]
    refine ⟨nofun, fun a' ha' => ?_⟩
    obtain rfl := Option.some.inj ha'
    refine ⟨?_, ?_, fun answer hanswer => ?_⟩
    · generalize s.unit.nextId = next at hdrawn ⊢
      cases hdrawn with
      | explicit e => cases hstmt
      | fixed => cases hstmt
      | computed declared => exact .computed true
    · have hnone : a.preamble = [] := by rw [AssignedId.preamble, hundeclared]; rfl
      have hdeclared : ({ a with declared := true } : AssignedId).preamble = [stmt] := by
        rw [AssignedId.preamble, if_pos rfl]
        exact congrArg Option.toList hstmt
      rw [hdeclared]
      exact congrArg (· ++ [stmt]) (by rw [hbefore, hnone, List.append_nil])
    · have hgives := hanswers answer hanswer
      cases answer with
      | nested e => exact hgives
      | absolute e => exact ⟨hgives.1, .inl rfl⟩

/-- Settling the id draws one, unless that has been done. -/
theorem OneId.assign (h : OneId orig n answers s) (repeated : Bool) : OneId orig n answers (s.assign repeated) := by
  refine assign_induction h ?_ ?_ (fun _ ht => ht.ensureVariable) fun _ ht => ⟨ht.unsettled, ht.settled⟩
  · intro e unsettled _
    obtain ⟨rfl, hbefore, rfl⟩ := h.unsettled unsettled
    refine ⟨nofun, fun a ha => ?_⟩
    obtain rfl := Option.some.inj ha
    exact ⟨.explicit e, hbefore.trans (List.append_nil _).symm, nofun⟩
  · intro unsettled _
    obtain ⟨rfl, hbefore, rfl⟩ := h.unsettled unsettled
    refine ⟨nofun, fun a ha => ?_⟩
    obtain rfl := Option.some.inj ha
    cases repeated with
    | false => exact ⟨.fixed, hbefore.trans (List.append_nil _).symm, nofun⟩
    | true => exact ⟨.computed false, hbefore.trans (List.append_nil _).symm, nofun⟩

/-- **Every step keeps the one id.** -/
theorem IdStep.oneId (step : IdStep form s s') (h : OneId orig n answers s) : OneId orig n answers s' := by
  cases step with
  | aside assigned before next =>
    constructor
    · rw [assigned, before, next]
      exact h.unsettled
    · rw [assigned, before, next]
      exact h.settled
  | assign repeated => exact h.assign repeated
  | ensureVariable => exact h.ensureVariable

/-- Steps that settle an id in one of its forms settle only one. -/
theorem IdSteps.oneId (steps : IdSteps form s s') (h : OneId orig n answers s) : OneId orig n answers s' := by
  induction steps with
  | refl => exact h
  | tail _ step ih => exact step.oneId ih

/-- An answer that gives the settled id can be added. -/
theorem OneId.answer {a : AssignedId} {answer : Answer} (h : OneId orig n answers s) (settled : s.assigned = some a)
    (gives : answer.Gives a) : OneId orig n (answers ++ [answer]) s := by
  refine ⟨fun hnone => (nomatch settled.symm.trans hnone), fun a' ha' => ?_⟩
  obtain rfl := Option.some.inj (settled.symm.trans ha')
  obtain ⟨hdrawn, hbefore, hanswers⟩ := h.settled a settled
  exact ⟨hdrawn, hbefore, List.forall_mem_append.mpr ⟨hanswers, List.forall_mem_singleton.mpr gives⟩⟩

/-- Every operation keeps the one id, and its answer gives it. -/
theorem OneId.perform (h : OneId orig n answers s) (op : Operation) :
    OneId orig n (answers ++ (op.perform s).1.toList) (op.perform s).2 := by
  have hkept := (s.idSteps_perform op).oneId h
  cases op with
  | nestedId =>
    obtain ⟨a, ha⟩ := s.assign_settles s.inLoop
    exact hkept.answer ha (congrArg AssignedId.nested (id_of_settled ha))
  | absoluteId =>
    obtain ⟨a, ha⟩ := s.assign_settles s.inLoop
    obtain ⟨a', ha', -, -, hready⟩ := ensureVariable_ready ha
    exact hkept.answer ha' ⟨congrArg AssignedId.absolute (id_of_settled ha'), hready⟩
  | _ =>
    rw [Operation.perform, Option.toList_none, List.append_nil]
    exact hkept

/-- Any operations keep the one id, and their answers give it. -/
theorem OneId.performAll (h : OneId orig n answers s) (ops : List Operation) :
    OneId orig n (answers ++ (Compile.performAll s ops).1) (Compile.performAll s ops).2 := by
  induction ops generalizing answers s with
  | nil => rwa [Compile.performAll, List.append_nil]
  | cons op rest ih =>
    rw [Compile.performAll, ← List.append_assoc]
    exact ih (h.perform op)

end Site

end WidgetTemplates.Compile
