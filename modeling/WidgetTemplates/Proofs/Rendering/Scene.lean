import Mathlib.Data.List.Forall2
import WidgetTemplates.Compile.Site
import WidgetTemplates.Proofs.Page.ElementId

/-!
# Running generated script

What a render module does while it runs, as far as ids are concerned. A scene holds the widget instances that
are open, innermost first, and the variables that have been declared; `widget` is the innermost instance, and
`widget.elId(…)` is `Widget.elementId` on its record. Everything else that a template reads is taken from a
feed of texts, which is a parameter: no result depends on what a template expression evaluates to.
-/

namespace WidgetTemplates.Rendering

open Script (Expr Stmt)
open Page (Widget)

/-- A rendered widget instance, with its number in the order in which instances are created. -/
structure Instance where
  number : Nat
  widget : Widget

/-- The state of a running render module: the open instances, innermost first, how many have been created, the variables
with their values, the last declared first, and how many texts have been taken from the feed. -/
structure Scene where
  opened : List Instance := []
  created : Nat := 0
  vars : List (String × String) := []
  reads : Nat := 0

/-- Whether an expression is a property of `widget`. -/
def isWidgetMember (property : String) : Expr → Bool
  | .member (.ident object) p => object == "widget" && p == property
  | _ => false

namespace Scene

section Evaluation

variable (feed : Nat → String)

/-- Takes a text from the feed. -/
def read (s : Scene) : String × Scene := (feed s.reads, { s with reads := s.reads + 1 })

/-- The id that the innermost instance makes of a nested one. -/
def elementId (s : Scene) (nested : Option String) : String × Scene :=
  match s.opened with
  | [] => s.read feed
  | i :: rest =>
    ((i.widget.elementId nested).1,
      { s with opened := { i with widget := (i.widget.elementId nested).2 } :: rest })

/-- The id of the innermost instance. -/
def instanceId (s : Scene) : String × Scene :=
  match s.opened with
  | [] => s.read feed
  | i :: _ => (i.widget.id, s)

/-- The value of a variable. -/
def valueOf? (s : Scene) (name : String) : Option String :=
  (s.vars.find? (·.1 == name)).map (·.2)

mutual

/-- The text that an expression evaluates to, and the scene afterwards. -/
def eval (s : Scene) : Expr → String × Scene
  | .str value => (value, s)
  | .ident name =>
    match s.valueOf? name with
    | some value => (value, s)
    | none => s.read feed
  | .member object property =>
    if isWidgetMember "id" (.member object property) then s.instanceId feed
    else (s.eval object).2.read feed
  | .call callee args =>
    if isWidgetMember "elId" callee then
      (s.evalAll args).2.elementId feed (s.evalAll args).1.head?
    else ((s.eval callee).2.evalAll args).2.read feed
  | .array items => (s.evalAll items).2.read feed
  | .concat operands => (s.evalAll operands).2.read feed
  | .null => s.read feed
  | .raw _ => s.read feed

/-- The texts that expressions evaluate to one after another. -/
def evalAll (s : Scene) : List Expr → List String × Scene
  | [] => ([], s)
  | e :: rest =>
    ((s.eval e).1 :: ((s.eval e).2.evalAll rest).1, ((s.eval e).2.evalAll rest).2)

end

/-- Runs a statement. -/
def exec (s : Scene) : Stmt → Scene
  | .var name init => { (s.eval feed init).2 with vars := (name, (s.eval feed init).1) :: s.vars }
  | .expr e => (s.eval feed e).2

/-- Runs statements in order. -/
def execAll (s : Scene) (stmts : List Stmt) : Scene := stmts.foldl (exec feed) s

end Evaluation

/-! ## What evaluation leaves alone -/

/-- The instance `j` is the instance `i` later: the id is the same, and no count has gone down. -/
structure Ages (i j : Instance) : Prop where
  number : j.number = i.number
  id : j.widget.id = i.widget.id
  uses : ∀ base, Widget.uses base i.widget.counters ≤ Widget.uses base j.widget.counters

theorem Ages.refl (i : Instance) : Ages i i := ⟨rfl, rfl, fun _ => Nat.le_refl _⟩

theorem Ages.trans {i j k : Instance} (h : Ages i j) (h' : Ages j k) : Ages i k :=
  ⟨h'.number.trans h.number, h'.id.trans h.id, fun base => Nat.le_trans (h.uses base) (h'.uses base)⟩

/-- A later scene in which the same instances are open. -/
structure Grows (s s' : Scene) : Prop where
  opened : List.Forall₂ Ages s.opened s'.opened
  created : s.created ≤ s'.created

variable {feed : Nat → String} {s s' s'' : Scene}

/-- A scene in which the same instances are open, as they are. -/
theorem Grows.of_opened (hopened : s'.opened = s.opened) (hcreated : s'.created = s.created) :
    Grows s s' :=
  ⟨hopened ▸ List.forall₂_same.mpr fun i _ => .refl i, Nat.le_of_eq hcreated.symm⟩

theorem Grows.refl (s : Scene) : Grows s s := .of_opened rfl rfl

theorem Grows.trans (h : Grows s s') (h' : Grows s' s'') : Grows s s'' := by
  refine ⟨?_, Nat.le_trans h.created h'.created⟩
  have haged : ∀ is js ks, List.Forall₂ Ages is js → List.Forall₂ Ages js ks → List.Forall₂ Ages is ks := by
    intro is js ks his hjs
    induction his generalizing ks with
    | nil => exact hjs
    | cons first rest ih =>
      cases hjs with
      | cons first' rest' => exact .cons (first.trans first') (ih _ rest')
  exact haged _ _ _ h.opened h'.opened

/-- An instance is open in the later scene exactly if one was open before. -/
theorem Grows.opened_eq_nil (h : Grows s s') : s'.opened = [] ↔ s.opened = [] := by
  rw [← List.length_eq_zero_iff, ← List.length_eq_zero_iff, h.opened.length_eq]

/-- The innermost instance later. -/
theorem Grows.of_cons {i : Instance} {rest : List Instance} (h : Grows s s') (hs : s.opened = i :: rest) :
    ∃ j rest', s'.opened = j :: rest' ∧ Ages i j := by
  have hopened := h.opened
  rw [hs, List.forall₂_cons_left_iff] at hopened
  obtain ⟨j, rest', first, -, hs'⟩ := hopened
  exact ⟨j, rest', hs', first⟩

theorem grows_read (s : Scene) : Grows s (s.read feed).2 := .of_opened rfl rfl

/-- Asking for an element id lets the scene grow. -/
theorem grows_elementId (s : Scene) (nested : Option String) :
    Grows s (s.elementId feed nested).2 := by
  rcases ho : s.opened with _ | ⟨i, rest⟩
  · rw [elementId, ho]
    exact s.grows_read
  · rw [elementId, ho]
    refine ⟨?_, Nat.le_refl _⟩
    rw [ho]
    refine .cons ⟨rfl, i.widget.elementId_id nested, i.widget.elementId_counters nested⟩ ?_
    exact List.forall₂_same.mpr fun k _ => .refl k

/-- Asking for the id of the instance lets the scene grow. -/
theorem grows_instanceId (s : Scene) : Grows s (s.instanceId feed).2 := by
  unfold instanceId
  split
  · exact s.grows_read
  · exact .refl s

mutual

/-- Evaluation opens and closes no instance. -/
theorem grows_eval (s : Scene) : (e : Expr) → Grows s (s.eval feed e).2
  | .str value => .refl s
  | .ident name => by
    unfold eval
    split
    · exact .refl s
    · exact s.grows_read
  | .member object property => by
    unfold eval
    split
    · exact s.grows_instanceId
    · exact (s.grows_eval object).trans (grows_read _)
  | .call callee args => by
    unfold eval
    split
    · exact (s.grows_evalAll args).trans (grows_elementId _ _)
    · exact ((s.grows_eval callee).trans (grows_evalAll _ args)).trans (grows_read _)
  | .array items => (s.grows_evalAll items).trans (grows_read _)
  | .concat operands => (s.grows_evalAll operands).trans (grows_read _)
  | .null => s.grows_read
  | .raw _ => s.grows_read

/-- Evaluating expressions one after another opens and closes no instance. -/
theorem grows_evalAll (s : Scene) : (es : List Expr) → Grows s (s.evalAll feed es).2
  | [] => .refl s
  | e :: rest => (s.grows_eval e).trans (grows_evalAll _ rest)

end

/-- A statement lets the scene grow. -/
theorem grows_exec (s : Scene) (stmt : Stmt) : Grows s (s.exec feed stmt) := by
  cases stmt with
  | var name init => exact (s.grows_eval init).trans (.of_opened rfl rfl)
  | expr e => exact s.grows_eval e

/-- Statements let the scene grow. -/
theorem grows_execAll (s : Scene) (stmts : List Stmt) : Grows s (s.execAll feed stmts) := by
  induction stmts generalizing s with
  | nil => exact .refl s
  | cons stmt rest ih => exact (s.grows_exec stmt).trans (ih (s.exec feed stmt))

/-- Statements in a row are run one after another. -/
theorem execAll_append (s : Scene) (stmts more : List Stmt) :
    s.execAll feed (stmts ++ more) = (s.execAll feed stmts).execAll feed more :=
  List.foldl_append

/-- The open instances keep their numbers while a scene grows. -/
theorem Grows.numbers (h : Grows s s') : s'.opened.map Instance.number = s.opened.map Instance.number := by
  have haged : ∀ is js, List.Forall₂ Ages is js → js.map Instance.number = is.map Instance.number := by
    intro is js h
    induction h with
    | nil => rfl
    | cons first _ ih => rw [List.map_cons, List.map_cons, first.number, ih]
  exact haged _ _ h.opened

/-- Where an open instance comes from. -/
theorem Grows.origin {j : Instance} (h : Grows s s') (hj : j ∈ s'.opened) : ∃ i ∈ s.opened, Ages i j := by
  have haged : ∀ is js, List.Forall₂ Ages is js → j ∈ js → ∃ i ∈ is, Ages i j := by
    intro is js h hj
    induction h with
    | nil => exact absurd hj List.not_mem_nil
    | cons first _ ih =>
      rcases List.mem_cons.mp hj with rfl | hj
      · exact ⟨_, List.mem_cons_self, first⟩
      · obtain ⟨i, hi, hage⟩ := ih hj
        exact ⟨i, List.mem_cons_of_mem _ hi, hage⟩
  exact haged _ _ h.opened hj

theorem vars_elementId (s : Scene) (nested : Option String) : (s.elementId feed nested).2.vars = s.vars := by
  unfold elementId
  split <;> rfl

theorem vars_instanceId (s : Scene) : (s.instanceId feed).2.vars = s.vars := by
  unfold instanceId
  split <;> rfl

mutual

/-- Evaluation declares no variable. -/
theorem vars_eval (s : Scene) : (e : Expr) → (s.eval feed e).2.vars = s.vars
  | .str value => rfl
  | .ident name => by
    unfold eval
    split <;> rfl
  | .member object property => by
    unfold eval
    split
    · exact s.vars_instanceId
    · exact s.vars_eval object
  | .call callee args => by
    unfold eval
    split
    · exact (vars_elementId _ _).trans (s.vars_evalAll args)
    · exact (vars_evalAll _ args).trans (s.vars_eval callee)
  | .array items => s.vars_evalAll items
  | .concat operands => s.vars_evalAll operands
  | .null => rfl
  | .raw _ => rfl

/-- Evaluating expressions declares no variable. -/
theorem vars_evalAll (s : Scene) : (es : List Expr) → (s.evalAll feed es).2.vars = s.vars
  | [] => rfl
  | e :: rest => (vars_evalAll _ rest).trans (s.vars_eval e)

end

/-- Calls declare no variable. -/
theorem vars_execAll_calls (s : Scene) (calls : List Expr) :
    (s.execAll feed (calls.map .expr)).vars = s.vars := by
  induction calls generalizing s with
  | nil => rfl
  | cons e rest ih => exact (ih _).trans (s.vars_eval e)

/-! ## The expressions for ids -/

/-- A variable has the value that it was last declared with. -/
theorem eval_ident {name value : String} (h : s.valueOf? name = some value) :
    s.eval feed (.ident name) = (value, s) := by
  rw [eval, h]

/-- A variable that has just been declared has the value of its initial expression. -/
theorem eval_declared (s : Scene) (name : String) (init : Expr) :
    (s.exec feed (.var name init)).eval feed (.ident name) =
      ((s.eval feed init).1, s.exec feed (.var name init)) :=
  eval_ident (by simp [exec, valueOf?])

/-- The absolute form of a literal id is the id that the innermost instance makes of it. -/
theorem eval_elementIdCall (s : Scene) (nested : String) :
    s.eval feed (Compile.elementIdCall (some (.str nested))) = s.elementId feed (some nested) := by
  rw [Compile.elementIdCall, eval, if_pos (by rfl)]
  rfl

/-- A fixed id is put behind the id of the innermost instance. -/
theorem eval_fixed {i : Instance} {rest : List Instance} (hs : s.opened = i :: rest) {nested : String}
    (fixed : Widget.repeatedBase? nested = none) :
    s.eval feed (Compile.elementIdCall (some (.str nested))) = (i.widget.id ++ "-" ++ nested, s) := by
  rw [eval_elementIdCall, elementId, hs]
  dsimp only
  rw [i.widget.elementId_fixed fixed, ← hs]

/-- A repeated id is counted by the innermost instance. -/
theorem eval_repeated {i : Instance} {rest : List Instance} (hs : s.opened = i :: rest) (base : String) :
    s.eval feed (Compile.elementIdCall (some (.str (base ++ "[]")))) =
      (i.widget.id ++ "-" ++ base ++ "[" ++ toString (Widget.uses base i.widget.counters) ++ "]",
        { s with
          opened := ⟨i.number, { i.widget with counters := Widget.countUse base i.widget.counters }⟩ :: rest }) := by
  rw [eval_elementIdCall, elementId, hs]
  dsimp only
  rw [i.widget.elementId_repeated base]

/-- Declaring a variable for a repeated id counts the id and keeps its text. -/
theorem exec_repeated {i : Instance} {rest : List Instance} (hs : s.opened = i :: rest) (name base : String) :
    let s' := s.exec feed (.var name (Compile.elementIdCall (some (.str (base ++ "[]")))))
    s'.opened = ⟨i.number, { i.widget with counters := Widget.countUse base i.widget.counters }⟩ :: rest ∧
      s'.valueOf? name = some
        (i.widget.id ++ "-" ++ base ++ "[" ++ toString (Widget.uses base i.widget.counters) ++ "]") := by
  dsimp only
  rw [exec, eval_repeated hs base]
  exact ⟨rfl, by simp [valueOf?]⟩

end Scene

end WidgetTemplates.Rendering
