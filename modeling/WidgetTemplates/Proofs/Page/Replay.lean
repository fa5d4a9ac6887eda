import WidgetTemplates.Page.Registry

/-!
# Recording a forest event by event

A page learns of its widgets one event after another: each is begun and ended around the events of the widgets inside
it, and one without widgets inside it may also be recorded at once. `Walks` relates a forest to the events of a walk
through it, depth first. Such events rebuild the forest (`replayed_forest`): they come through in every registry, and
afterwards the forest stands behind what the innermost open widget already held, or behind the roots if none is open.

The registry is arbitrary throughout, since the events of a child come in while its parent is open and holds the
children before it.
-/

namespace WidgetTemplates.Page

/-- What a page is told of its widgets: one is begun or, without widgets inside it, recorded, and the innermost open one
is ended. -/
inductive Event where
  | begin (w : Widget)
  | add (w : Widget)
  | finish

/-- The events of a walk through a forest, depth first. A widget without widgets inside it is recorded at once; any
other one is begun, and ended after those inside it. -/
inductive Walks : List WidgetTree → List Event → Prop
  | nil : Walks [] []
  | leaf {w : Widget} {rest : List WidgetTree} {events : List Event} (after : Walks rest events) :
    Walks (.node w [] :: rest) (.add w :: events)
  | node {w : Widget} {children rest : List WidgetTree} {inside events : List Event} (below : Walks children inside)
    (after : Walks rest events) : Walks (.node w children :: rest) (.begin w :: (inside ++ .finish :: events))

/-- There is a walk through every forest. -/
theorem exists_walks : (forest : List WidgetTree) → ∃ events, Walks forest events
  | [] => ⟨[], .nil⟩
  | .node _ children :: rest => by
    obtain ⟨inside, below⟩ := exists_walks children
    obtain ⟨events, after⟩ := exists_walks rest
    exact ⟨_, .node below after⟩

namespace Registry

variable {r : Registry}

/-- The registry after an event; none when a widget is ended that was not begun. -/
def record? (r : Registry) : Event → Option Registry
  | .begin w => some (r.begin (.node w []))
  | .add w => some (r.add (.node w []))
  | .finish => r.finish?

/-- The registry after some events. -/
def replay? (r : Registry) (events : List Event) : Option Registry := events.foldlM record? r

/-- The registry with the trees of a forest recorded one after another. -/
def addAll (r : Registry) (forest : List WidgetTree) : Registry := forest.foldl add r

/-- Events are replayed one after another. -/
theorem replay?_cons {r' : Registry} {event : Event} (h : r.record? event = some r') (events : List Event) :
    r.replay? (event :: events) = r'.replay? events := by
  rw [replay?, List.foldlM_cons, h]
  rfl

/-- The first of the events are replayed before the others. -/
theorem replay?_append {r' : Registry} {events : List Event} (h : r.replay? events = some r') (more : List Event) :
    r.replay? (events ++ more) = r'.replay? more := by
  rw [replay?] at h
  rw [replay?, List.foldlM_append, h]
  rfl

/-- A forest that is recorded while no widget is open comes behind the roots. -/
theorem addAll_of_closed (closed : r.opened = []) (forest : List WidgetTree) :
    r.addAll forest = { r with roots := r.roots ++ forest } := by
  induction forest generalizing r with
  | nil => simp [addAll]
  | cons t forest ih =>
    have hadd : r.add t = { r with roots := r.roots ++ [t] } := by rw [add, closed]
    have hrest := ih (r := r.add t) (by rw [hadd, closed])
    rw [addAll, List.foldl_cons, ← addAll, hrest, hadd, List.append_assoc]
    rfl

/-- A forest that is recorded while a widget is open comes behind the children of that widget. -/
theorem addAll_of_opened {w : Widget} {children rest : List WidgetTree} (opened : r.opened = .node w children :: rest)
    (forest : List WidgetTree) : r.addAll forest = { r with opened := .node w (children ++ forest) :: rest } := by
  induction forest generalizing r children with
  | nil => simp [addAll, ← opened]
  | cons t forest ih =>
    have hadd : r.add t = { r with opened := .node w (children ++ [t]) :: rest } := by rw [add, opened]; rfl
    have hopened : (r.add t).opened = .node w (children ++ [t]) :: rest := by rw [hadd]
    have hrest := ih hopened
    rw [addAll, List.foldl_cons, ← addAll, hrest, hadd, List.append_assoc]
    rfl

/-- A widget that is begun holds the forest that is recorded next. -/
theorem addAll_begin (w : Widget) (children : List WidgetTree) :
    (r.begin (.node w [])).addAll children = r.begin (.node w children) := by
  have hopened : (r.begin (.node w [])).opened = .node w [] :: r.opened := rfl
  exact addAll_of_opened hopened children

/-- Ending a widget right after it was begun records it. -/
theorem finish?_begin (t : WidgetTree) : (r.begin t).finish? = some (r.add t) := rfl

/-- The events of a walk record the trees of the forest. -/
theorem replay?_of_walks {forest : List WidgetTree} {events : List Event} (walks : Walks forest events)
    (r : Registry) : r.replay? events = some (r.addAll forest) := by
  induction walks generalizing r with
  | nil => rfl
  | @leaf w rest events _ ih =>
    have hadd : r.record? (.add w) = some (r.add (.node w [])) := rfl
    rw [replay?_cons hadd, ih]
    rfl
  | @node w children rest inside events _ _ ihBelow ihAfter =>
    have hbegin : r.record? (.begin w) = some (r.begin (.node w [])) := rfl
    have hinside : (r.begin (.node w [])).replay? inside = some (r.begin (.node w children)) := by
      rw [ihBelow, addAll_begin]
    have hfinish : (r.begin (.node w children)).record? .finish = some (r.add (.node w children)) := finish?_begin _
    rw [replay?_cons hbegin, replay?_append hinside, replay?_cons hfinish, ihAfter]
    rfl

end Registry

/-- **The events of a walk rebuild the forest.** There is a walk through every forest, and the events of each come
through whatever is recorded and open already. They leave as many widgets open, add the forest as it is, in order, to
the children of the innermost one, or to the roots if none is open, and change nothing else. -/
theorem replayed_forest (forest : List WidgetTree) (r : Registry) :
    (∃ events, Walks forest events) ∧
      ∀ events, Walks forest events → ∃ r', r.replay? events = some r' ∧
        r'.opened.length = r.opened.length ∧ r'.written = r.written ∧
        match r.opened with
        | [] => r'.opened = [] ∧ r'.roots = r.roots ++ forest
        | .node w children :: rest => r'.opened = .node w (children ++ forest) :: rest ∧ r'.roots = r.roots := by
  refine ⟨exists_walks forest, fun events walks => ⟨_, Registry.replay?_of_walks walks r, ?_⟩⟩
  rcases hopened : r.opened with _ | ⟨⟨w, children⟩, rest⟩
  · rw [Registry.addAll_of_closed hopened]
    exact ⟨congrArg List.length hopened, rfl, hopened, rfl⟩
  · rw [Registry.addAll_of_opened hopened]
    exact ⟨rfl, rfl, rfl, rfl⟩

/-- Inside an open widget that has a child already, two trees come behind that child. -/
theorem replayed_below_open_widget :
    ∃ r', Registry.replay? { opened := [.node { id := "P" } [.node { id := "X" } []]], written := 3 }
        [.begin { id := "A" }, .add { id := "B" }, .begin { id := "C" }, .finish, .finish, .add { id := "D" }] =
          some r' ∧
      r'.opened.length = 1 ∧ r'.written = 3 ∧
      r'.opened =
        [.node { id := "P" } [.node { id := "X" } [],
          .node { id := "A" } [.node { id := "B" } [], .node { id := "C" } []], .node { id := "D" } []]] ∧
      r'.roots = [] :=
  (replayed_forest [.node { id := "A" } [.node { id := "B" } [], .node { id := "C" } []], .node { id := "D" } []]
    { opened := [.node { id := "P" } [.node { id := "X" } []]], written := 3 }).2 _
    (.node (.leaf (.node .nil .nil)) (.leaf .nil))

end WidgetTemplates.Page
