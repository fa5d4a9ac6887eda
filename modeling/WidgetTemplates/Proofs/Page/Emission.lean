import Mathlib.Data.List.Basic
import Mathlib.Data.List.Forall2
import WidgetTemplates.Proofs.Page.ListedIds

/-!
# Every widget is announced exactly once

A page can announce its widgets to the browser at any time, also while some of them are still open, and in
three ways: in bootstrap code that it writes, in code that it returns, and in a transport. `Step` lists what
can happen to the widgets of a page and `run?` carries out any sequence of steps with the functions of the
page. `Emission.ids?` reads from the text of an announcement which ids it lists, and
`announced_in_completion_order` says that the lists of all announcements, one after another, are the ids of
the widgets in the order in which they were completed.

The invariant is `Ledger`: what has been announced, then the roots that are pending, then what lies below
the open widgets from the outermost to the innermost, is all that has been completed so far.
-/

namespace WidgetTemplates.Page

/-! ## Runs -/

/-- What can happen to the widgets of a page: one is begun or, without widgets inside it, recorded; the innermost open
one is ended; bootstrap code is written to the page or returned; the widgets are taken for transport. -/
inductive Step where
  | begin (w : Widget)
  | add (w : Widget)
  | finish
  | write (options : BootstrapOptions)
  | code
  | transport

/-- An announcement, as the page or the caller receives it: the text of the page before and after bootstrap code is
written to it, code that is returned, or a transport that is returned. -/
inductive Emission where
  | page (options : BootstrapOptions) (before after : String)
  | script (text : String)
  | transport (t : Transport)

/-- Carries out a step. There is no result when a widget is ended that was not begun, or when the codec
fails. -/
def Step.run? (o : Output) : Step → Option (Output × List Emission)
  | .begin w => some (o.withRegistry (o.registry.begin (.node w [])), [])
  | .add w => some (o.withRegistry (o.registry.add (.node w [])), [])
  | .finish => o.registry.finish?.map fun r => (o.withRegistry r, [])
  | .write options =>
    match writeBootstrap Codec.json options ⟨o, .shared⟩ with
    | (.ok (), s) => some (s.output, [.page options o.text s.output.text])
    | (.error _, _) => none
  | .code =>
    match bootstrapCode Codec.json o with
    | (.ok text, o) => some (o, [.script text])
    | (.error _, _) => none
  | .transport =>
    match takeTransport Codec.json o with
    | (.ok t, o) => some (o, [.transport t])
    | (.error _, _) => none

/-- Carries out steps in order, with all that is announced meanwhile. -/
def run? (o : Output) : List Step → Option (Output × List Emission)
  | [] => some (o, [])
  | step :: rest =>
    match step.run? o with
    | none => none
    | some (o, first) => (run? o rest).map fun r => (r.1, first ++ r.2)

/-- The open widgets after a step, innermost first; none when a widget is ended that was not begun. -/
def Step.opened? (opened : List Widget) : Step → Option (List Widget)
  | .begin w => some (w :: opened)
  | .finish => opened.tail?
  | _ => some opened

/-- The widget that a step completes, if it does: one that is recorded or ended. -/
def Step.completes (opened : List Widget) : Step → List Widget
  | .add w => [w]
  | .finish => opened.take 1
  | _ => []

/-- The open widgets after some steps. -/
def openAfter? (opened : List Widget) : List Step → Option (List Widget)
  | [] => some opened
  | step :: rest => (step.opened? opened).bind fun opened => openAfter? opened rest

/-- The widgets in the order in which they are completed. -/
def completed (opened : List Widget) : List Step → List Widget
  | [] => []
  | step :: rest =>
    step.completes opened ++ (match step.opened? opened with
      | none => []
      | some opened => completed opened rest)

/-- Whether a step announces widgets. -/
def Step.announces : Step → Bool
  | .write _ | .code | .transport => true
  | _ => false

/-- The ids of new widgets can stand in a list, and pages are not searched as a whole. -/
def Step.Plain : Step → Prop
  | .begin w | .add w => Listable w.id
  | .write options => options.scanPage = false
  | _ => True

/-- The announcement gives exactly the collected widgets to the browser: their assignments, and the text of
their ids in a call, in a marker or in a transport. Nothing is written when there are none. -/
def Emission.Carries (nonce : String) (batch : Collected) : Emission → Prop
  | .page options before after =>
    ∃ code, assignments Codec.json batch = .ok code ∧
      after = if batch.isEmpty then before
        else before ++ bootstrapText options nonce batch.idText code
  | .script text =>
    ∃ code, assignments Codec.json batch = .ok code ∧ text = code ++ startCall batch.idText ++ ";"
  | .transport t => t.ids = batch.idText

/-- The ids that an announcement lists: on a page, those in the text that has been added to it. -/
def Emission.ids? : Emission → Option (List String)
  | .page _ before after => (after.toList.dropPrefix? before.toList).bind writtenIds?
  | .script text => returnedIds? text.toList
  | .transport t => some (listedIds t.ids)

/-! ## Collected ids -/

/-- The ids of a collected forest stand in postorder. -/
theorem collect_ids (forest : List WidgetTree) :
    (collect forest).ids = (postorderAll forest).map Widget.id := by
  have aux : ∀ (ws : List Widget) (c : Collected),
      (ws.foldl Collected.add c).ids = c.ids ++ ws.map Widget.id := by
    intro ws
    induction ws with
    | nil => simp
    | cons w rest ih => simp [ih, Collected.add]
  rw [collect, aux]
  rfl

/-- Two forests in a row are completed one after the other. -/
theorem postorderAll_append (forest more : List WidgetTree) :
    postorderAll (forest ++ more) = postorderAll forest ++ postorderAll more := by
  induction forest with
  | nil => rfl
  | cons t rest ih => simp [postorderAll, ih]

/-! ## The ledger -/

/-- What the registry holds after the widgets `done` were completed, in this order, and the widgets `announced` were
announced, while `opened` are still open. The completed ones are announced, pending, or lie below an open widget; and no
more roots have been written than there are (`written`). -/
structure Ledger (r : Registry) (opened done announced : List Widget) : Prop where
  opened : r.opened.map WidgetTree.widget = opened
  done : announced ++ postorderAll r.pending
    ++ r.opened.reverse.flatMap (postorderAll ·.children) = done
  written : r.written ≤ r.roots.length

namespace Ledger

variable {r : Registry} {opened done announced : List Widget}

/-- The registry of a page on which nothing has happened. -/
theorem empty : Ledger {} [] [] [] := ⟨rfl, rfl, Nat.le_refl 0⟩

/-- Beginning a widget completes nothing. -/
theorem begin (h : Ledger r opened done announced) (w : Widget) :
    Ledger (r.begin (.node w [])) (w :: opened) done announced := by
  refine ⟨by simp [Registry.begin, WidgetTree.widget, h.opened], ?_, h.written⟩
  have hd := h.done
  simpa [Registry.begin, Registry.pending, WidgetTree.children, postorderAll] using hd

/-- A tree that is recorded completes the widgets in it, the root last. -/
theorem add (h : Ledger r opened done announced) (t : WidgetTree) :
    Ledger (r.add t) opened (done ++ t.postorder) announced := by
  obtain ⟨ho, hd, hw⟩ := h
  rcases hr : r.opened with _ | ⟨parent, rest⟩
  · -- no widget is open, and the tree becomes the last pending root
    have hp : (r.roots ++ [t]).drop r.written = r.pending ++ [t] :=
      List.drop_append_of_le_length hw
    rw [hr] at ho hd
    refine ⟨by simpa [Registry.add, hr] using ho, ?_, ?_⟩
    · simp only [Registry.add, hr, Registry.pending]
      rw [hp, postorderAll_append, ← hd]
      simp [postorderAll]
    · simp only [Registry.add, hr, List.length_append]
      omega
  · rw [hr] at ho hd
    refine ⟨?_, ?_, ?_⟩
    · simpa [Registry.add, hr, WidgetTree.add, WidgetTree.widget] using ho
    · rw [← hd]
      simp [Registry.add, hr, Registry.pending, WidgetTree.add, WidgetTree.children,
        postorderAll_append, postorderAll]
    · simpa [Registry.add, hr] using hw

/-- Ending the innermost open widget completes it. -/
theorem finish {w : Widget} (h : Ledger r (w :: opened) done announced) :
    ∃ r', r.finish? = some r' ∧ Ledger r' opened (done ++ [w]) announced := by
  obtain ⟨ho, hd, hw⟩ := h
  rcases hr : r.opened with _ | ⟨⟨w', children⟩, rest⟩
  · simp [hr] at ho
  · rw [hr] at ho hd
    obtain ⟨rfl, ho'⟩ : w' = w ∧ rest.map WidgetTree.widget = opened := by
      simpa [WidgetTree.widget] using ho
    -- without the widget the ledger lacks what lies below it
    have rest_ledger : Ledger { r with opened := rest } opened
        (announced ++ postorderAll r.pending ++ rest.reverse.flatMap (postorderAll ·.children))
        announced := ⟨ho', rfl, hw⟩
    refine ⟨_, by rw [Registry.finish?, hr], ?_⟩
    have := rest_ledger.add (.node w' children)
    rw [← hd]
    simpa [WidgetTree.postorder, WidgetTree.children] using this

/-- Counting all roots as written announces those that were pending. -/
theorem markWritten (h : Ledger r opened done announced) :
    Ledger r.markWritten opened done (announced ++ postorderAll r.pending) := by
  refine ⟨h.opened, ?_, Nat.le_refl _⟩
  have hp : r.markWritten.pending = [] := by simp [Registry.markWritten, Registry.pending]
  rw [hp, ← h.done]
  simp [Registry.markWritten, postorderAll]

end Ledger

/-! ## Announcements -/

/-- The codec for plain JSON never fails. -/
theorem assignments_json (c : Collected) : ∃ code, assignments Codec.json c = .ok code := by
  unfold assignments assignment
  cases c.state.isEmpty <;> cases c.config.isEmpty <;>
    exact ⟨_, rfl⟩

/-- Preparing values for JSON does not fail. -/
theorem prepared_json (entries : Json.Members) : ∃ value, prepared Codec.json entries = .ok value := by
  unfold prepared
  cases entries.isEmpty <;> exact ⟨_, rfl⟩

@[simp] theorem registry_withRegistry (o : Output) (r : Registry) :
    (o.withRegistry r).registry = r := rfl

theorem registry_markWritten (o : Output) :
    (State.markWritten ⟨o, .shared⟩).output.registry = o.registry.markWritten := by
  rcases ho : o.shared.registry with _ | r <;>
    simp [State.markWritten, Output.registry, ho, Registry.markWritten]

/-- An announcement carries the pending widgets, which are then counted as written. -/
theorem announces_pending {step : Step} (plain : step.Plain) (announces : step.announces = true)
    (o : Output) :
    ∃ o' e, step.run? o = some (o', [e]) ∧
      e.Carries (nonceAttribute o) (collect o.registry.pending) ∧
      o'.registry = o.registry.markWritten ∧ nonceAttribute o' = nonceAttribute o := by
  obtain ⟨code, hcode⟩ := assignments_json (collect o.registry.pending)
  have hreg := registry_markWritten o
  let taken : Output := (State.markWritten ⟨o, .shared⟩).output
  cases step with
  | begin w => simp [Step.announces] at announces
  | add w => simp [Step.announces] at announces
  | finish => simp [Step.announces] at announces
  | write options =>
    have hscan : options.scanPage = false := plain
    -- an announcement of no widget writes nothing
    by_cases hempty : (collect o.registry.pending).isEmpty
    · refine ⟨taken, .page options o.text o.text, ?_, ⟨code, hcode, (if_pos hempty).symm⟩, hreg, rfl⟩
      simp only [Step.run?, writeBootstrap, hscan, State.take, State.pending, hempty]
      rfl
    · let text := bootstrapText options (nonceAttribute o) (collect o.registry.pending).idText code
      refine ⟨taken.write text, .page options o.text (o.text ++ text), ?_,
        ⟨code, hcode, (if_neg hempty).symm⟩, hreg, rfl⟩
      simp only [Step.run?, writeBootstrap, hscan, State.take, State.pending, hempty, hcode]
      rfl
  | code =>
    refine ⟨taken, .script (code ++ startCall (collect o.registry.pending).idText ++ ";"), ?_,
      ⟨code, hcode, rfl⟩, hreg, rfl⟩
    simp only [Step.run?, bootstrapCode, State.take, State.pending, hcode]
    rfl
  | transport =>
    obtain ⟨state, hstate⟩ := prepared_json (collect o.registry.pending).state
    obtain ⟨config, hconfig⟩ := prepared_json (collect o.registry.pending).config
    refine ⟨taken, .transport ⟨(collect o.registry.pending).idText, state, config⟩, ?_, rfl, hreg, rfl⟩
    simp only [Step.run?, takeTransport, State.take, State.pending, hstate, hconfig]
    rfl

/-! ## Runs keep the ledger -/

/-- A step keeps the ledger: what it completes is added to what is done, what it announces to what is
announced. -/
theorem step_keeps_ledger {step : Step} (plain : step.Plain) {o : Output}
    {opened opened' done announced : List Widget} (ledger : Ledger o.registry opened done announced)
    (matched : step.opened? opened = some opened') :
    ∃ o' es forests, step.run? o = some (o', es) ∧ nonceAttribute o' = nonceAttribute o ∧
      List.Forall₂ (fun forest e => e.Carries (nonceAttribute o) (collect forest)) forests es ∧
      Ledger o'.registry opened' (done ++ step.completes opened)
        (announced ++ forests.flatMap postorderAll) := by
  by_cases announces : step.announces = true
  · obtain ⟨o', e, hrun, hcarries, hreg, hnonce⟩ := announces_pending plain announces o
    refine ⟨o', [e], [o.registry.pending], hrun, hnonce, .cons hcarries .nil, ?_⟩
    -- a step that announces neither opens nor completes a widget
    have hquiet : step.completes opened = [] ∧ opened' = opened := by
      cases step <;> simp_all [Step.announces, Step.completes, Step.opened?]
    rw [hreg, hquiet.1, hquiet.2]
    simpa using ledger.markWritten
  · cases step with
    | begin w =>
      obtain rfl : w :: opened = opened' := Option.some.inj matched
      exact ⟨_, [], [], rfl, rfl, .nil, by simpa [Step.completes] using ledger.begin w⟩
    | add w =>
      obtain rfl : opened = opened' := Option.some.inj matched
      have := ledger.add (.node w [])
      exact ⟨_, [], [], rfl, rfl, .nil, by
        simpa [Step.completes, WidgetTree.postorder, postorderAll] using this⟩
    | finish =>
      rcases opened with _ | ⟨w, rest⟩
      · simp [Step.opened?] at matched
      · obtain rfl : rest = opened' := Option.some.inj matched
        obtain ⟨r, hr, hledger⟩ := ledger.finish
        refine ⟨o.withRegistry r, [], [], ?_, rfl, .nil, by simpa [Step.completes] using hledger⟩
        rw [Step.run?, hr]
        rfl
    | write options => exact absurd rfl announces
    | code => exact absurd rfl announces
    | transport => exact absurd rfl announces

/-- A run keeps the ledger. -/
theorem run_keeps_ledger {steps : List Step} (plain : ∀ step ∈ steps, step.Plain) {o : Output}
    {opened opened' done announced : List Widget} (ledger : Ledger o.registry opened done announced)
    (matched : openAfter? opened steps = some opened') :
    ∃ o' es forests, run? o steps = some (o', es) ∧ nonceAttribute o' = nonceAttribute o ∧
      List.Forall₂ (fun forest e => e.Carries (nonceAttribute o) (collect forest)) forests es ∧
      Ledger o'.registry opened' (done ++ completed opened steps)
        (announced ++ forests.flatMap postorderAll) := by
  induction steps generalizing o opened done announced with
  | nil =>
    obtain rfl : opened = opened' := Option.some.inj matched
    exact ⟨o, [], [], rfl, rfl, .nil, by simpa [completed] using ledger⟩
  | cons step rest ih =>
    obtain ⟨next, hnext, hrest⟩ := Option.bind_eq_some_iff.mp matched
    obtain ⟨o₁, es₁, forests₁, hrun₁, hnonce₁, hcarries₁, ledger₁⟩ :=
      step_keeps_ledger (plain step (by simp)) ledger hnext
    obtain ⟨o₂, es₂, forests₂, hrun₂, hnonce₂, hcarries₂, ledger₂⟩ :=
      ih (fun s hs => plain s (List.mem_cons_of_mem step hs)) ledger₁ hrest
    refine ⟨o₂, es₁ ++ es₂, forests₁ ++ forests₂, ?_, hnonce₂.trans hnonce₁, ?_, ?_⟩
    · simp [run?, hrun₁, hrun₂]
    · rw [hnonce₁] at hcarries₂
      exact List.rel_append hcarries₁ hcarries₂
    · simpa [completed, hnext, List.append_assoc] using ledger₂

/-- A run of some steps and one more is the run of the steps and then the step. -/
theorem run?_concat {o o₁ o₂ : Output} {steps : List Step} {last : Step} {es more : List Emission}
    (first : run? o steps = some (o₁, es)) (second : last.run? o₁ = some (o₂, more)) :
    run? o (steps ++ [last]) = some (o₂, es ++ more) := by
  induction steps generalizing o es with
  | nil =>
    obtain ⟨rfl, rfl⟩ : o = o₁ ∧ [] = es := by simpa [run?] using first
    simp [run?, second]
  | cons step rest ih =>
    rw [run?] at first
    rcases hstep : step.run? o with _ | ⟨o', es'⟩
    · simp [hstep] at first
    · simp only [hstep, Option.map_eq_some_iff] at first
      obtain ⟨⟨o'', es''⟩, hrest, heq⟩ := first
      obtain ⟨rfl, rfl⟩ : o'' = o₁ ∧ es' ++ es'' = es := by simpa using heq
      simp [run?, hstep, ih hrest, List.append_assoc]

/-- Completed widgets were open at the start or come in by a step, so their ids are listable. -/
theorem completed_listable {steps : List Step} (plain : ∀ step ∈ steps, step.Plain)
    {opened : List Widget} (hopened : ∀ w ∈ opened, Listable w.id) :
    ∀ w ∈ completed opened steps, Listable w.id := by
  induction steps generalizing opened with
  | nil => simp [completed]
  | cons step rest ih =>
    have hstep := plain step (by simp)
    have hrest : ∀ s ∈ rest, s.Plain := fun s hs => plain s (List.mem_cons_of_mem step hs)
    intro w hw
    rcases List.mem_append.mp hw with hw | hw
    -- a widget that this step completes comes with it or is the innermost open one
    · cases step with
      | add w' =>
        obtain rfl : w = w' := by simpa [Step.completes] using hw
        exact hstep
      | finish => exact hopened w (List.mem_of_mem_take hw)
      | _ => simp [Step.completes] at hw
    · rcases hnext : step.opened? opened with _ | next
      · simp [hnext] at hw
      · rw [hnext] at hw
        refine ih hrest ?_ w hw
        intro w' hw'
        cases step with
        | begin new =>
          obtain rfl : new :: opened = next := Option.some.inj hnext
          rcases List.mem_cons.mp hw' with rfl | hw'
          · exact hstep
          · exact hopened w' hw'
        | finish =>
          obtain ⟨w₀, rfl⟩ : ∃ w₀, opened = w₀ :: next := by
            cases opened <;> simp_all [Step.opened?]
          exact hopened w' (List.mem_cons_of_mem w₀ hw')
        | _ =>
          obtain rfl : opened = next := Option.some.inj hnext
          exact hopened w' hw'

/-- The ids that an announcement carries are read from it. -/
theorem Emission.ids?_of_carries {o : Output} {batch : Collected} (listable : ∀ id ∈ batch.ids, Listable id)
    {e : Emission} (h : e.Carries (nonceAttribute o) batch) : e.ids? = some batch.ids := by
  cases e with
  | page options before after =>
    obtain ⟨code, hcode, rfl⟩ := h
    rw [ids?]
    split
    · next hempty =>
      have hnothing := dropPrefix?_append before.toList []
      rw [List.append_nil] at hnothing
      rw [hnothing, ids_eq_nil_of_isEmpty hempty listable]
      rfl
    · rw [String.toList_append, dropPrefix?_append]
      exact writtenIds?_bootstrapText options o hcode listable
  | script text =>
    obtain ⟨code, hcode, rfl⟩ := h
    exact returnedIds?_code hcode listable
  | transport t =>
    have hids : t.ids = Text.joinWith "," batch.ids := h
    rw [ids?, hids, listedIds_joinWith listable]

/-- So several announcements list what is in the forests that they carry. -/
theorem ids?_of_forall_carries {o : Output} {forests : List (List WidgetTree)} {es : List Emission}
    (listable : ∀ w ∈ forests.flatMap postorderAll, Listable w.id)
    (h : List.Forall₂ (fun forest e => e.Carries (nonceAttribute o) (collect forest)) forests es) :
    es.map Emission.ids? = (forests.map fun forest => (postorderAll forest).map Widget.id).map some := by
  induction h with
  | nil => rfl
  | @cons forest e forests es carries _ ih =>
    rw [List.flatMap_cons, List.forall_mem_append] at listable
    have hids : e.ids? = some ((postorderAll forest).map Widget.id) := by
      rw [← collect_ids]
      refine Emission.ids?_of_carries (fun id hid => ?_) carries
      rw [collect_ids] at hid
      obtain ⟨w, hw, rfl⟩ := List.mem_map.mp hid
      exact listable.1 w hw
    rw [List.map_cons, List.map_cons, List.map_cons, hids, ih listable.2]

/-- **Every widget is announced exactly once, in the order in which the widgets are completed.** Take any
sequence of steps on a fresh page: widgets with listable ids are begun, recorded and ended, and announced at
any time in any of the three ways. If all widgets are closed before a last announcement, the run goes through,
a list of ids is read from each of the texts that it leaves on the page, returns or transports, and these lists,
one after another, are the ids of the completed widgets. -/
theorem announced_in_completion_order (o : Output) (fresh : o.shared.registry = none)
    (steps : List Step) (last : Step) (announces : last.announces = true)
    (plain : ∀ step ∈ steps ++ [last], step.Plain) (closed : openAfter? [] steps = some []) :
    ∃ o' es, ∃ lists : List (List String), run? o (steps ++ [last]) = some (o', es) ∧
      es.map Emission.ids? = lists.map some ∧ lists.flatten = (completed [] steps).map Widget.id := by
  have hsteps : ∀ step ∈ steps, step.Plain := fun s hs => plain s (List.mem_append_left [last] hs)
  have start : Ledger o.registry [] [] [] := by
    have : o.registry = {} := by rw [Output.registry, fresh]; rfl
    rw [this]
    exact .empty
  obtain ⟨o₁, es, forests, hrun, hnonce, hcarries, ledger⟩ := run_keeps_ledger hsteps start closed
  obtain ⟨o₂, e, hlast, hcarries', -, -⟩ :=
    announces_pending (plain last (by simp)) announces o₁
  rw [hnonce] at hcarries'
  -- no widget is open any more, so what is pending is all that has not been announced
  have hall : (forests ++ [o₁.registry.pending]).flatMap postorderAll = completed [] steps := by
    have hopened : o₁.registry.opened = [] := by simpa using ledger.opened
    simpa [hopened] using ledger.done
  have hlist : ∀ w ∈ (forests ++ [o₁.registry.pending]).flatMap postorderAll, Listable w.id := by
    rw [hall]
    exact completed_listable hsteps (by simp)
  refine ⟨o₂, es ++ [e], _, run?_concat hrun hlast,
    ids?_of_forall_carries hlist (List.rel_append hcarries (.cons hcarries' .nil)), ?_⟩
  rw [← hall, List.map_flatMap, List.flatMap_def]

/-- Announcing while a widget is open leaves that widget, and those below it, for a later announcement. -/
theorem announced_around_open_widget :
    ∃ o' es, ∃ lists : List (List String),
      run? {} [.add { id := "w0" }, .begin { id := "w1" }, .add { id := "w\"2" }, .write {}, .finish,
        .transport, .add { id := "w3" }, .write { immediate := true }, .code] = some (o', es) ∧
      es.map Emission.ids? = lists.map some ∧ lists.flatten = ["w0", "w\"2", "w1", "w3"] :=
  announced_in_completion_order {} rfl
    [.add { id := "w0" }, .begin { id := "w1" }, .add { id := "w\"2" }, .write {}, .finish, .transport,
      .add { id := "w3" }, .write { immediate := true }]
    .code rfl (by simp [Step.Plain, Listable]) rfl

end WidgetTemplates.Page
