import WidgetTemplates.Page.Bootstrap

/-!
# What a failed write leaves behind

Bootstrap code is written in three steps: the pending widgets are collected, they are counted as written, and their
stores are handed to the codec. A codec that fails does so after the second step. `writeBootstrap_eq_error_iff` says
when a write fails and in which state: the page has the text that it had, but all of its widgets count as written.
So a failed write always drops the widgets that were pending (`failed_write_drops_pending`), and no later write
announces them. With plain JSON no write fails (`Codec.json`), so this is about other codecs only.
-/

namespace WidgetTemplates.Page

/-! ## Counting as written -/

/-- Nothing is pending once all roots are counted as written. -/
theorem Registry.pending_markWritten (r : Registry) : r.markWritten.pending = [] :=
  List.drop_eq_nil_of_le (Nat.le_refl _)

namespace State

/-- Nothing is pending once it is marked as written. -/
theorem pending_markWritten (s : State) : s.markWritten.pending = [] := by
  rcases s with ⟨o, _ | r⟩
  · rcases hr : o.shared.registry with _ | r
    · simp [markWritten, pending, Output.registry, hr, Registry.pending]
    · simpa [markWritten, pending, Output.registry, hr] using r.pending_markWritten
  · exact r.pending_markWritten

/-- Marking the widgets as written writes no text. -/
theorem text_markWritten (s : State) : s.markWritten.output.text = s.output.text := by
  rcases s with ⟨o, _ | r⟩ <;> rfl

end State

/-- Without widgets there is nothing to bring to life. -/
theorem isEmpty_collect_nil : (collect []).isEmpty = true := by decide +kernel

/-! ## Failing -/

variable {codec : Codec} {options : BootstrapOptions} {s s' : State} {e : Failure}

/-- A write fails exactly if it collects some ids and the codec fails on one of their stores. The widgets are then
counted as written, and nothing else happens. -/
theorem writeBootstrap_eq_error_iff :
    writeBootstrap codec options s = (.error e, s') ↔
      options.scanPage = false ∧ (collect s.pending).isEmpty = false ∧
        assignments codec (collect s.pending) = .error e ∧ s' = s.markWritten := by
  rw [writeBootstrap]
  cases hscan : options.scanPage with
  | true => simp
  | false =>
    cases hempty : (collect s.pending).isEmpty with
    | true => simp [State.take, hempty]
    | false =>
      cases hcode : assignments codec (collect s.pending) with
      | ok code => simp [State.take, hempty, hcode]
      | error e' => simp [State.take, hempty, hcode, eq_comm]

/-- A write with nothing pending leaves the text of the page alone. -/
theorem writeBootstrap_of_pending_nil (hscan : options.scanPage = false) (none : s.pending = []) :
    writeBootstrap codec options s = (.ok (), s.markWritten) := by
  rw [writeBootstrap, State.take, none]
  simp [hscan, isEmpty_collect_nil]

/-- **A failed write drops the widgets that were pending.** Whatever the codec, the options and the source of the
widgets: when a write fails, the text of the page is what it was. But there were widgets pending, none are any more,
and a later write, with whatever codec, adds nothing to the page. -/
theorem failed_write_drops_pending (failed : writeBootstrap codec options s = (.error e, s')) :
    s'.output.text = s.output.text ∧ s.pending ≠ [] ∧ s'.pending = [] ∧
      ∀ (codec' : Codec) (options' : BootstrapOptions), options'.scanPage = false →
        (writeBootstrap codec' options' s').2.output.text = s'.output.text := by
  obtain ⟨-, hids, -, rfl⟩ := writeBootstrap_eq_error_iff.mp failed
  have hdropped : s.markWritten.pending = [] := s.pending_markWritten
  refine ⟨s.text_markWritten, ?_, hdropped, ?_⟩
  · intro hnone
    rw [hnone, isEmpty_collect_nil] at hids
    exact absurd hids nofun
  · intro codec' options' hscan
    rw [writeBootstrap_of_pending_nil hscan hdropped]
    exact s.markWritten.text_markWritten

/-- Plain JSON, but for a target on which it fails. -/
def Codec.failingOn (target : Target) : Codec where
  serialize t members := if t = target then .error (.serialize "refused") else Codec.json.serialize t members
  prepare := Codec.json.prepare
  finalize := Codec.json.finalize

/-- A page on which a widget with a state is pending. -/
def pageWithState : State :=
  ⟨{ shared := { registry := some { roots := [.node { id := "w0", state := some [] } []] } } }, .shared⟩

/-- A codec that fails on states drops the widget, which plain JSON would have written. -/
theorem failed_write_drops_widget :
    writeBootstrap (Codec.failingOn .state) {} pageWithState =
        (.error (.serialize "refused"), pageWithState.markWritten) ∧
      pageWithState.pending ≠ [] ∧ pageWithState.markWritten.pending = [] ∧
      (writeBootstrap Codec.json {} pageWithState.markWritten).2.output.text = "" := by
  have hfailed : writeBootstrap (Codec.failingOn .state) {} pageWithState =
      (.error (.serialize "refused"), pageWithState.markWritten) := rfl
  obtain ⟨-, hpending, hdropped, hlater⟩ := failed_write_drops_pending hfailed
  exact ⟨hfailed, hpending, hdropped, hlater Codec.json {} rfl⟩

/-- Not every failed write keeps what is pending. -/
theorem failed_write_keeps_pending_false :
    ¬ ∀ (codec : Codec) (options : BootstrapOptions) (s s' : State) (e : Failure),
      writeBootstrap codec options s = (.error e, s') →
        s'.output.text = s.output.text ∧ s'.pending = s.pending := by
  intro h
  have hkept := (h (Codec.failingOn .state) {} pageWithState pageWithState.markWritten (.serialize "refused") rfl).2
  exact absurd hkept nofun

end WidgetTemplates.Page
