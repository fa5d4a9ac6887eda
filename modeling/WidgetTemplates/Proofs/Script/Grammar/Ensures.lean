import WidgetTemplates.Script.Grammar.Cursor

/-!
# What readers ensure

`Ensures P r Q` says what holds after a reader: whenever `r` succeeds at a cursor with `P`, what it yields and the
cursor after it satisfy `Q`. It says nothing about a reader that fails, since a failure ends a reading or the trial that
it is part of. There is one rule for each way that readers are put together; a loop is covered by an invariant
(`ensures_iterate`). A reader that leaves the cursor where it is (`Stays`) may be left out of account.
-/

namespace WidgetTemplates.Script.Grammar

open Reader

/-- Whenever the reader succeeds at a cursor with `P`, what it yields and the cursor after it satisfy `Q`. -/
def Ensures {α : Type} (P : Cursor → Prop) (r : Reader α) (Q : α → Cursor → Prop) : Prop :=
  ∀ mode c a c', P c → r mode c = some (a, c') → Q a c'

/-- The reader leaves the cursor where it is. -/
def Stays {α : Type} (r : Reader α) : Prop := ∀ mode c a c', r mode c = some (a, c') → c' = c

section Rules

variable {α β : Type} {P P' : Cursor → Prop} {Q Q' : α → Cursor → Prop} {R : β → Cursor → Prop}
  {r : Reader α} {f : α → Reader β}

/-- Two readers in a row run one after the other. -/
theorem bind_apply (r : Reader α) (f : α → Reader β) (mode : Mode) (c : Cursor) :
    (r >>= f) mode c = (r mode c).bind fun p => f p.1 mode p.2 := rfl

namespace Ensures

/-- A reader that does nothing ensures what holds already. -/
theorem pure {a : α} (h : ∀ c, P c → Q a c) : Ensures P (pure a) Q := by
  rintro mode c a' c' hc hrun
  obtain ⟨rfl, rfl⟩ := Prod.mk.inj (Option.some.inj hrun)
  exact h c hc

/-- A reader that fails ensures anything. -/
theorem failure : Ensures P failure Q := by
  rintro mode c a c' - hrun
  exact nomatch hrun

/-- Where the first reader ensures what the second one needs, both ensure what that ensures. -/
theorem bind (first : Ensures P r Q) (next : ∀ a, Ensures (Q a) (f a) R) : Ensures P (r >>= f) R := by
  rintro mode c b c' hc hrun
  rw [bind_apply] at hrun
  obtain ⟨⟨a, t⟩, hfirst, hnext⟩ := Option.bind_eq_some_iff.mp hrun
  exact next a mode t b c' (first mode c a t hc hfirst) hnext

/-- More may be needed, and less ensured. -/
theorem weaken (h : Ensures P r Q) (before : ∀ c, P' c → P c) (after : ∀ a c, Q a c → Q' a c) : Ensures P' r Q' :=
  fun mode c a c' hc hrun => after a c' (h mode c a c' (before c hc) hrun)

/-- More may be needed. -/
theorem of (h : Ensures P r Q) (before : ∀ c, P' c → P c) : Ensures P' r Q := h.weaken before fun _ _ => id

/-- What a reader yields may be dropped. -/
theorem drop (first : Ensures P r fun _ => P') (next : ∀ a, Ensures P' (f a) R) : Ensures P (r >>= f) R :=
  first.bind next

/-- A reader that leaves the cursor where it is may be dropped. -/
theorem stay (stays : Stays r) (next : ∀ a, Ensures P (f a) R) : Ensures P (r >>= f) R := by
  refine bind (Q := fun _ => P) ?_ next
  rintro mode c a c' hc hrun
  rwa [stays mode c a c' hrun]

theorem under (h : Ensures P r Q) (g : Mode → Mode) : Ensures P (under g r) Q :=
  fun mode c a c' hc hrun => h (g mode) c a c' hc hrun

theorem enclosed (h : Ensures P r Q) : Ensures P (enclosed r) Q := h.under _

/-- A fact that is not about the cursor stays. -/
theorem fact {p : Prop} : Ensures (fun _ => p) r fun _ _ => p := fun _ _ _ _ hp _ => hp

/-- After a trial that fails the cursor is where it was. -/
theorem attempt? (h : Ensures P r Q) :
    Ensures P (attempt? r) fun result c => match result with
      | some a => Q a c
      | none => P c := by
  rintro mode c a c' hc hrun
  rw [Reader.attempt?] at hrun
  rcases htrial : r mode c with _ | ⟨b, t⟩
  · rw [htrial] at hrun
    obtain ⟨rfl, rfl⟩ := Prod.mk.inj (Option.some.inj hrun)
    exact hc
  · rw [htrial] at hrun
    obtain ⟨rfl, rfl⟩ := Prod.mk.inj (Option.some.inj hrun)
    exact h mode c b t hc htrial

/-- The next token is known once it has been looked at. -/
theorem peek {f : Token → Reader β} (next : ∀ t, Ensures (fun c => P c ∧ c.token = t) (f t) R) :
    Ensures P (peek >>= f) R := by
  rintro mode c b c' hc hrun
  exact next c.token mode c b c' ⟨hc, rfl⟩ hrun

/-- The cursor is known once it has been asked for. -/
theorem get {f : Cursor → Reader β} (next : ∀ c, P c → Ensures (· = c) (f c) R) : Ensures P (get >>= f) R := by
  rintro mode c b c' hc hrun
  exact next c hc mode c b c' rfl hrun

/-- Changing the cursor ensures what holds of the changed one. -/
theorem modify {P' : Cursor → Prop} {f : Cursor → Cursor} (h : ∀ c, P c → P' (f c)) :
    Ensures P (modify f : Reader PUnit) fun _ => P' := by
  rintro mode c a c' hc hrun
  obtain ⟨-, rfl⟩ := Prod.mk.inj (Option.some.inj hrun)
  exact h c hc

/-- Setting the cursor ensures what holds of the new one. -/
theorem set {P' : Cursor → Prop} {t : Cursor} (h : ∀ c, P c → P' t) :
    Ensures P (set t : Reader PUnit) fun _ => P' := by
  rintro mode c a c' hc hrun
  obtain ⟨-, rfl⟩ := Prod.mk.inj (Option.some.inj hrun)
  exact h c hc

/-- A step that keeps an invariant as long as it yields something is repeated until the result is right. -/
theorem iterate {I J : α → Cursor → Prop} {step : α → Reader (Option α)}
    (h : ∀ a, Ensures (I a) (step a) fun result c => match result with
      | some b => I b c
      | none => J a c) (a : α) : Ensures (I a) (iterate step a) J := by
  have hgo : ∀ n a, Ensures (I a) (Reader.iterate.go step n a) J := by
    intro n
    induction n with
    | zero => exact fun _ => failure
    | succ n ih =>
      intro a
      refine (h a).bind fun result => ?_
      rcases result with _ | b
      · exact pure fun _ hJ => hJ
      · exact ih b
  rintro mode c b c' hc hrun
  exact hgo _ a mode c b c' hc hrun

/-- What every step keeps is kept. -/
theorem iterate_keeps {step : α → Reader (Option α)} (h : ∀ a, Ensures P (step a) fun _ => P) (a : α) :
    Ensures P (Reader.iterate step a) fun _ => P := by
  refine iterate (I := fun _ => P) (J := fun _ => P) (fun a => (h a).weaken (fun _ => id) ?_) a
  rintro (_ | b) c hc <;> exact hc

end Ensures

/-! ## Readers that stay -/

namespace Stays

theorem pure (a : α) : Stays (pure a : Reader α) := by
  rintro mode c a' c' hrun
  exact (Prod.mk.inj (Option.some.inj hrun)).2.symm

/-- Two readers that stay in place stay together. -/
theorem bind (first : Stays r) (next : ∀ a, Stays (f a)) : Stays (r >>= f) := by
  rintro mode c b c' hrun
  rw [bind_apply] at hrun
  obtain ⟨⟨a, t⟩, hfirst, hnext⟩ := Option.bind_eq_some_iff.mp hrun
  rw [next a mode t b c' hnext, first mode c a t hfirst]

theorem peek : Stays peek := by
  rintro mode c a c' hrun
  exact (Prod.mk.inj (Option.some.inj hrun)).2.symm

theorem newLine : Stays newLine := by
  rintro mode c a c' hrun
  exact (Prod.mk.inj (Option.some.inj hrun)).2.symm

theorem mode : Stays mode := by
  rintro mode c a c' hrun
  exact (Prod.mk.inj (Option.some.inj hrun)).2.symm

theorem isMark (m : String) : Stays (isMark m) := peek.bind fun _ => pure _

theorem isWord (w : String) : Stays (isWord w) := peek.bind fun _ => pure _

/-- Looking ahead goes nowhere. -/
theorem ahead (r : Reader Bool) : Stays (ahead r) := by
  rintro mode c a c' hrun
  rw [Reader.ahead] at hrun
  split at hrun
  · exact (Prod.mk.inj (Option.some.inj hrun)).2.symm
  · exact (Prod.mk.inj (Option.some.inj hrun)).2.symm

theorem canEnd : Stays canEnd := by
  refine peek.bind fun t => ?_
  split
  · exact newLine.bind fun _ => pure _
  · exact pure _
  · exact newLine

end Stays

/-- A reader that stays keeps what is known of the cursor. -/
theorem Stays.keeps (stays : Stays r) : Ensures P r fun _ => P := by
  rintro mode c a c' hc hrun
  rwa [stays mode c a c' hrun]

end Rules

end WidgetTemplates.Script.Grammar
