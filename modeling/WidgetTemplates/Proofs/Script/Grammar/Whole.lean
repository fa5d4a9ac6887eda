import WidgetTemplates.Proofs.Script.Grammar.Statements

/-!
# Texts that are one expression

A text that begins with an expression may go on behind it. `readsWhole` asks for more than `accepts`: in front of a
closing parenthesis the expression has to end right at that parenthesis, so that neither a part of the text nor a
comment stands between. Such a text is balanced, whatever comes before and after it, if its slashes are what the grammar
takes them for (`balancedBy_of_readsWhole`).
-/

namespace WidgetTemplates.Script.Grammar

/-- Whether a text is an expression to its end: in front of a closing parenthesis, reading it ends right there. -/
def readsWhole (s : List Char) : Bool :=
  match (Rules.upTo (enoughDepth s)).expression { awaiting := true } (Cursor.start (s ++ [')'])) with
  | some (_, c) => !c.flawed && c.here == [')']
  | none => false

/-- What the slashes of a text are where it is read as an expression in front of a closing parenthesis. -/
def slashesOf (code : String) : List Slash :=
  match (Rules.upTo (enoughDepth code.toList)).expression { awaiting := true }
    (Cursor.start (code.toList ++ [')'])) with
  | some (_, c) => c.slashes
  | none => []

/-- Before anything is read no bracket is open and no slash has been gone past. -/
theorem at_start (whole : List Char) : At false whole [] (Cursor.start whole) :=
  at_moveTo fun _ _ => ⟨[], rfl, .inl (Passes.nil [])⟩

/-- **The brackets of a text that is one expression are balanced**, its slashes being what the grammar takes them
for. -/
theorem balancedBy_of_readsWhole {code : String} (h : readsWhole code.toList = true) :
    BalancedBy (slashesOf code) code.toList := by
  rw [readsWhole] at h
  rw [slashesOf]
  split at h
  · next c hrun =>
    rw [Bool.and_eq_true, Bool.not_eq_true', beq_iff_eq] at h
    obtain ⟨hflawed, hhere⟩ := h
    have hat := Rules.Keep.expression (Rules.keep_upTo _) [] _ _ _ _ (at_start (code.toList ++ [')'])) hrun
    obtain ⟨-, harrives⟩ := hat hflawed
    obtain ⟨before, hwhole, hpasses | ⟨hloose, -⟩⟩ := harrives (by rw [hhere]; exact List.cons_ne_nil _ _)
    · rw [hhere] at hwhole
      rwa [List.append_cancel_right hwhole]
    · exact nomatch hloose
  · exact nomatch h

example : readsWhole "f([a / 2, /[)]/])".toList = true := by decide +kernel
example : slashesOf "f([a / 2, /[)]/])" = [.divides, .startsRegex] := by decide +kernel
example : readsWhole "a)".toList = false := by decide +kernel
example : readsWhole "a // b".toList = false := by decide +kernel

end WidgetTemplates.Script.Grammar
