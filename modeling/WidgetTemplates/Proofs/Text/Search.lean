import Mathlib.Data.List.Infix
import WidgetTemplates.Text.Search

/-!
# Beginnings and ends of texts

What `dropStart?` and `dropEnd?` find, how far a run of characters goes, and where in two joined texts
something can start.
-/

namespace WidgetTemplates.Text

/-- What is dropped in front is the text that is asked for. -/
theorem dropStart?_eq_some_iff {start s rest : List Char} : dropStart? start s = some rest ↔ s = start ++ rest := by
  rw [dropStart?, Option.ite_none_right_eq_some, List.isPrefixOf_iff_prefix]
  constructor
  · rintro ⟨⟨tail, rfl⟩, hrest⟩
    rw [← Option.some.inj hrest, List.drop_left]
  · rintro rfl
    exact ⟨List.prefix_append _ _, by rw [List.drop_left]⟩

/-- What is dropped at the end is the text that is asked for. -/
theorem dropEnd?_eq_some_iff {stop s front : List Char} : dropEnd? stop s = some front ↔ s = front ++ stop := by
  rw [dropEnd?, Option.map_eq_some_iff]
  constructor
  · rintro ⟨rest, hrest, rfl⟩
    rw [← List.reverse_inj, dropStart?_eq_some_iff.mp hrest]
    simp
  · rintro rfl
    exact ⟨front.reverse, dropStart?_eq_some_iff.mpr (by simp), List.reverse_reverse front⟩

/-- A run of characters ends where one comes that does not belong to it. -/
theorem takeWhile_append_cons {p : Char → Bool} {front : List Char} {d : Char} (h : ∀ c ∈ front, p c = true)
    (stops : p d = false) (rest : List Char) : (front ++ d :: rest).takeWhile p = front := by
  rw [List.takeWhile_append_of_pos h, List.takeWhile_cons_of_neg (by simp [stops]), List.append_nil]

/-- Texts are read from left to right: what holds of a text if it holds of all that is left of it behind some
characters, holds of every text. -/
theorem induction_behind {P : List Char → Prop}
    (step : ∀ s, (∀ front rest, front ≠ [] → s = front ++ rest → P rest) → P s) (s : List Char) : P s := by
  induction hlen : s.length using Nat.strongRecOn generalizing s with
  | ind n ih =>
    refine step s fun front rest ne_nil heq => ih rest.length ?_ rest rfl
    have hfront := List.length_pos_iff.mpr ne_nil
    rw [← hlen, heq, List.length_append]
    omega

/-- What starts with a character that the front of a text does not have is found behind that front. -/
theorem infix_of_infix_append {c : Char} {part front rest : List Char} (h : c ∉ front)
    (hin : c :: part <:+: front ++ rest) : c :: part <:+: rest := by
  induction front with
  | nil => exact hin
  | cons d front ih =>
    rw [List.mem_cons, not_or] at h
    rw [List.cons_append, List.infix_cons_iff] at hin
    rcases hin with hstart | hin
    · exact absurd (List.cons_prefix_cons.mp hstart).1 h.1
    · exact ih h.2 hin

/-- What starts with a character that the front of a text does not have begins behind that front. -/
theorem exists_of_append_eq_append_cons {c : Char} {start value front rest : List Char} (h : c ∉ start)
    (heq : start ++ value = front ++ c :: rest) :
    ∃ between, front = start ++ between ∧ value = between ++ c :: rest := by
  rcases List.append_eq_append_iff.mp heq with ⟨between, hfront, hvalue⟩ | ⟨common, hstart, hcommon⟩
  · exact ⟨between, hfront, hvalue⟩
  · rcases common with _ | ⟨d, common⟩
    · exact ⟨[], by simpa using hstart.symm, hcommon.symm⟩
    · obtain rfl : c = d := (List.cons.inj hcommon).1
      exact absurd (hstart ▸ List.mem_append_right front List.mem_cons_self) h

end WidgetTemplates.Text
