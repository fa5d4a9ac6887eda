import WidgetTemplates.Text.Search

/-!
# Counting occurrences

How often a piece of text occurs in a text. A character that the piece does not have separates its occurrences
(`occurrences_append_cons`).
-/

namespace WidgetTemplates.Text

/-- How often `part` occurs in the text, where occurrences may overlap. -/
def occurrences (part : List Char) : List Char → Nat
  | [] => if part.isEmpty then 1 else 0
  | c :: rest => (if part.isPrefixOf (c :: rest) then 1 else 0) + occurrences part rest

/-- A piece that occurs in a text is a run of its characters. -/
theorem occurs_iff {part s : List Char} : occurs part s = true ↔ part <:+: s := by
  induction s with
  | nil => rw [occurs, List.isEmpty_iff, List.infix_nil]
  | cons c rest ih => rw [occurs, Bool.or_eq_true, List.isPrefixOf_iff_prefix, ih, List.infix_cons_iff]

/-- A text without the first character of the piece does not have the piece. -/
theorem occurrences_of_head_notMem {c : Char} {part s : List Char} (h : c ∉ s) : occurrences (c :: part) s = 0 := by
  induction s with
  | nil => rfl
  | cons d s ih =>
    rw [List.mem_cons, not_or] at h
    simp [occurrences, ih h.2, h.1]

/-- A piece is cut short by a character that it does not have. -/
theorem isPrefixOf_append_cons {part : List Char} {d : Char} (h : d ∉ part) (front back : List Char) :
    part.isPrefixOf (front ++ d :: back) = part.isPrefixOf front := by
  induction part generalizing front with
  | nil => simp
  | cons c part ih =>
    rw [List.mem_cons, not_or] at h
    rcases front with _ | ⟨f, front⟩
    · simp [List.isPrefixOf, Ne.symm h.1]
    · rw [List.cons_append, List.isPrefixOf_cons_cons, List.isPrefixOf_cons_cons, ih h.2]

/-- The occurrences of a piece on the two sides of a character that it does not have. -/
theorem occurrences_append_cons {part : List Char} {d : Char} (some_part : part ≠ []) (h : d ∉ part)
    (front back : List Char) :
    occurrences part (front ++ d :: back) = occurrences part front + occurrences part back := by
  induction front with
  | nil =>
    have hempty : part.isEmpty = false := by simpa using some_part
    have hstart : part.isPrefixOf (d :: back) = part.isPrefixOf [] := isPrefixOf_append_cons h [] back
    have hnone : part.isPrefixOf [] = false := by
      cases part with
      | nil => exact absurd rfl some_part
      | cons => rfl
    simp [occurrences, hempty, hstart, hnone]
  | cons c front ih =>
    have hstart := isPrefixOf_append_cons h (c :: front) back
    rw [List.cons_append] at hstart ⊢
    rw [occurrences, occurrences, ih, hstart, Nat.add_assoc]

end WidgetTemplates.Text
