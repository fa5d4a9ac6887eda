import WidgetTemplates.Page.Widget
import WidgetTemplates.Proofs.Text.Decimal

/-!
# Element ids inside a widget

What `Widget.elementId` makes of a nested id. A fixed id is put behind the id of the widget. A repeated one,
which ends in `[]`, is numbered by its base, and only the count of this base goes up. Numbers are written in
decimal, so the numbered ids of one base differ from each other and from all fixed ids.
-/

namespace WidgetTemplates.Page

namespace Widget

/-! ## Repeated ids -/

/-- A repeated id is its base with brackets behind it. -/
theorem repeatedBase?_eq_some {nested base : String} :
    repeatedBase? nested = some base ↔ nested = base ++ "[]" := by
  have hdrop : ∀ s rest : List Char, Text.dropEnd? ['[', ']'] s = some rest ↔ s = rest ++ ['[', ']'] := by
    intro s rest
    rw [Text.dropEnd?, Option.map_eq_some_iff]
    constructor
    · rintro ⟨front, hfront, rfl⟩
      obtain ⟨hfits, heq⟩ := Option.ite_none_right_eq_some.mp hfront
      obtain ⟨tail, htail⟩ := List.isPrefixOf_iff_prefix.mp hfits
      obtain rfl := Option.some.inj heq
      rw [← List.reverse_reverse s, ← htail]
      simp
    · rintro rfl
      exact ⟨rest.reverse, by simp [Text.dropStart?], by simp⟩
  rw [repeatedBase?, Option.map_eq_some_iff]
  constructor
  · rintro ⟨rest, hrest, rfl⟩
    rw [hdrop] at hrest
    apply String.toList_injective
    simpa using hrest
  · rintro rfl
    exact ⟨base.toList, by rw [hdrop]; simp, String.ofList_toList⟩

/-- The brackets behind a base make a repeated id. -/
@[simp] theorem repeatedBase?_append (base : String) : repeatedBase? (base ++ "[]") = some base :=
  repeatedBase?_eq_some.mpr rfl

/-- A number is a fixed id. -/
theorem repeatedBase?_toString (n : Nat) : repeatedBase? (toString n) = none := by
  rcases h : repeatedBase? (toString n) with _ | base
  · rfl
  · have hlast := congrArg (fun s => s.toList.getLast?) (repeatedBase?_eq_some.mp h)
    refine absurd (hlast.trans ?_) (Text.getLast?_toString_ne n)
    simp

/-! ## Counting uses -/

section Uses

attribute [local simp] countUse uses

/-- A use counts for its id. -/
theorem uses_countUse_self (base : String) (counters : List (String × Nat)) :
    uses base (countUse base counters) = uses base counters + 1 := by
  induction counters with
  | nil => simp
  | cons entry rest ih =>
    by_cases h : entry.1 = base
    · simp [h]
    · simpa [h] using ih

/-- A use counts for no other id. -/
theorem uses_countUse_ne {base other : String} (h : other ≠ base) (counters : List (String × Nat)) :
    uses other (countUse base counters) = uses other counters := by
  induction counters with
  | nil => simp [h.symm]
  | cons entry rest ih =>
    by_cases hb : entry.1 = base
    · simp [hb, h.symm]
    · by_cases ho : entry.1 = other
      · subst ho
        simp [h]
      · simpa [hb, ho] using ih

/-- No count ever goes down. -/
theorem uses_le_countUse (base other : String) (counters : List (String × Nat)) :
    uses other counters ≤ uses other (countUse base counters) := by
  by_cases h : other = base
  · rw [h, uses_countUse_self]
    omega
  · exact Nat.le_of_eq (uses_countUse_ne h counters).symm

end Uses

/-! ## The ids -/

variable (w : Widget)

/-- A fixed id is used as it is, any number of times. -/
theorem elementId_fixed {nested : String} (h : repeatedBase? nested = none) :
    w.elementId (some nested) = (w.id ++ "-" ++ nested, w) := by
  rw [elementId, h]

/-- A repeated id is numbered, and its next use has the next number. -/
theorem elementId_repeated (base : String) :
    w.elementId (some (base ++ "[]")) =
      (w.id ++ "-" ++ base ++ "[" ++ toString (uses base w.counters) ++ "]",
        { w with counters := countUse base w.counters }) := by
  rw [elementId, repeatedBase?_append]

/-- A text behind an id is not that id. -/
theorem behind_ne (id text : String) : id ++ "-" ++ text ≠ id := by
  intro h
  have := congrArg (fun s => s.toList.length) h
  simp at this

/-- The id of the widget stays what it is. -/
theorem elementId_id (nested : Option String) : (w.elementId nested).2.id = w.id := by
  rcases nested with _ | nested
  · rfl
  · rcases h : repeatedBase? nested with _ | base
    · rw [elementId_fixed w h]
    · obtain rfl := repeatedBase?_eq_some.mp h
      rw [elementId_repeated]

/-- No count goes down when an id is made. -/
theorem elementId_counters (nested : Option String) (other : String) :
    uses other w.counters ≤ uses other (w.elementId nested).2.counters := by
  rcases nested with _ | nested
  · exact Nat.le_refl _
  · rcases h : repeatedBase? nested with _ | base
    · exact Nat.le_of_eq (by rw [elementId_fixed w h])
    · obtain rfl := repeatedBase?_eq_some.mp h
      rw [elementId_repeated]
      exact uses_le_countUse base other w.counters

/-- Two uses of a nested id one after the other give the same id exactly if it is a fixed one. -/
theorem elementId_twice (nested : String) :
    (w.elementId (some nested)).1 = ((w.elementId (some nested)).2.elementId (some nested)).1 ↔
      repeatedBase? nested = none := by
  rcases h : repeatedBase? nested with _ | base
  · rw [elementId_fixed w h, elementId_fixed w h]
    simp
  · obtain rfl := repeatedBase?_eq_some.mp h
    rw [elementId_repeated, elementId_repeated]
    simp only [uses_countUse_self, reduceCtorEq, iff_false]
    intro heq
    have := Text.toString_injective ((String.append_right_inj _).mp ((String.append_left_inj "]").mp heq))
    omega

end Widget

end WidgetTemplates.Page
