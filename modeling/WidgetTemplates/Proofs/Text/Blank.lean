import Mathlib.Data.List.DropRight
import WidgetTemplates.Text.Blank
import WidgetTemplates.Text.Digit

/-!
# Blank texts

Trimming leaves nothing of a text exactly if all its characters are blank, and otherwise what stands between the blanks
at its ends (`trim_eq_iff`). No digit of any script is blank.
-/

namespace WidgetTemplates.Text

/-- Nothing is left after trimming exactly if everything is blank. -/
theorem trim_eq_nil_iff {s : List Char} : trim s = [] ↔ ∀ c ∈ s, isBlank c = true := by
  have hstart : trimStart s = [] ↔ ∀ c ∈ s, isBlank c = true := List.dropWhile_eq_nil_iff
  have hend : trim s = [] ↔ ∀ c ∈ trimStart s, isBlank c = true := List.rdropWhile_eq_nil_iff
  rw [hend, ← hstart, ← List.dropWhile_eq_nil_iff, trimStart, List.dropWhile_idempotent]

/-- The code points of the blank characters. -/
def blankCodes : List Nat :=
  List.range' 9 5 ++ List.range' 0x2000 11 ++
    [0x20, 0x85, 0xA0, 0x1680, 0x2028, 0x2029, 0x202F, 0x205F, 0x3000]

/-- Blanks are the characters of certain codes. -/
theorem toNat_mem_blankCodes {c : Char} (h : isBlank c = true) : c.toNat ∈ blankCodes := by
  simp only [isBlank, Bool.or_eq_true, Bool.and_eq_true, decide_eq_true_eq, beq_iff_eq] at h
  simp only [blankCodes, List.mem_append, List.mem_range'_1, List.mem_cons, List.not_mem_nil]
  omega

/-- What holds of the characters with these code points holds of every blank. -/
theorem of_isBlank {p : Char → Prop} (h : ∀ n ∈ blankCodes, p (Char.ofNat n)) {c : Char}
    (blank : isBlank c = true) : p c := by
  have hc := h c.toNat (toNat_mem_blankCodes blank)
  rwa [Char.ofNat_toNat] at hc

/-- No digit is blank. -/
theorem isBlank_eq_false_of_isDigit {c : Char} (h : isDigit c = true) : isBlank c = false := by
  have hnone : ∀ n ∈ blankCodes, (digitRanges.any fun r => r.1 ≤ n && n ≤ r.2) = false := by decide
  rw [← Bool.not_eq_true]
  intro hblank
  rw [isDigit, inRanges, hnone _ (toNat_mem_blankCodes hblank)] at h
  cases h

/-! ## What trimming leaves -/

/-- A text that neither starts nor ends with a blank. -/
structure Unpadded (s : List Char) : Prop where
  head : ∀ c ∈ s.head?, isBlank c = false
  last : ∀ c ∈ s.getLast?, isBlank c = false

/-- Blanks in front are trimmed away. -/
theorem trimStart_append {front : List Char} (h : ∀ c ∈ front, isBlank c = true) (s : List Char) :
    trimStart (front ++ s) = trimStart s :=
  List.dropWhile_append_of_pos h

/-- A text that starts with no blank is not trimmed in front. -/
theorem trimStart_eq_self {s : List Char} (h : ∀ c ∈ s.head?, isBlank c = false) : trimStart s = s := by
  rcases s with _ | ⟨c, s⟩
  · rfl
  · exact List.dropWhile_cons_of_neg (by simpa using h)

/-- Blanks at the end are trimmed away. -/
theorem trimEnd_append {back : List Char} (h : ∀ c ∈ back, isBlank c = true) (s : List Char) :
    trimEnd (s ++ back) = trimEnd s := by
  rw [trimEnd, List.reverse_append, List.dropWhile_append_of_pos (by simpa using h)]
  rfl

/-- A text that ends with no blank is not trimmed at the end. -/
theorem trimEnd_eq_self {s : List Char} (h : ∀ c ∈ s.getLast?, isBlank c = false) : trimEnd s = s := by
  have hreverse : trimStart s.reverse = s.reverse := trimStart_eq_self (by rwa [List.head?_reverse])
  rw [trimEnd, ← trimStart, hreverse, List.reverse_reverse]

/-- What is trimmed in front are blanks, and none is left there. -/
theorem exists_trimStart (s : List Char) :
    ∃ front, s = front ++ trimStart s ∧ (∀ c ∈ front, isBlank c = true) ∧
      ∀ c ∈ (trimStart s).head?, isBlank c = false := by
  refine ⟨s.takeWhile isBlank, List.takeWhile_append_dropWhile.symm, List.all_eq_true.mp List.all_takeWhile, ?_⟩
  intro c hc
  have hhead := List.head?_dropWhile_not isBlank s
  rw [← trimStart, Option.mem_def.mp hc] at hhead
  exact hhead

/-- What is trimmed at the end are blanks, and none is left there. -/
theorem exists_trimEnd (s : List Char) :
    ∃ back, s = trimEnd s ++ back ∧ (∀ c ∈ back, isBlank c = true) ∧ ∀ c ∈ (trimEnd s).getLast?, isBlank c = false := by
  obtain ⟨front, heq, hfront, hhead⟩ := exists_trimStart s.reverse
  refine ⟨front.reverse, ?_, by simpa using hfront, ?_⟩
  · rw [trimEnd, ← trimStart, ← List.reverse_append, ← heq, List.reverse_reverse]
  · rw [trimEnd, List.getLast?_reverse]
    exact hhead

/-- Trimming leaves what stands between the blanks at the ends. -/
theorem trim_eq_iff {s t : List Char} :
    trim s = t ↔ Unpadded t ∧
      ∃ front back, s = front ++ t ++ back ∧ (∀ c ∈ front, isBlank c = true) ∧ ∀ c ∈ back, isBlank c = true := by
  constructor
  · rintro rfl
    obtain ⟨front, hs, hfront, hhead⟩ := exists_trimStart s
    obtain ⟨back, hstart, hback, hlast⟩ := exists_trimEnd (trimStart s)
    refine ⟨⟨?_, hlast⟩, front, back, ?_, hfront, hback⟩
    · intro c hc
      refine hhead c ?_
      rw [hstart, List.head?_append, ← trim, Option.mem_def.mp hc]
      rfl
    · rw [List.append_assoc, trim, ← hstart, ← hs]
  · rintro ⟨unpadded, front, back, rfl, hfront, hback⟩
    by_cases hnil : t = []
    · subst hnil
      rw [trim_eq_nil_iff, List.append_nil]
      exact List.forall_mem_append.mpr ⟨hfront, hback⟩
    · have hstart : trimStart (t ++ back) = t ++ back :=
        trimStart_eq_self (by rw [List.head?_append_of_ne_nil _ hnil]; exact unpadded.head)
      rw [trim, List.append_assoc, trimStart_append hfront, hstart, trimEnd_append hback, trimEnd_eq_self unpadded.last]

/-- Around a trimmed text there are no blanks. -/
theorem unpadded_trim (s : List Char) : Unpadded (trim s) := (trim_eq_iff.mp rfl).1

/-- What is trimmed are blanks. -/
theorem exists_trim (s : List Char) :
    ∃ front back, s = front ++ trim s ++ back ∧ (∀ c ∈ front, isBlank c = true) ∧ ∀ c ∈ back, isBlank c = true :=
  (trim_eq_iff.mp rfl).2

/-- A text without blanks around it is not trimmed. -/
theorem Unpadded.trim_eq {s : List Char} (h : Unpadded s) : trim s = s :=
  trim_eq_iff.mpr ⟨h, [], [], by simp, nofun, nofun⟩

end WidgetTemplates.Text
