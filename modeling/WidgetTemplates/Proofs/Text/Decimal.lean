import Mathlib.Logic.Function.Basic

/-!
# Numbers as text

Numbers are written in decimal, so different numbers are written differently, and a name with a number behind it is
another name for every number.
-/

namespace WidgetTemplates.Text

/-- Numbers with the same digits are the same. -/
theorem toString_injective {m n : Nat} (h : toString m = toString n) : m = n := by
  have hdigits : Nat.toDigits 10 m = Nat.toDigits 10 n := by
    simpa only [Nat.toString_eq_repr, Nat.toList_repr] using congrArg String.toList h
  rw [← Nat.ofDigitChars_ten_toDigits (n := m), hdigits, Nat.ofDigitChars_ten_toDigits]

/-- A number consists of digits. -/
theorem isDigit_of_mem_toString {c : Char} {n : Nat} (h : c ∈ (toString n).toList) : c.isDigit = true := by
  rw [Nat.toString_eq_repr, Nat.toList_repr] at h
  exact Nat.isDigit_of_mem_toDigits (by omega) (by omega) h

/-- A number does not end in a bracket. -/
theorem getLast?_toString_ne (n : Nat) : (toString n).toList.getLast? ≠ some ']' := by
  intro h
  exact absurd (isDigit_of_mem_toString (List.mem_of_getLast? h)) (by decide)

/-- A number has a digit. -/
theorem toList_toString_ne_nil (n : Nat) : (toString n).toList ≠ [] := by
  rw [Nat.toString_eq_repr, Nat.toList_repr]
  exact Nat.toDigits_ne_nil

/-- Only zero is written with a zero in front. -/
theorem eq_zero_of_head?_toString {n : Nat} (h : (toString n).toList.head? = some '0') : n = 0 := by
  induction n using Nat.strongRecOn with
  | _ n ih =>
    rw [Nat.toString_eq_repr, Nat.toList_repr, Nat.toDigits_eq_if (by omega)] at h
    by_cases hn : n < 10
    · rw [if_pos hn] at h
      have hsmall : ∀ d < 10, Nat.digitChar d = '0' → d = 0 := by decide
      exact hsmall n hn (by simpa using h)
    · -- the digits of the tenth part stand in front, and that is not zero
      rw [if_neg hn, List.head?_append, Option.or_of_isSome (by simp)] at h
      have htenth := ih (n / 10) (by omega) (by rwa [Nat.toString_eq_repr, Nat.toList_repr])
      omega

/-- Different numbers make different names of a stem. -/
theorem append_toString_injective (base : String) : Function.Injective fun n : Nat => base ++ toString n :=
  fun _ _ h => toString_injective ((String.append_right_inj base).mp h)

/-- A stem with a number is not the stem. -/
theorem append_toString_ne (base : String) (n : Nat) : base ++ toString n ≠ base := by
  intro h
  have hlist : base.toList ++ (toString n).toList = base.toList := by rw [← String.toList_append, h]
  simp at hlist

/-! ## A number in front of a text -/

section Ahead

variable {n : Nat} {rest : List Char} (h : rest.head?.any Char.isDigit = false)
include h

/-- The digits at the front are those of the number. -/
theorem takeWhile_toString_append :
    ((toString n).toList ++ rest).takeWhile Char.isDigit = (toString n).toList := by
  rw [List.takeWhile_append_of_pos fun c hc => isDigit_of_mem_toString hc]
  cases rest with
  | nil => simp
  | cons c rest =>
    have hc : c.isDigit = false := by simpa using h
    rw [List.takeWhile_cons_of_neg (by simp [hc]), List.append_nil]

/-- What follows them is the text. -/
theorem dropWhile_toString_append : ((toString n).toList ++ rest).dropWhile Char.isDigit = rest := by
  rw [List.dropWhile_append_of_pos fun c hc => isDigit_of_mem_toString hc]
  cases rest with
  | nil => rfl
  | cons c rest =>
    have hc : c.isDigit = false := by simpa using h
    exact List.dropWhile_cons_of_neg (by simp [hc])

/-- A number and a text that starts with no digit are told apart. -/
theorem toString_append_inj {m : Nat} {other : List Char} (h' : other.head?.any Char.isDigit = false)
    (heq : (toString n).toList ++ rest = (toString m).toList ++ other) : n = m ∧ rest = other := by
  have hfront := congrArg (List.takeWhile Char.isDigit) heq
  have hback := congrArg (List.dropWhile Char.isDigit) heq
  rw [takeWhile_toString_append h, takeWhile_toString_append h'] at hfront
  rw [dropWhile_toString_append h, dropWhile_toString_append h'] at hback
  exact ⟨toString_injective (String.toList_injective hfront), hback⟩

end Ahead

end WidgetTemplates.Text
