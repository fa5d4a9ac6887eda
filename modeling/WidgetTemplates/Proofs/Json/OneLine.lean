import WidgetTemplates.Proofs.Json.ReadBack

/-!
# JSON text stands on one line

Compact JSON has no blanks outside strings, and inside strings a line break is escaped. So the text of a value has no
line break (`newline_notMem_print`), and where such texts are written on lines of their own, the lines can be told
apart.
-/

namespace WidgetTemplates.Json

/-! ## Strings and numbers -/

/-- A line break is escaped, and no escape has one. -/
theorem newline_notMem_escapeChar (c : Char) : '\n' ∉ escapeChar c := by
  by_cases hmark : c ∈ escapedMarks
  · have hall : (escapedMarks.all fun c => !(escapeChar c).contains '\n') = true := by decide
    simpa using List.all_eq_true.mp hall c hmark
  rw [escapeChar_of_notMem hmark]
  split
  · have hdigit : ∀ d < 16, Nat.digitChar d ≠ '\n' := by decide
    simp only [hex4, List.map_cons, List.map_nil, List.mem_cons, List.not_mem_nil, or_false, not_or]
    exact ⟨by decide, by decide, (hdigit _ (Nat.mod_lt _ (by omega))).symm, (hdigit _ (Nat.mod_lt _ (by omega))).symm,
      (hdigit _ (Nat.mod_lt _ (by omega))).symm, (hdigit _ (Nat.mod_lt _ (by omega))).symm⟩
  · rw [List.mem_singleton]
    rintro rfl
    exact hmark (by decide)

/-- A printed string has no line feed. -/
theorem newline_notMem_quote (s : String) : '\n' ∉ (quote s).toList := by
  simp only [quote, Text.expand, String.toList_append, String.toList_ofList, List.mem_append, List.mem_flatMap, not_or,
    not_exists, not_and]
  exact ⟨⟨by decide, fun c _ => newline_notMem_escapeChar c⟩, by decide⟩

/-- The text of an integer has no line break. -/
theorem newline_notMem_toString (n : Int) : '\n' ∉ (toString n).toList := fun h => by
  rcases isDigit_or_sign h with hdigit | hsign
  · exact absurd hdigit (by decide)
  · exact absurd hsign (by decide)

/-- The layout of a number adds zeros, a point and an exponent to its digits. -/
theorem newline_notMem_layout {digits : List Char} (h : '\n' ∉ digits) (e : Int) : '\n' ∉ layout digits e := by
  rw [layout.eq_def]
  dsimp only
  split
  · simp [h]
  split
  · have htake : '\n' ∉ digits.take (digits.length + e).toNat := fun hin => h (List.mem_of_mem_take hin)
    have hdrop : '\n' ∉ digits.drop (digits.length + e).toNat := fun hin => h (List.mem_of_mem_drop hin)
    simp [htake, hdrop]
  split
  · simp [h]
  · have hexponent := newline_notMem_toString (digits.length + e - 1)
    rw [List.mem_append, not_or]
    refine ⟨?_, by simpa using hexponent⟩
    split
    · exact h
    · simpa using h
    · exact List.not_mem_nil

/-- A printed number has no line feed. -/
theorem newline_notMem_floatText (x : Binary64) : '\n' ∉ (floatText x).toList := by
  have hdigits : ∀ d : Nat, '\n' ∉ Nat.toDigits 10 d := fun d hin => by
    rw [← Nat.toList_repr, ← Nat.toString_eq_repr] at hin
    exact absurd (Text.isDigit_of_mem_toString hin) (by decide)
  rw [floatText]
  dsimp only
  rw [String.toList_ofList]
  split <;> split <;> simp [newline_notMem_layout (hdigits _)]

/-! ## Values -/

mutual

/-- **The text of a value has no line break.** -/
theorem newline_notMem_print : (value : Json) → '\n' ∉ (print value).toList
  | .null => by decide
  | .bool false => by decide
  | .bool true => by decide
  | .int n => newline_notMem_toString n
  | .float x => newline_notMem_floatText x
  | .string s => newline_notMem_quote s
  | .array items => by simp [print, newline_notMem_printItems items]
  | .object members => by simp [print, newline_notMem_printMembers members]

/-- Nor have the items of an array. -/
theorem newline_notMem_printItems : (items : List Json) → '\n' ∉ (printItems items).toList
  | [] => by decide
  | [item] => newline_notMem_print item
  | item :: next :: rest => by
    simp [printItems, newline_notMem_print item, newline_notMem_printItems (next :: rest)]

/-- Nor have the members of an object. -/
theorem newline_notMem_printMembers : (members : Members) → '\n' ∉ (printMembers members).toList
  | [] => by decide
  | [(key, value)] => by simp [printMembers, newline_notMem_quote key, newline_notMem_print value]
  | (key, value) :: next :: rest => by
    simp [printMembers, newline_notMem_quote key, newline_notMem_print value,
      newline_notMem_printMembers (next :: rest)]

end

end WidgetTemplates.Json
