import WidgetTemplates.Page.Codec
import WidgetTemplates.Proofs.Json.ReadBack

/-!
# States in a script element

`Codec.json` escapes three characters of the JSON text of a mapping without a look at where they stand. This is sound:
the printer writes them only inside strings, and there each is a piece of its own, however many backslashes stand
before it. So an escape in their place stands for the same character (`respelling_scriptChar`). The text then holds
none of them (`scriptSafe_scriptJson`) and denotes the mapping still (`serialize_survives_script`).
-/

namespace WidgetTemplates.Page

open Json (Exact nesting readWithin?)

/-- A text without the character that opens tags and without the line ends that are none in JSON. -/
def ScriptSafe (s : String) : Prop := ∀ c ∈ s.toList, c ≠ '<' ∧ c ≠ '\u2028' ∧ c ≠ '\u2029'

instance (s : String) : Decidable (ScriptSafe s) := List.decidableBAll _ s.toList

/-- Two texts in a row are safe in a script exactly if both are. -/
theorem scriptSafe_append {s t : String} : ScriptSafe (s ++ t) ↔ ScriptSafe s ∧ ScriptSafe t := by
  simp only [ScriptSafe, String.toList_append, List.forall_mem_append]

/-- The script around a safe value is safe if the name of the global is. -/
theorem ScriptSafe.assign {target : Target} {value : String} (hname : ScriptSafe target.name)
    (hvalue : ScriptSafe value) : ScriptSafe (target.assign value) := by
  rw [Target.assign]
  split
  · simp only [scriptSafe_append, hname, hvalue, and_true]
    decide
  · simp only [scriptSafe_append, hname, hvalue, and_true]
    decide

/-- A character is one of the three, or it is left alone. -/
theorem scriptChar_cases (c : Char) :
    (c = '<' ∨ c = '\u2028' ∨ c = '\u2029') ∨
      scriptChar c = [c] ∧ c ≠ '<' ∧ c ≠ '\u2028' ∧ c ≠ '\u2029' := by
  by_cases h : c = '<' ∨ c = '\u2028' ∨ c = '\u2029'
  · exact .inl h
  · rw [not_or, not_or] at h
    exact .inr ⟨by simp [scriptChar, h], h⟩

/-- The spelling of a character in a script has none of the forbidden ones. -/
theorem mem_scriptChar {c d : Char} (h : d ∈ scriptChar c) : d ≠ '<' ∧ d ≠ '\u2028' ∧ d ≠ '\u2029' := by
  rcases scriptChar_cases c with hc | ⟨hsame, hc⟩
  · have hall : ((scriptChar c).all fun d => d ≠ '<' ∧ d ≠ '\u2028' ∧ d ≠ '\u2029') = true := by
      rcases hc with rfl | rfl | rfl <;> decide
    exact of_decide_eq_true (List.all_eq_true.mp hall d h)
  · rw [hsame, List.mem_singleton] at h
    exact h ▸ hc

/-- What a script element holds in the place of a character stands for it inside a JSON string. -/
theorem respelling_scriptChar : Json.Respelling scriptChar where
  frame c hframe := by
    rcases scriptChar_cases c with hc | ⟨hsame, -⟩
    · rcases hc with rfl | rfl | rfl <;> exact absurd hframe (by decide)
    · exact hsame
  standsFor c hother := by
    rcases scriptChar_cases c with hc | ⟨hsame, -⟩
    · rcases hc with rfl | rfl | rfl <;> exact fun _ _ _ => rfl
    · exact absurd hsame hother

/-- Values as they stand in a script are safe there. -/
theorem scriptSafe_scriptJson (members : Json.Members) : ScriptSafe (scriptJson members) := by
  intro c hc
  rw [scriptJson, Text.expand, String.toList_ofList, List.mem_flatMap] at hc
  obtain ⟨d, -, hc⟩ := hc
  exact mem_scriptChar hc

/-- **States and configurations survive the script.** For every mapping whose numbers are integers, the code is the
call that adds the entries of its last argument to the global. It holds no character that could end the element or a
line of the script. The argument is JSON, and every reader that admits its nesting gets the mapping from it, with the
keys in their order. -/
theorem serialize_survives_script {target : Target} (known : target = .state ∨ target = .config)
    {members : Json.Members} (exact : Exact (.object members)) :
    ∃ code json, Codec.json.serialize target members = .ok code ∧ ScriptSafe code ∧
      code = "(function(t,s)\x7bfor(var k in s)t[k]=s[k]\x7d)(window." ++ target.name ++ "||(window." ++ target.name
        ++ "=\x7b\x7d)," ++ json ++ ")" ∧
      ∀ depth, nesting (.object members) < depth → readWithin? depth json = some (.object members) := by
  have hname : ScriptSafe target.name := by rcases known with rfl | rfl <;> decide
  have hadditive : target.additive = true := by rcases known with rfl | rfl <;> rfl
  refine ⟨target.assign (scriptJson members), scriptJson members, rfl, hname.assign (scriptSafe_scriptJson members),
    ?_, ?_⟩
  · rw [Target.assign, if_pos hadditive]
  · intro depth shallow
    exact Json.readWithin?_spelled respelling_scriptChar exact shallow

/-- A mapping with the characters that are escaped, in keys and in values, also behind backslashes. -/
def nestedMembers : Json.Members :=
  [("</script>", .object [("\u2028\\<", .array [.int (-0x8000000000000000), .int Json.Reader.wordMax, .string "\\\\<",
    .array [], .object []]), ("\"\u2029", .null)]), ("<\n", .bool true)]

/-- A mapping with a nested one survives. -/
theorem serialize_survives_script_of_nested :
    ∃ code json, Codec.json.serialize .config nestedMembers = .ok code ∧ ScriptSafe code ∧
      code = "(function(t,s)\x7bfor(var k in s)t[k]=s[k]\x7d)(window.$markoWidgetsConfig||(window.$markoWidgetsConfig"
        ++ "=\x7b\x7d)," ++ json ++ ")" ∧
      Json.read? json = some (.object nestedMembers) := by
  have hinner : Exact (.array [.int (-0x8000000000000000), .int Json.Reader.wordMax, .string "\\\\<", .array [],
      .object []]) := by
    refine .array _ ?_
    simp only [List.forall_mem_cons, List.not_mem_nil, false_imp_iff, implies_true, and_true]
    exact ⟨.int _ (by decide) (by decide), .int _ (by decide) (by decide), .string _, .array _ nofun,
      .object _ (by decide) nofun⟩
  have hexact : Exact (.object nestedMembers) := by
    refine .object _ (by decide) ?_
    simp only [nestedMembers, List.forall_mem_cons, List.not_mem_nil, false_imp_iff, implies_true, and_true]
    refine ⟨.object _ (by decide) ?_, .bool true⟩
    simp only [List.forall_mem_cons, List.not_mem_nil, false_imp_iff, implies_true, and_true]
    exact ⟨hinner, .null⟩
  obtain ⟨code, json, hcode, hsafe, htext, hread⟩ := serialize_survives_script (.inr rfl) hexact
  refine ⟨code, json, hcode, hsafe, htext, ?_⟩
  rw [Json.read?_eq_readWithin?]
  exact hread 128 (by decide)

end WidgetTemplates.Page
