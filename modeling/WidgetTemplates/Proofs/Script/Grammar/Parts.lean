import WidgetTemplates.Proofs.Script.Grammar.Keeps

/-!
# Brackets of patterns, functions and classes

Patterns, functions, classes and the literals of objects and arrays keep the open brackets: what is opened in them is
closed in them.
-/

namespace WidgetTemplates.Script.Grammar

open Reader

namespace Rules

variable {whole : List Char} {k : List Bracket} {loose : Bool} {r : Rules} (h : r.Keep whole)

include h

/-! ## Patterns and parameters -/

theorem keeps_condition : Keeps loose whole r.condition := fun k =>
  .drop (at_expect (.opening rfl k)) fun _ => .drop (h.expression _) fun _ => at_expect (.closing rfl k)

/-- The name of a property keeps the brackets, also a computed one. -/
theorem keeps_propertyName : Keeps loose whole r.propertyName := by
  refine fun k => .peek fun t => ?_
  split
  · exact KeepsInert.before (.skip fun _ => .pure _) .word k
  · exact KeepsInert.before (.skip fun _ => .pure _) .string k
  · exact KeepsInert.before (.skip fun _ => .pure _) .number k
  · exact .drop (at_skipMark (.opening rfl k)) fun _ => .drop (h.assignment.enclosed _) fun _ =>
      .drop (at_expect (.closing rfl k)) fun _ => .pure fun _ => id
  · exact .failure

theorem keeps_optionalDefault : Keeps false whole r.optionalDefault :=
  .tries (tries_eat (by decide)) (.bind h.assignment.enclosed fun _ => .pure _) (.pure _)

theorem keeps_bindingItem : Keeps loose whole r.bindingItem := .bind h.pattern fun _ => keeps_optionalDefault h

theorem keeps_bindingRest (onlyName : Bool) : Keeps loose whole (r.bindingRest onlyName) :=
  .bind (keeps_expect (by decide)) fun _ => .bind h.pattern fun _ => .flawIf _ fun _ => .stay (.isMark _) fun _ =>
    .flawIf _ fun _ => keeps_optionalDefault h

theorem keeps_arrayPatternItem : Keeps false whole r.arrayPatternItem := by
  refine .stay (.isMark _) fun b => ?_
  split
  · exact .pure _
  · refine .stay (.isMark _) fun b => ?_
    split
    · exact .bind (keeps_bindingRest h false) fun _ => .pure _
    · exact .bind (keeps_bindingItem h) fun _ => .pure _

theorem keeps_objectPatternMember : Keeps loose whole r.objectPatternMember := by
  refine .stay (.isMark _) fun b => ?_
  split
  · exact .bind (keeps_bindingRest h true) fun _ => .pure _
  · refine .stay .mode fun m => .stay .peek fun first => .bind (keeps_propertyName h) fun _ => ?_
    refine .stay (.isMark _) fun b => ?_
    split
    · exact .flawIf _ fun _ => .flawIf _ fun _ => .bind (keeps_optionalDefault h) fun _ => .pure _
    · exact .bind (keeps_expect (by decide)) fun _ => .bind (keeps_bindingItem h) fun _ => .pure _

/-- A pattern keeps the brackets. -/
theorem keeps_patternRule : Keeps loose whole r.patternRule := by
  refine fun k => .bind (at_eat (.opening rfl k)) fun b => ?_
  cases b with
  | true =>
    exact .drop (((keeps_items (keeps_arrayPatternItem h) _).enclosed) _) fun _ =>
      .drop (at_flawIf _) fun _ => .drop (at_expect (.closing rfl k)) fun _ => .pure fun _ => id
  | false =>
    refine .bind (at_eat (.opening rfl k)) fun b => ?_
    cases b with
    | true =>
      exact .drop (((keeps_items (keeps_objectPatternMember h) _).enclosed) _) fun _ =>
        .drop (at_flawIf _) fun _ => .drop (at_expect (.closing rfl k)) fun _ => .pure fun _ => id
    | false => exact .drop at_name fun _ => .pure fun _ => id

/-- Where there are no decorators a slash may come before. -/
theorem at_decorators : Ensures (At loose whole k) r.decorators fun _ => At loose whole k := by
  refine .iterate_keeps (fun _ => .bind (at_eat (Token.Inert.of_plain (by decide) k)) fun b => ?_) _
  cases b with
  | true => exact .drop ((h.leftHand.under _) k) fun _ => .pure fun _ => At.loosen
  | false => exact .pure fun _ => id

/-- Decorators keep the brackets. -/
theorem keeps_decorators : Keeps false whole r.decorators := fun _ => at_decorators h

theorem keeps_parameter : Keeps false whole r.parameter := by
  refine .bind (keeps_decorators h) fun _ => .stay (.isMark _) fun b => ?_
  split
  · exact .bind (keeps_bindingRest h false) fun _ => .pure _
  · exact .bind (keeps_bindingItem h) fun _ => .pure _

/-- Parameters keep the brackets. -/
theorem keeps_parameters : Keeps loose whole r.parameters := fun k =>
  .drop (at_expect (.opening rfl k)) fun _ => .drop (keeps_items (keeps_parameter h) _ _) fun _ =>
    .drop (at_flawIf _) fun _ => .drop (at_expect (.closing rfl k)) fun _ => .pure fun _ => id

/-! ## Functions -/

theorem keeps_statements : Keeps false whole r.statements := by
  refine .iterate (fun _ k => .peek fun t => ?_) _
  split
  · exact .pure fun _ => And.left
  · exact .pure fun _ => And.left
  · exact (Keeps.bind (h.statement false) fun _ => .pure _).after k

/-- A block keeps the brackets. -/
theorem keeps_block : Keeps loose whole r.block := fun k =>
  .drop (at_expect (.opening rfl k)) fun _ => .drop (keeps_statements h _) fun _ => at_expect (.closing rfl k)

theorem keeps_functionBody : Keeps loose whole r.functionBody := (keeps_block h).under _

theorem keeps_functionRest (isAsync isGenerator : Bool) : Keeps loose whole (r.functionRest isAsync isGenerator) :=
  .under (.bind (keeps_parameters h) fun _ => .bind (keeps_functionBody h) fun _ => .pure _) _

/-- A function keeps the brackets behind its keyword. -/
theorem keeps_function (isAsync isDeclaration : Bool) : KeepsInert loose whole (r.function isAsync isDeclaration) := by
  refine .advance fun _ => .tries (tries_eat (by decide)) ?_ ?_
  all_goals
    refine .stay .peek fun t => ?_
    split
    · split
      · exact .bind keeps_name fun _ => .bind (keeps_functionRest h _ _) fun _ => .pure _
      · exact .bind (keeps_name.under _) fun _ => .bind (keeps_functionRest h _ _) fun _ => .pure _
    · exact .flawIf _ fun _ => .bind (keeps_functionRest h _ _) fun _ => .pure _

/-- The body of an arrow function keeps the brackets, whether it is a block or an expression. -/
theorem keeps_arrowBody (isAsync : Bool) : Keeps loose whole (r.arrowBody isAsync) := by
  refine .under (.stay (.isMark _) fun b => ?_) _
  split
  · exact keeps_functionBody h
  · exact .bind h.assignment fun _ => .pure _

theorem keeps_fromArrow (isAsync : Bool) : Keeps loose whole (r.fromArrow isAsync) :=
  .stay .newLine fun _ => .flawIf _ fun _ => .bind (keeps_expect (by decide)) fun _ => keeps_arrowBody h isAsync

/-- What stands in front of an arrow keeps the brackets. -/
theorem keeps_arrowHead : Keeps loose whole r.arrowHead := by
  refine .tries (tries_eatWord _) ?_ ?_
  all_goals
    refine .bind ((keeps_parameters h).under _) fun _ => .stay (.isMark _) fun b => ?_
    split
    · exact .pure _
    · exact .failure

omit h in
/-- Looking for an arrow reads nothing. -/
theorem stays_arrowOutlook : Stays arrowOutlook := by
  rintro mode c a c' hrun
  rw [arrowOutlook] at hrun
  dsimp only at hrun
  split at hrun
  · exact (Prod.mk.inj (Option.some.inj hrun)).2.symm
  · exact (Prod.mk.inj (Option.some.inj hrun)).2.symm

/-- An arrow function in parentheses is read as a whole or not at all. -/
theorem tries_parenthesizedArrow : Tries whole r.parenthesizedArrow := by
  refine fun loose k => .stay stays_arrowOutlook fun outlook => ?_
  cases outlook with
  | never => exact .pure fun _ => id
  | certain =>
    exact .drop (keeps_arrowHead h k) fun isAsync => .drop (keeps_fromArrow h isAsync k) fun _ => .pure fun _ => id
  | possible =>
    refine .bind (.attempt? (keeps_arrowHead h k)) fun head => ?_
    rcases head with _ | isAsync
    · exact .pure fun _ => id
    · exact .drop (keeps_fromArrow h isAsync k) fun _ => .pure fun _ => id

omit h in
theorem foretells_startsAsyncArrow (r : Rules) : Foretells r.startsAsyncArrow := by
  refine foretells_ahead fun c => .bind (inert_of_eatWord _ c) fun b => ?_
  refine .stay .newLine fun newLine => .stay (.isMark _) fun arrow => ?_
  split
  · exact .pure fun _ _ => nofun
  · next starts =>
    have hstarts : (b = true ∧ newLine = false) ∧ arrow = false := by simpa using starts
    exact Ensures.fact.weaken (fun _ hinert => hinert hstarts.1.1) fun _ _ hinert _ => hinert

/-- An asynchronous arrow function is read as a whole or not at all. -/
theorem tries_asyncArrow : Tries whole r.asyncArrow := by
  refine fun loose k => .bind (foretells_startsAsyncArrow r (At loose whole k)) fun b => ?_
  cases b with
  | true =>
    exact .drop (inert_advance.of fun _ hc => ⟨hc.1, hc.2 rfl⟩) fun _ => .drop (h.binary 0 k) fun _ =>
      .drop (keeps_fromArrow h true k) fun _ => .pure fun _ => id
  | false => exact .pure fun _ => And.left

/-! ## Classes -/

omit h in
/-- A modifier is read if it comes next. -/
theorem tries_modifier (word : String) (sameLine : Bool) : Tries whole (modifier word sameLine) := by
  refine fun loose k => .stay (.ahead _) fun follows => ?_
  split
  · exact tries_eatWord word loose k
  · exact .pure fun _ => id

omit h in
theorem keeps_accessor? : Keeps false whole accessor? :=
  .tries (tries_modifier _ _) (.pure _) (.tries (tries_modifier _ _) (.pure _) (.pure _))

omit h in
theorem keeps_modifiers : Keeps false whole modifiers := by
  refine .tries (tries_modifier _ _) ?_ ?_
  all_goals exact .tries (tries_modifier _ _) (.pure _) (.tries (tries_modifier _ _) (.pure _) (.pure _))

theorem keeps_memberName : Keeps loose whole r.memberName := by
  refine fun k => .peek fun t => ?_
  split
  · exact KeepsInert.before (.skip fun _ => .pure _) .privateWord k
  · exact (keeps_propertyName h).after k

theorem keeps_field : Keeps false whole r.field := by
  refine .tries (tries_eat (by decide)) (.bind (h.assignment.under _) fun _ => keeps_endStatement) keeps_endStatement

theorem keeps_staticBlock : KeepsInert loose whole r.staticBlock := .advance fun _ => (keeps_block h).under _

/-- A member of a class keeps the brackets. -/
theorem keeps_classMember : Keeps false whole r.classMember := by
  refine .bind keeps_modifiers fun m => .bind keeps_accessor? fun accessor => ?_
  refine .tries (tries_eat (by decide)) ?_ ?_
  all_goals
    refine .bind (keeps_memberName h) fun name => .stay (.isMark _) fun b => ?_
    split
    · exact .flawIf _ fun _ => .flawIf _ fun _ => .bind (keeps_functionRest h _ _) fun _ => keeps_flawIf _
    · exact .flawIf _ fun _ => .flawIf _ fun _ => keeps_field h

theorem keeps_classElement : Keeps false whole r.classElement := by
  refine .stay (.isMark _) fun b => .stay .peek fun t => ?_
  split
  · exact .pure _
  · refine .tries (tries_eat (by decide)) (.pure _) (.bind (keeps_decorators h) fun _ => ?_)
    refine .foretold (foretells_ahead fun c => .bind (inert_of_eatWord _ c) fun isStatic => ?_) ?_ ?_
    · refine .stay (.isMark _) fun b => .pure fun _ hinert starts => hinert ?_
      exact (Bool.and_eq_true _ _ ▸ starts : isStatic = true ∧ b = true).1
    · exact .bind (keeps_staticBlock h) fun _ => .pure _
    · exact .bind (keeps_classMember h) fun _ => .pure _

/-- A class keeps the brackets behind its keyword. -/
theorem keeps_classRest (isDeclaration : Bool) : KeepsInert loose whole (r.classRest isDeclaration) := by
  have hbody : Keeps false whole (do
      expect "\x7b"
      iterate (fun _ => r.classElement) ()
      expect "\x7d") := fun k =>
    .drop (at_expect (.opening rfl k)) fun _ => .drop (Keeps.iterate (fun _ => keeps_classElement h) _ _) fun _ =>
      at_expect (.closing rfl k)
  refine .advance fun _ => .stay .peek fun t => ?_
  split
  · exact .bind keeps_name fun _ => .tries (tries_eatWord _) (.bind h.leftHand fun _ => hbody) hbody
  · exact .flawIf _ fun _ => .tries (tries_eatWord _) (.bind h.leftHand fun _ => hbody) hbody

/-! ## Objects and arrays -/

theorem keeps_spread : Keeps loose whole r.spread :=
  .bind (keeps_expect (by decide)) fun _ => .bind h.assignment fun _ => .pure _

theorem keeps_arrayItem : Keeps false whole r.arrayItem := by
  refine .stay (.isMark _) fun b => ?_
  split
  · exact .pure _
  · refine .stay (.isMark _) fun b => ?_
    split
    · exact keeps_spread h
    · exact h.assignment

/-- An array literal keeps the brackets. -/
theorem keeps_arrayLiteral : Keeps loose whole r.arrayLiteral := fun k =>
  .drop (at_expect (.opening rfl k)) fun _ => .drop ((keeps_items (keeps_arrayItem h) _).enclosed _) fun _ =>
    .drop (at_expect (.closing rfl k)) fun _ => .pure fun _ => id

theorem keeps_shorthandDefault : Keeps false whole r.shorthandDefault :=
  .tries (tries_eat (by decide))
    (.bind h.assignment.enclosed fun _ => .bind (fun _ => at_recount fun c => c.unsettled + 1) fun _ => .pure _)
    (.pure _)

/-- A method of an object keeps the brackets. -/
theorem keeps_objectMethod (isAsync isGenerator : Bool) (accessor : Option Accessor) :
    Keeps loose whole (r.objectMethod isAsync isGenerator accessor) :=
  .bind (keeps_functionRest h _ _) fun _ => .flawIf _ fun _ => .pure _

theorem keeps_objectMember : Keeps false whole r.objectMember := by
  refine .stay (.isMark _) fun b => ?_
  split
  · exact keeps_spread h
  · refine .tries (tries_modifier _ _) ?_ ?_
    all_goals
      refine .bind keeps_accessor? fun accessor => .tries (tries_eat (by decide)) ?_ ?_
      all_goals
        refine .stay .peek fun first => .stay .mode fun m => .bind (keeps_propertyName h) fun _ => ?_
        refine .stay (.isMark _) fun isMethod => ?_
        split
        · exact keeps_objectMethod h _ _ _
        · refine .flawIf _ fun _ => .stay (.isMark _) fun b => ?_
          split
          · exact keeps_shorthandDefault h
          · exact .bind (keeps_expect (by decide)) fun _ => h.assignment

/-- An object literal keeps the brackets. -/
theorem keeps_objectLiteral : Keeps loose whole r.objectLiteral := fun k =>
  .drop (at_expect (.opening rfl k)) fun _ => .drop ((keeps_items (keeps_objectMember h) _).enclosed _) fun _ =>
    .drop (at_expect (.closing rfl k)) fun _ => .pure fun _ => id

end Rules

end WidgetTemplates.Script.Grammar
