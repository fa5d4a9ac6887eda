import WidgetTemplates.Proofs.Script.Grammar.Parts

/-!
# Brackets of operands and expressions

Operands, with their members and calls, and operators keep the open brackets. A slash between two operands divides,
which the first character of the right one confirms.
-/

namespace WidgetTemplates.Script.Grammar

open Reader

namespace Rules

variable {whole : List Char} {k : List Bracket} {loose : Bool} {r : Rules} (h : r.Keep whole)

include h

/-! ## Templates -/

/-- Between the chunks of a template stand its substitutions. -/
theorem atChunk_template (tagged : Bool) :
    Ensures (AtChunk whole k) (r.template tagged) fun _ => At false whole k := by
  refine .bind (atChunk_templateChunk tagged) fun continues => ?_
  refine .drop (.iterate (I := fun continues => At false whole ((if continues then [.substitution] else []) ++ k))
    (J := fun _ => At false whole k) (fun continues => ?_) continues) fun _ => .pure fun _ => id
  cases continues with
  | true =>
    exact .drop (h.expression.enclosed _) fun _ => .drop atChunk_resumeTemplate fun _ =>
      .bind (atChunk_templateChunk tagged) fun _ => .pure fun _ => id
  | false => exact .pure fun _ => id

/-- A template keeps the brackets: each substitution that a chunk opens is closed before the next chunk. -/
theorem keeps_template (tagged : Bool) : Keeps loose whole (r.template tagged) := fun _ =>
  (atChunk_template h tagged).of fun _ => At.atChunk

omit h in
theorem stays_isTemplate : Stays isTemplate := by
  refine .bind .peek fun t => ?_
  split
  · exact .pure _
  · exact .pure _

/-! ## Members and calls -/

theorem keeps_argument : Keeps false whole r.argument := by
  refine .stay (.isMark _) fun b => ?_
  split
  · exact keeps_spread h
  · exact h.assignment

/-- Arguments keep the brackets: their parenthesis is closed behind the last one. -/
theorem keeps_arguments : Keeps loose whole r.arguments := fun k =>
  .drop (at_expect (.opening rfl k)) fun _ => .drop ((keeps_items (keeps_argument h) _).under _ _) fun _ =>
    at_expect (.closing rfl k)

omit h in
theorem keeps_pointMember : Keeps loose whole pointMember := by
  refine fun k => .peek fun t => ?_
  split
  · exact KeepsInert.before (fun _ => inert_skip) .privateWord k
  · exact keeps_anyWord.after k

theorem keeps_computedMember : Keeps loose whole r.computedMember := fun k =>
  .drop (at_expect (.opening rfl k)) fun _ => .drop (h.expression.enclosed _) fun _ => at_expect (.closing rfl k)

/-- A member in a chain keeps the brackets, whatever kind it is of. -/
theorem keeps_memberStep (chain : Chain) : Keeps false whole (r.memberStep chain) := by
  refine .tries (tries_eat (by decide)) (.bind keeps_pointMember fun _ => .pure _) ?_
  refine .stay (.isMark _) fun b => .stay .mode fun m => ?_
  split
  · exact .bind (keeps_computedMember h) fun _ => .pure _
  · refine .stay stays_isTemplate fun b => ?_
    split
    · exact .flawIf _ fun _ => .bind (keeps_template h true) fun _ => .pure _
    · exact .pure _

theorem keeps_optionalStep : Keeps loose whole r.optionalStep := by
  refine .bind (keeps_expect (by decide)) fun _ => .stay (.isMark _) fun b => ?_
  split
  · exact .bind (keeps_arguments h) fun _ => .pure _
  · refine .stay (.isMark _) fun b => ?_
    split
    · exact .bind (keeps_computedMember h) fun _ => .pure _
    · exact .bind keeps_pointMember fun _ => .pure _

/-- A call in a chain keeps the brackets. -/
theorem keeps_callStep (chain : Chain) : Keeps false whole (r.callStep chain) := by
  refine .bind (keeps_memberStep h chain) fun result => ?_
  split
  · exact .pure _
  · refine .stay (.isMark _) fun b => ?_
    split
    · exact .bind (keeps_optionalStep h) fun _ => .pure _
    · refine .stay (.isMark _) fun b => ?_
      split
      · exact .bind (keeps_arguments h) fun _ => .pure _
      · exact .pure _

/-- An operand with its members keeps the brackets. -/
theorem keeps_leftHandRule : Keeps loose whole r.leftHandRule :=
  .bind h.primary fun _ => .bind (.iterate (keeps_callStep h) _) fun _ => .pure _

/-- What begins with `import` keeps the brackets. -/
theorem keeps_importOperand : KeepsInert loose whole r.importOperand := by
  have hclose : ∀ k, Ensures (At false whole (.round :: k)) (do expect ")"; return Shape.importCall)
      fun _ => At false whole k := fun k => .drop (at_expect (.closing rfl k)) fun _ => .pure fun _ => id
  have hcall : Keeps false whole (do
      expect "("
      let _ ← enclosed r.assignment
      if (← eat ",") && !(← isMark ")") then
        let _ ← enclosed r.assignment
        let _ ← eat ","
      expect ")"
      return Shape.importCall) := by
    refine fun k => .drop (at_expect (.opening rfl k)) fun _ => .drop (h.assignment.enclosed _) fun _ => ?_
    refine .drop ((tries_eat (by decide)).keeps _) fun b => .stay (.isMark _) fun b => ?_
    split
    · exact .drop (h.assignment.enclosed _) fun _ => .drop ((tries_eat (by decide)).keeps _) fun _ => hclose k
    · exact hclose k
  refine .advance fun _ => .tries (tries_eat (by decide)) ?_ hcall
  refine .tries (tries_eatWord _) (.pure _) ?_
  refine .bind (tries_eatWord _).keeps fun b => .bind (tries_eatWord _).keeps fun b => ?_
  split
  · exact .failure
  · exact hcall

/-- What begins with `new` keeps the brackets. -/
theorem keeps_newOperand : KeepsInert loose whole r.newOperand := by
  refine .advance fun _ => .tries (tries_eat (by decide)) (.tries (tries_eatWord _) (.pure _) .failure) ?_
  have hend : Keeps false whole (do
      if ← isMark "(" then r.arguments
      return Shape.other) := by
    refine .stay (.isMark _) fun b => ?_
    split
    · exact .bind (keeps_arguments h) fun _ => .pure _
    · exact .pure _
  refine .bind h.primary fun _ => .bind (.iterate (keeps_memberStep h) _) fun made => .stay (.isMark _) fun b => ?_
  dsimp only
  split
  · exact .failure
  · split
    · exact .bind (keeps_flawIf true) fun _ => hend
    · exact hend

/-- An expression in parentheses keeps the brackets. -/
theorem keeps_parenthesized : Keeps loose whole r.parenthesized := by
  refine fun k => .drop (at_expect (.opening rfl k)) fun _ => ?_
  refine .drop ((keeps_items h.assignment _).under _ _) fun items => ?_
  dsimp only
  split
  · exact .failure
  · refine .drop (at_expect (.closing rfl k)) fun _ => ?_
    split
    · exact .failure
    · exact .pure fun _ => id
    · exact .pure fun _ => id

omit h in
theorem keeps_superOperand : KeepsInert loose whole superOperand :=
  .advance fun _ => .stay (.isMark _) fun _ => .stay (.isMark _) fun _ => .stay (.isMark _) fun _ =>
    .flawIf _ fun _ => .pure _

/-- An operand that begins with a word keeps the brackets, the word being inert. -/
theorem keeps_wordOperand (text : String) : KeepsInert loose whole (r.wordOperand text) := by
  refine fun k => .bind (ensures_aheadWords "async" "function") fun b => ?_
  split
  · next starts =>
    exact .drop (inert_advanceInert.of fun _ hc => ⟨hc.1, (hc.2 starts).2⟩) fun _ =>
      .drop (keeps_function h true false k) fun _ => .pure fun _ => id
  · refine .of ?_ fun _ => And.left
    split
    · exact (KeepsInert.bind (keeps_function h false false) fun _ => .pure _) k
    · exact (KeepsInert.bind (keeps_classRest h false) fun _ => .pure _) k
    · exact keeps_newOperand h k
    · exact keeps_importOperand h k
    · exact keeps_superOperand k
    · exact (KeepsInert.advance fun _ => .pure _) k
    · exact (KeepsInert.advance fun _ => .pure _) k
    · exact (KeepsInert.advance fun _ => .pure _) k
    · exact (KeepsInert.advance fun _ => .pure _) k
    · exact (Keeps.bind keeps_name fun _ => .pure _).inert k

/-- An operand keeps the brackets. A slash in front of it is the start of a regular expression. -/
theorem keeps_primaryRule : Keeps loose whole r.primaryRule := by
  refine fun k => .peek fun t => ?_
  split
  · exact (keeps_wordOperand h _).before .word k
  · exact KeepsInert.before (.skip fun _ => .pure _) .number k
  · exact KeepsInert.before (.skip fun _ => .pure _) .string k
  · exact (Keeps.bind (keeps_template h false) fun _ => .pure _).after k
  · exact (keeps_parenthesized h).after k
  · exact (keeps_arrayLiteral h).after k
  · exact (keeps_objectLiteral h).after k
  · exact .drop (at_regex rfl) fun _ => .pure fun _ => id
  · exact .drop (at_regex rfl) fun _ => .pure fun _ => id
  · refine .drop ((at_decorators h).of fun _ => And.left) fun _ => .bind (foretells_isWord _ _) fun b => ?_
    cases b with
    | true =>
      exact .drop ((keeps_classRest h false k).of fun _ hc => ⟨hc.1, hc.2 rfl⟩) fun _ => .pure fun _ => id
    | false => exact .failure
  · exact .failure

/-! ## Unary operators -/

omit h in
/-- Where `await` is an operator a word comes next. -/
theorem foretells_startsAwait : Foretells startsAwait := by
  refine foretells_word "await" (.bind .mode fun m => ?_)
  split
  · exact .pure _
  · exact .ahead _

theorem keeps_update : Keeps loose whole r.update := by
  refine fun k => ensures_either (foretells_isMark (by decide)) (foretells_isMark (by decide)) ?_ ?_
  · refine .drop inert_advance fun _ => .drop (h.unary k) fun operand => ?_
    split
    · exact .pure fun _ => id
    · exact .failure
  · refine .drop (h.leftHand k) fun operand => ?_
    refine .bind (foretells_isMark (by decide) _) fun plus => .bind (foretells_isMark (by decide) _) fun minus => ?_
    refine .stay .newLine fun newLine => ?_
    split
    · next changes =>
      split
      · exact .failure
      · refine .drop (inert_advance.of fun _ hc => ⟨hc.1.1, ?_⟩) fun _ => .pure fun _ => id
        exact ((Bool.or_eq_true _ _).mp ((Bool.and_eq_true _ _).mp changes).1).elim hc.1.2 hc.2
    · exact .pure fun _ hc => hc.1.1

omit h in
/-- An operator without brackets is inert. -/
theorem inert_of_operator? {t : Token} {operators : List String} (plain : ∀ m ∈ operators, Plain m.toList)
    (h : t.operator?.any operators.contains = true) : t.Inert := by
  cases t with
  | word text escaped => exact .word
  | mark m => exact .of_plain (plain m (by simpa [Token.operator?] using h))
  | _ => exact nomatch h

/-- A unary operator with its operand keeps the brackets. -/
theorem keeps_unaryRule : Keeps loose whole r.unaryRule := by
  refine fun k => .peek fun t => ?_
  split
  · next operator =>
    exact KeepsInert.before (.advance fun _ => .bind h.unary fun _ => .pure _)
      (inert_of_operator? (by decide) operator) k
  · refine Keeps.after (.foretold foretells_startsAwait ?_ (keeps_update h)) k
    exact .stay .mode fun m => .flawIf _ fun _ => .advance fun _ => .bind (h.unary.under _) fun _ => .pure _

/-! ## Binary operators -/

omit h in
theorem stays_assertsType : Stays assertsType :=
  .bind (.isWord _) fun _ => .bind (.isWord _) fun _ => .bind .newLine fun _ => .pure _

omit h in
/-- An operator between two operands is gone past; a slash has yet to be confirmed. -/
theorem at_advanceOperator {t : Token} {operator : String} {its : Nat} (h : t.operator? = some operator)
    (level : level? operator = some its) :
    Ensures (fun c => At false whole k c ∧ c.token = t) advance fun _ => At true whole k := by
  by_cases slash : t = .mark "/"
  · exact at_advance.of fun c hc => hc.1.past_slash (hc.2.trans slash)
  · have hplain : ∀ p ∈ operatorLevels, ∀ m ∈ p.2, m = "/" ∨ Plain m.toList := by decide
    have hinert : t.Inert := by
      cases t with
      | word text escaped => exact .word
      | mark m =>
        obtain rfl := Option.some.inj h
        obtain ⟨p, hp, -⟩ := Option.map_eq_some_iff.mp level
        refine .of_plain ((hplain p (List.mem_of_find?_eq_some hp) m ?_).resolve_left ?_)
        · simpa using List.find?_some hp
        · exact fun hm => slash (congrArg _ hm)
      | _ => exact nomatch h
    exact inert_advance.weaken (fun c hc => ⟨hc.1, hc.2 ▸ hinert⟩) fun _ _ => At.loosen

/-- A binary operator with its right operand keeps the brackets. If it is a slash, the operand confirms it. -/
theorem keeps_binaryStep (level : Nat) (left : Shape) : Keeps false whole (r.binaryStep level left) := by
  refine fun k => .peek fun t => ?_
  split
  · exact .pure fun _ => And.left
  · next operator hoperator =>
    split
    · refine .stay stays_assertsType fun b => ?_
      split
      · exact .failure
      · exact .pure fun _ => And.left
    · next its hits =>
      refine .stay .mode fun m => ?_
      generalize decide (if operator == "**" then its < level else its ≤ level) = stops
      split
      · exact .pure fun _ => And.left
      · exact .drop (at_advanceOperator hoperator hits) fun _ => .drop (h.binary its k) fun _ =>
          .drop (at_flawIf _) fun _ => .pure fun _ => id

theorem keeps_privateTest (level : Nat) : KeepsInert loose whole (r.privateTest level) := by
  refine fun k => ?_
  unfold privateTest
  dsimp only
  split
  · exact .failure
  · refine .drop inert_skip fun _ => .bind (tries_eatWord _ _ _) fun b => ?_
    cases b with
    | true => exact .drop (h.binary 8 k) fun _ => .pure fun _ => id
    | false => exact .failure

/-- Binary operators of a level keep the brackets. -/
theorem keeps_binaryRule (level : Nat) : Keeps loose whole (r.binaryRule level) := by
  have hrest : ∀ left, Keeps false whole (iterate (r.binaryStep level) left) := fun left =>
    .iterate (keeps_binaryStep h level) left
  refine fun k => .peek fun t => ?_
  split
  · refine .stay .mode fun m => ?_
    split
    · exact KeepsInert.before (.bind (keeps_privateTest h level) hrest) .privateWord k
    · exact .failure
  · exact (Keeps.bind h.unary hrest).after k

/-! ## Assignments and sequences -/

omit h in
theorem foretells_startsYield : Foretells startsYield := by
  refine foretells_word "yield" (.bind .mode fun m => ?_)
  split
  · exact .pure _
  · exact .ahead _

omit h in
theorem stays_endsYield : Stays endsYield := by
  refine .bind .peek fun t => ?_
  split
  · exact .pure _
  · exact .pure _
  · exact .pure _

/-- What begins with `yield` keeps the brackets. -/
theorem keeps_yieldRule : KeepsInert loose whole r.yieldRule := by
  refine .stay .mode fun m => .flawIf _ fun _ => .advance fun _ => .stay .newLine fun newLine => ?_
  dsimp only
  split
  · refine .bind (tries_eat (by decide)).keeps fun star => .stay stays_endsYield fun ends => ?_
    split
    · exact .bind h.assignment fun _ => .pure _
    · exact .pure _
  · exact .pure _

omit h in
/-- An operator of an assignment is inert, also where it has a slash. -/
theorem inert_of_assignmentOperator {operator : String} (assigns : assignmentOperators.contains operator = true) :
    (Token.mark operator).Inert := by
  have hplain : ∀ m ∈ assignmentOperators, m = "/=" ∨ Plain m.toList := by decide
  rcases hplain operator (by simpa using assigns) with rfl | hplain
  · exact fun k => rfl
  · exact .of_plain hplain

/-- An assignment keeps the brackets behind its target. -/
theorem keeps_assignTo (target : Shape) {operator : String} (assigns : assignmentOperators.contains operator = true) :
    Ensures (fun c => At false whole k c ∧ c.token = .mark operator) (r.assignTo target operator)
      fun _ => At false whole k := by
  have hrest : KeepsInert false whole (do
      advance
      let _ ← r.assignment
      return Shape.assign (operator == "=")) := .advance fun _ => .bind h.assignment fun _ => .pure _
  refine .of (P := AtInert false whole k) ?_ fun c hc => ⟨hc.1, hc.2 ▸ inert_of_assignmentOperator assigns⟩
  unfold assignTo
  dsimp only
  split
  · split
    · exact .drop (inert_recount _) fun _ => hrest k
    · exact .failure
  · split
    · exact .failure
    · exact hrest k

theorem keeps_branches (test : Shape) : Keeps false whole (r.branches test) :=
  .tries (tries_eat (by decide))
    (.bind h.assignment.enclosed fun _ => .bind (keeps_expect (by decide)) fun _ => .bind h.assignment fun _ => .pure _)
    (.pure _)

/-- An assignment expression keeps the brackets, whichever of its forms it has. -/
theorem keeps_assignmentRule : Keeps loose whole r.assignmentRule := by
  refine .foretold foretells_startsYield (keeps_yieldRule h) ?_
  refine .tries (tries_parenthesizedArrow h) (.pure _) (.tries (tries_asyncArrow h) (.pure _) ?_)
  refine .bind (h.binary 0) fun left => .stay (.isMark _) fun arrow => ?_
  split
  · exact .bind (keeps_fromArrow h false) fun _ => .pure _
  · refine fun k => .peek fun t => ?_
    split
    · split
      · next assigns => exact keeps_assignTo h left assigns
      · exact (keeps_branches h left).after k
    · exact .pure fun _ => And.left

/-- Expressions with commas between them keep the brackets. -/
theorem keeps_expressionRule : Keeps loose whole r.expressionRule :=
  .bind (h.assignment.under _) fun _ =>
    .iterate (fun _ => .tries (tries_eat (by decide)) (.bind (h.assignment.under _) fun _ => .pure _) (.pure _)) _

end Rules

end WidgetTemplates.Script.Grammar
