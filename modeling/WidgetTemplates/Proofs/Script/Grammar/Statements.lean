import WidgetTemplates.Proofs.Script.Grammar.Operands

/-!
# Brackets of statements

Statements keep the open brackets. With that every rule of the grammar does, if the rules of the goals inside it do, and
so do the rules up to any depth (`keep_upTo`).
-/

namespace WidgetTemplates.Script.Grammar

open Reader

namespace Rules

variable {whole : List Char} {k : List Bracket} {loose : Bool} {r : Rules} (h : r.Keep whole)

include h

/-! ## Declarations and expressions -/

theorem keeps_declarator (isConst inHead : Bool) : Keeps loose whole (r.declarator isConst inHead) :=
  .bind h.pattern fun _ => .tries (tries_eat (by decide)) (.bind h.assignment fun _ => .pure _) (keeps_flawIf _)

/-- A declaration keeps the brackets behind its keyword. -/
theorem keeps_declaration (inHead : Bool) : KeepsInert loose whole (r.declaration inHead) :=
  .stay (.isWord _) fun _ => .stay (.isWord _) fun _ => .advance fun _ => .bind (keeps_declarator h _ _) fun _ =>
    .iterate (fun _ => .tries (tries_eat (by decide)) (.bind (keeps_declarator h _ _) fun _ => .pure _) (.pure _)) _

theorem keeps_declarationStatement : KeepsInert loose whole r.declarationStatement :=
  .bind (keeps_declaration h false) fun _ => keeps_endStatement

/-- A statement that is an expression keeps the brackets. -/
theorem keeps_expressionStatement : Keeps loose whole r.expressionStatement := by
  refine fun k => .drop (h.expression k) fun shape => .bind (foretells_isMark (by decide) _) fun colon => ?_
  split
  · next label =>
    exact .drop (inert_advance.of fun _ hc => ⟨hc.1, hc.2 ((Bool.and_eq_true _ _).mp label).2⟩)
      fun _ => h.statement true k
  · exact (keeps_endStatement k).of fun _ => And.left

omit h in
theorem stays_letUse (alone : Bool) : Stays (letUse alone) := by
  rintro mode c use c' hrun
  obtain ⟨⟨use', t⟩, -, hpair⟩ := Option.map_eq_some_iff.mp hrun
  exact (Prod.mk.inj hpair).2.symm

/-- What begins with `let` keeps the brackets. -/
theorem keeps_letStatement (alone : Bool) : KeepsInert loose whole (r.letStatement alone) := by
  refine .stay (stays_letUse alone) fun use => ?_
  cases use with
  | expression => exact (keeps_expressionStatement h).inert
  | declares => exact .flawIf _ fun _ => keeps_declarationStatement h

/-! ## Conditions and loops -/

theorem keeps_ifStatement : KeepsInert loose whole r.ifStatement :=
  .advance fun _ => .bind (keeps_condition h) fun _ => .bind (h.statement true) fun _ =>
    .tries (tries_eatWord _) (h.statement true) (.pure _)

theorem keeps_doStatement : KeepsInert loose whole r.doStatement :=
  .advance fun _ => .bind (h.statement true) fun _ =>
    .tries (tries_eatWord _) (.bind (keeps_condition h) fun _ => .bind (tries_eat (by decide)).keeps fun _ => .pure _)
      .failure

/-- The head of a loop over items closes its parenthesis. -/
theorem at_forEachRest : Ensures (AtInert false whole (.round :: k)) r.forEachRest fun _ => At false whole k := by
  have hbody : Ensures (At false whole (.round :: k)) (do expect ")"; r.statement true) fun _ => At false whole k :=
    .drop (at_expect (.closing rfl k)) fun _ => h.statement true k
  refine .bind (ensures_eatWord _ fun _ => And.left) fun b => ?_
  cases b with
  | true => exact .drop (h.expression _) fun _ => hbody
  | false => exact .drop inert_advance fun _ => .drop (h.assignment _) fun _ => hbody

/-- The head of a loop closes its parenthesis, whichever of its forms it has. -/
theorem at_forRest (isAwait : Bool) :
    Ensures (At false whole (.round :: k)) (r.forRest isAwait) fun _ => At false whole k := by
  have hclose : Ensures (At false whole (.round :: k)) (do
      expect ")"
      flawIf isAwait
      r.statement true) fun _ => At false whole k :=
    .drop (at_expect (.closing rfl k)) fun _ => .drop (at_flawIf _) fun _ => h.statement true k
  have hstep : Ensures (At false whole (.round :: k)) (do
      expect ";"
      if !(← isMark ")") then
        let _ ← r.expression
      expect ")"
      flawIf isAwait
      r.statement true) fun _ => At false whole k := by
    refine .drop (keeps_expect (by decide) _) fun _ => .stay (.isMark _) fun b => ?_
    split
    · exact .drop (h.expression _) fun _ => hclose
    · exact hclose
  refine .drop (keeps_expect (by decide) _) fun _ => .stay (.isMark _) fun b => ?_
  split
  · exact .drop (h.expression _) fun _ => hstep
  · exact hstep

omit h in
theorem foretells_startsHeadDeclaration : Foretells startsHeadDeclaration := by
  refine fun P => .bind (foretells_isWord _ P) fun isVar => .bind (foretells_isWord _ _) fun isConst => ?_
  split
  · next declares =>
    exact .pure fun _ hc => ⟨hc.1.1, fun _ => ((Bool.or_eq_true _ _).mp declares).elim hc.1.2 hc.2⟩
  · refine .of (foretells_ahead (fun c => .bind (inert_of_eatWord _ c) fun b => ?_) P) fun _ hc => hc.1.1
    cases b with
    | true => exact Ensures.fact.weaken (fun _ hinert => hinert rfl) fun _ _ hinert _ => hinert
    | false => exact .pure fun _ _ => nofun

/-- Both kinds of loops close the parenthesis of the head. -/
theorem keeps_forStatement : KeepsInert loose whole r.forStatement := by
  -- whether the loop goes over items shows only behind the first part of its head
  have hloop : ∀ (isAwait : Bool) (k : List Bracket), Ensures (At false whole (.round :: k)) (do
      if (← isWord "in") || (← isWord "of") then r.forEachRest else r.forRest isAwait) fun _ => At false whole k := by
    exact fun isAwait k =>
      ensures_either (foretells_isWord _) (foretells_isWord _) (at_forEachRest h) (at_forRest h isAwait)
  have hhead : ∀ (isAwait : Bool) (rest : Shape → Reader Unit),
      (∀ start k, Ensures (At false whole (.round :: k)) (rest start) fun _ => At false whole k) →
      Keeps false whole (do
        expect "("
        if ← isMark ";" then r.forRest isAwait
        else if ← startsHeadDeclaration then
          under (fun m => { m with inOperator := false }) (r.declaration true)
          if (← isWord "in") || (← isWord "of") then r.forEachRest else r.forRest isAwait
        else
          let start ← under (fun m => { m with inOperator := false }) r.expression
          rest start) := by
    refine fun isAwait rest hrest k => .drop (at_expect (.opening rfl k)) fun _ => .stay (.isMark _) fun b => ?_
    split
    · exact at_forRest h isAwait
    · refine .bind (foretells_startsHeadDeclaration _) fun declares => ?_
      cases declares with
      | true =>
        exact .drop (((keeps_declaration h true _).under _).of fun _ hc => ⟨hc.1, hc.2 rfl⟩) fun _ => hloop isAwait k
      | false => exact .drop (((h.expression _).under _).of fun _ => And.left) fun start => hrest start k
  refine .advance fun _ => .foretold (foretells_isWord _)
    (.stay .mode fun m => .flawIf _ fun _ => .advance fun _ => hhead true _ fun start k => ?_)
    (hhead false _ fun start k => ?_)
  all_goals
    refine ensures_either (foretells_isWord _) (foretells_isWord _) ?_ (at_forRest h _)
    split
    · exact .drop (inert_recount _) fun _ => at_forEachRest h
    · exact .failure

/-! ## Other statements -/

omit h in
theorem keeps_jumpStatement : KeepsInert loose whole jumpStatement := by
  refine .advance fun _ => .stay .canEnd fun b => ?_
  split
  · exact .bind keeps_name fun _ => keeps_endStatement
  · exact keeps_endStatement

theorem keeps_returnStatement : KeepsInert loose whole r.returnStatement := by
  refine .stay .mode fun m => .flawIf _ fun _ => .advance fun _ => .stay .canEnd fun b => ?_
  split
  · exact .bind h.expression fun _ => keeps_endStatement
  · exact keeps_endStatement

theorem keeps_throwStatement : KeepsInert loose whole r.throwStatement :=
  .advance fun _ => .stay .newLine fun _ => .flawIf _ fun _ => .bind h.expression fun _ => keeps_endStatement

/-- A `try` with its blocks keeps the brackets. -/
theorem keeps_tryStatement : KeepsInert loose whole r.tryStatement := by
  have hend : ∀ catches, Keeps false whole (do
      let finishes ← eatWord "finally"
      if finishes then r.block
      flawIf (!catches && !finishes)) := fun catches =>
    .tries (tries_eatWord _) (.bind (keeps_block h) fun _ => keeps_flawIf _) (keeps_flawIf _)
  refine .advance fun _ => .bind (keeps_block h) fun _ => .tries (tries_eatWord _) ?_ (hend false)
  refine fun k => .bind (at_eat (.opening rfl k)) fun b => ?_
  cases b with
  | true =>
    exact .drop (h.pattern _) fun _ => .drop (at_expect (.closing rfl k)) fun _ => .drop (keeps_block h _) fun _ =>
      hend true k
  | false => exact .drop (keeps_block h _) fun _ => hend true k

theorem keeps_switchCase : Keeps false whole r.switchCase := by
  have hstatements : Keeps false whole (do
      expect ":"
      iterate
        (fun _ => do
          if (← isMark "\x7d") || (← peek) == .finish || (← isWord "case") || (← isWord "default") then
            return none
          else
            r.statement false
            return some ())
        ()
      return some ()) := by
    refine .bind (keeps_expect (by decide)) fun _ => .bind (.iterate (fun _ => ?_) _) fun _ => .pure _
    refine .stay (.isMark _) fun _ => .stay .peek fun _ => .stay (.isWord _) fun _ => .stay (.isWord _) fun _ => ?_
    split
    · exact .pure _
    · exact .bind (h.statement false) fun _ => .pure _
  refine .stay (.isMark _) fun b => .stay .peek fun t => ?_
  split
  · exact .pure _
  · refine .tries (tries_eatWord _) (.bind h.expression fun _ => hstatements) ?_
    exact .tries (tries_eatWord _) hstatements .failure

/-- A `switch` with its cases keeps the brackets. -/
theorem keeps_switchStatement : KeepsInert loose whole r.switchStatement :=
  .advance fun _ => .bind (keeps_condition h) fun _ => fun k =>
    .drop (at_expect (.opening rfl k)) fun _ => .drop (Keeps.iterate (fun _ => keeps_switchCase h) _ _) fun _ =>
      at_expect (.closing rfl k)

theorem keeps_functionStatement (alone : Bool) : KeepsInert loose whole (r.functionStatement alone false) :=
  .bind (keeps_function h false true) fun _ => keeps_flawIf _

/-- A statement that begins with a word keeps the brackets, the word being inert. -/
theorem keeps_wordStatement (alone : Bool) (text : String) : KeepsInert loose whole (r.wordStatement alone text) := by
  have hexpression : KeepsInert loose whole r.expressionStatement := (keeps_expressionStatement h).inert
  unfold wordStatement
  split
  · exact keeps_ifStatement h
  · exact keeps_doStatement h
  · exact .advance fun _ => .bind (keeps_condition h) fun _ => h.statement true
  · exact .advance fun _ => .bind (keeps_condition h) fun _ => h.statement true
  · exact keeps_forStatement h
  · exact keeps_jumpStatement
  · exact keeps_jumpStatement
  · exact keeps_switchStatement h
  · exact keeps_throwStatement h
  · exact keeps_tryStatement h
  · exact .advance fun _ => keeps_endStatement
  · exact .flawIf _ fun _ => keeps_classRest h true
  · exact .flawIf _ fun _ => keeps_declarationStatement h
  · exact keeps_declarationStatement h
  · exact keeps_letStatement h alone
  · exact keeps_returnStatement h
  · exact keeps_functionStatement h alone
  · exact Keeps.failure.inert
  · refine .stay (.ahead _) fun b => ?_
    split
    · exact hexpression
    · exact Keeps.failure.inert
  · refine .stay (.ahead _) fun b => ?_
    split
    · exact keeps_declarationStatement h
    · exact hexpression
  · refine fun k => .bind (ensures_aheadWords "async" "function") fun b => ?_
    split
    · next starts =>
      exact .drop (inert_advanceInert.of fun _ hc => ⟨hc.1, (hc.2 starts).2⟩) fun _ =>
        .drop (keeps_function h true true k) fun _ => at_flawIf _
    · exact (hexpression k).of fun _ => And.left
  · exact hexpression

/-- A statement keeps the brackets. -/
theorem keeps_statementRule (alone : Bool) : Keeps loose whole (r.statementRule alone) := by
  refine fun k => .peek fun t => ?_
  split
  · exact (keeps_wordStatement h alone _).before .word k
  · exact (keeps_block h).after k
  · exact KeepsInert.before (fun _ => inert_advance) (.of_plain (by decide)) k
  · refine .drop ((at_decorators h).of fun _ => And.left) fun _ => .bind (foretells_isWord _ _) fun b => ?_
    cases b with
    | true => exact (keeps_classRest h true k).of fun _ hc => ⟨hc.1, hc.2 rfl⟩
    | false => exact .failure
  · exact (keeps_expressionStatement h).after k

/-! ## All rules -/

/-- The rule for a goal keeps the open brackets if those for the goals inside it do. -/
theorem keep_step {α : Type} (g : Goal α) : Keeps true whole (r.step g) := by
  cases g with
  | expression => exact keeps_expressionRule h
  | assignment => exact keeps_assignmentRule h
  | binary level => exact keeps_binaryRule h level
  | unary => exact keeps_unaryRule h
  | leftHand => exact keeps_leftHandRule h
  | primary => exact keeps_primaryRule h
  | pattern => exact keeps_patternRule h
  | statement alone => exact keeps_statementRule h alone

omit h in
/-- The rules of any depth keep the brackets: each does so if those inside it do. -/
theorem keep_upTo (depth : Nat) : (upTo depth).Keep whole := by
  induction depth with
  | zero => exact fun _ => .failure
  | succ depth ih => exact fun g => keep_step ih g

end Rules

end WidgetTemplates.Script.Grammar
