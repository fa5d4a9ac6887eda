import Mathlib.Algebra.BigOperators.Group.List.Basic
import WidgetTemplates.Proofs.Script.Grammar.Whole
import WidgetTemplates.Proofs.Script.PrintedExpr

/-!
# The arguments of a printed call

What the printer makes of an expression is one piece between commas, with one exception (`Expr.readsBack`). The text of
a template expression is printed as it is where it is an argument itself, and an expression may have commas outside its
brackets. So a call has as many pieces as arguments exactly if none of its arguments is such a text (`argument_pieces`).
-/

namespace WidgetTemplates.Script

namespace Expr

section

variable {answers : String → List Slash}

/-- The pieces of a printed expression. -/
def pieces (answers : String → List Slash) (e : Expr) : List (List Char) :=
  (Reading.pieces? ⟨e.slashes answers, .script, []⟩ e.print.toList).getD []

namespace ReadsBack

variable {e : Expr}

/-- An expression that reads back can be cut. -/
theorem pieces?_print (h : e.ReadsBack answers) :
    Reading.pieces? ⟨e.slashes answers, .script, []⟩ e.print.toList = some (e.pieces answers) := by
  obtain ⟨first, rest, hpieces⟩ := Reading.exists_pieces? h.balancedBy
  rw [pieces, hpieces]
  rfl

/-- There is a first piece. -/
theorem exists_pieces (h : e.ReadsBack answers) : ∃ first rest, e.pieces answers = first :: rest := by
  obtain ⟨first, rest, hpieces⟩ := Reading.exists_pieces? h.balancedBy
  exact ⟨first, rest, by rw [pieces, hpieces]; rfl⟩

/-- An expression that is no text itself is one piece. -/
theorem pieces_eq (h : e.ReadsBack answers) (noText : ∀ code, e ≠ .raw code) : e.pieces answers = [e.print.toList] := by
  rw [pieces, (h.onePiece noText).pieces?]
  rfl

/-- If there is one piece it is the whole expression. -/
theorem length_pieces_eq_one_iff (h : e.ReadsBack answers) :
    (e.pieces answers).length = 1 ↔ e.pieces answers = [e.print.toList] := by
  constructor
  · intro hlength
    obtain ⟨piece, hpiece⟩ := List.length_eq_one_iff.mp hlength
    rw [hpiece, Reading.eq_of_pieces?_singleton (h.pieces?_print.trans (congrArg some hpiece))]
  · intro hpieces
    rw [hpieces, List.length_singleton]

end ReadsBack

/-- The pieces of printed arguments: a blank follows each comma that the printer puts in. -/
def argumentPieces (answers : String → List Slash) : List Expr → List (List Char)
  | [] => []
  | first :: rest => first.pieces answers ++ rest.flatMap fun e => (e.pieces answers).modifyHead (' ' :: ·)

/-- Printed arguments are cut into the pieces of each, with a blank in front of all but the first. -/
theorem pieces?_printList (first : Expr) (rest : List Expr) (h : ∀ e ∈ first :: rest, e.ReadsBack answers) :
    Reading.pieces? ⟨(first :: rest).flatMap (slashes answers), .script, []⟩ (printList (first :: rest)).toList =
      some (argumentPieces answers (first :: rest)) := by
  induction rest generalizing first with
  | nil => simpa [printList, argumentPieces] using (h first List.mem_cons_self).pieces?_print
  | cons e rest ih =>
    rw [List.forall_mem_cons] at h
    obtain ⟨hfirst, hrest⟩ := h
    obtain ⟨piece, more, hpieces⟩ := (hrest e List.mem_cons_self).exists_pieces
    let slashesBehind := (e :: rest).flatMap (slashes answers)
    have hrun : Reading.run ⟨first.slashes answers ++ slashesBehind, .script, []⟩ first.print.toList =
        some ⟨slashesBehind, .script, []⟩ := by
      simpa [Reading.within] using Reading.run_within slashesBehind [] hfirst.balancedBy
    have hfront : Reading.pieces? ⟨first.slashes answers ++ slashesBehind, .script, []⟩ first.print.toList =
        some (first.pieces answers) := by
      rw [← hfirst.pieces?_print]
      simpa [Reading.within] using Reading.pieces?_within hfirst.balancedBy slashesBehind
    have hbehind : Reading.pieces? ⟨slashesBehind, .script, []⟩ (' ' :: (printList (e :: rest)).toList) =
        some ((argumentPieces answers (e :: rest)).modifyHead (' ' :: ·)) :=
      Reading.pieces?_char rfl rfl (ih e hrest)
    have hcomma : Reading.next ⟨slashesBehind, .script, []⟩ ',' = some ⟨slashesBehind, .script, []⟩ := rfl
    have hall := Reading.pieces?_append_separator hrun hfront hcomma rfl hbehind
    simpa [slashesBehind, printList, argumentPieces, hpieces] using hall

/-- There are as many pieces as arguments exactly if each argument is one. -/
theorem length_argumentPieces_eq_iff {args : List Expr} (h : ∀ e ∈ args, e.ReadsBack answers) :
    (argumentPieces answers args).length = args.length ↔ ∀ e ∈ args, e.pieces answers = [e.print.toList] := by
  have hlength : (argumentPieces answers args).length = (args.map fun e => (e.pieces answers).length).sum := by
    rcases args with _ | ⟨first, rest⟩ <;> simp [argumentPieces, List.length_flatMap]
  rw [hlength]
  clear hlength
  induction args with
  | nil => simp
  | cons e args ih =>
    rw [List.forall_mem_cons] at h ⊢
    obtain ⟨he, hargs⟩ := h
    have hone : ∀ {e : Expr}, e.ReadsBack answers → 1 ≤ (e.pieces answers).length := by
      intro e he
      obtain ⟨first, rest, hpieces⟩ := he.exists_pieces
      simp [hpieces]
    have hmore := List.length_le_sum_of_one_le (args.map fun e => (e.pieces answers).length)
      (List.forall_mem_map.mpr fun e he => hone (hargs e he))
    rw [List.length_map] at hmore
    have hfirst := hone he
    rw [← he.length_pieces_eq_one_iff, List.map_cons, List.sum_cons, List.length_cons]
    refine Iff.trans ?_ (and_congr_right fun _ => ih hargs)
    omega

end

/-- An expression written with better texts is written with good ones. -/
theorem Written.mono {good better : String → Prop} (h : ∀ code, better code → good code) {e : Expr}
    (written : e.Written better) : e.Written good := by
  intro part hpart
  have hown := written part hpart
  cases part with
  | raw code => exact h code hown
  | _ => exact hown

end Expr

/-- **One argument is one piece, unless it is a text.** If the texts in the arguments of a call are expressions to their
end, what the grammar takes their slashes for balances each of them. By any answers that do so the printed arguments are
cut into one piece for every argument that is no text itself, and for a text into the pieces that it has alone. So there
are as many pieces as arguments exactly if no comma separates in an argument that is a text. -/
theorem argument_pieces (callee first : Expr) (rest : List Expr)
    (whole : ∀ e ∈ first :: rest, e.Written fun code => Grammar.readsWhole code.toList = true) :
    (∀ e ∈ first :: rest, e.Written (Expr.Answered Grammar.slashesOf)) ∧
      ∀ answers, (∀ e ∈ first :: rest, e.Written (Expr.Answered answers)) →
        ∃ list, (Expr.call callee (first :: rest)).print = callee.printOperand ++ "(" ++ list ++ ")" ∧
          Reading.pieces? ⟨(first :: rest).flatMap (Expr.slashes answers), .script, []⟩ list.toList =
            some (Expr.argumentPieces answers (first :: rest)) ∧
          (∀ e ∈ first :: rest, (∀ code, e ≠ .raw code) → e.pieces answers = [e.print.toList]) ∧
          ((Expr.argumentPieces answers (first :: rest)).length = (first :: rest).length ↔
            ∀ code, .raw code ∈ first :: rest →
              Reading.pieces? ⟨answers code, .script, []⟩ code.toList = some [code.toList]) := by
  refine ⟨fun e he => (whole e he).mono fun _ => Grammar.balancedBy_of_readsWhole, fun answers written => ?_⟩
  have hreads : ∀ e ∈ first :: rest, e.ReadsBack answers := fun e he => e.readsBack (written e he)
  refine ⟨_, rfl, Expr.pieces?_printList first rest hreads, fun e he => (hreads e he).pieces_eq, ?_⟩
  rw [Expr.length_argumentPieces_eq_iff hreads]
  have htext : ∀ code, .raw code ∈ first :: rest →
      Reading.pieces? ⟨answers code, .script, []⟩ code.toList = some ((Expr.raw code).pieces answers) := by
    intro code hcode
    simpa [Expr.slashes, Expr.parts, Expr.print] using (hreads _ hcode).pieces?_print
  constructor
  · intro hone code hcode
    rw [htext code hcode, hone _ hcode, Expr.print]
  · intro hone e he
    cases e with
    | raw code => exact Option.some.inj ((htext code he).symm.trans (hone code he))
    | _ =>
      refine (hreads _ he).pieces_eq ?_
      rintro code ⟨⟩

/-- A comma in an operand does not separate. -/
theorem argument_pieces_of_comma_in_operand :
    ∃ list pieces, (Expr.call (.ident "f") [.raw "a / 2", .concat [.str "x", .raw "b, c"]]).print =
        (Expr.ident "f").printOperand ++ "(" ++ list ++ ")" ∧
      Reading.pieces? ⟨[.divides], .script, []⟩ list.toList = some pieces ∧ pieces.length = 2 := by
  let answers : String → List Slash := fun code => if code = "a / 2" then [.divides] else []
  have hwritten : ∀ {good : String → Prop}, good "a / 2" → good "b, c" →
      ∀ e ∈ [Expr.raw "a / 2", .concat [.str "x", .raw "b, c"]], e.Written good := by
    intro good hfirst hsecond
    simp [Expr.Written, Expr.OwnWritten, hfirst, hsecond]
  have hwhole := @hwritten (fun code => Grammar.readsWhole code.toList = true) (by decide +kernel) (by decide +kernel)
  have hanswered := @hwritten (Expr.Answered answers) rfl rfl
  obtain ⟨list, hprint, hpieces, -, hlength⟩ :=
    (argument_pieces (.ident "f") (.raw "a / 2") [.concat [.str "x", .raw "b, c"]] hwhole).2 answers hanswered
  refine ⟨list, _, hprint, hpieces, hlength.mpr fun code hcode => ?_⟩
  obtain rfl : code = "a / 2" := by simpa using hcode
  rfl

/-- The argument `a, b` is an expression to its end, and is printed as two arguments. -/
theorem comma_argument_is_two :
    Grammar.accepts "a, b".toList = true ∧ Grammar.readsWhole "a, b".toList = true ∧
      (Expr.call (.member (.ident "__markoHelpers") "x") [.raw "a, b"]).print = "__markoHelpers.x(a, b)" ∧
      Reading.pieces? ⟨[], .script, []⟩ "a, b".toList = some [['a'], [' ', 'b']] := by
  refine ⟨by decide +kernel, by decide +kernel, by decide +kernel, rfl⟩

end WidgetTemplates.Script
