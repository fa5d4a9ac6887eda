import WidgetTemplates.Template.Parse

/-!
# Attribute values of several pieces

A value of several pieces is printed as a sum from left to right. Such a sum joins texts from its first text on, but
numbers in front of that are added up (`Value.plus`). So the value is what its pieces say one after the other, whatever
the expressions evaluate to, exactly if one of its first two pieces is literal text (`mixed_value_iff`).
-/

namespace WidgetTemplates.Template

open Script (Expr)

/-! ## Sums -/

/-- Numbers that are added and written, with a zero that adds nothing to itself and is written somehow. -/
structure Arithmetic where
  Number : Type
  add : Number → Number → Number
  digits : Number → List Char
  zero : Number
  add_zero_zero : add zero zero = zero
  digits_zero_ne_nil : digits zero ≠ []

/-- The integers, written in decimal. -/
def integers : Arithmetic where
  Number := Int
  add := Int.add
  digits n := (toString n).toList
  zero := 0
  add_zero_zero := rfl
  digits_zero_ne_nil := by decide

/-- The value of an expression at run time: a number or a text. -/
inductive Value (A : Arithmetic) where
  | number (n : A.Number)
  | text (t : List Char)

namespace Value

variable {A : Arithmetic}

/-- The form in which a value is written. -/
def form : Value A → List Char
  | number n => A.digits n
  | text t => t

/-- The sum of two values: numbers are added, and anything else is joined. -/
def plus : Value A → Value A → Value A
  | number m, number n => number (A.add m n)
  | v, w => text (v.form ++ w.form)

/-- A text with something added is a text. -/
theorem text_plus (t : List Char) (v : Value A) : (text t).plus v = text (t ++ v.form) := by
  cases v <;> rfl

/-- Something with a text added is a text. -/
theorem plus_text (v : Value A) (t : List Char) : v.plus (text t) = text (v.form ++ t) := by
  cases v <;> rfl

/-- A sum that starts with a text joins all its values. -/
theorem foldl_plus_text (t : List Char) (values : List (Value A)) :
    values.foldl plus (text t) = text (t ++ values.flatMap form) := by
  induction values generalizing t with
  | nil => simp
  | cons v values ih => rw [List.foldl_cons, text_plus, ih, List.flatMap_cons, List.append_assoc]

/-- As long as the values are zero or texts, a sum that starts with zero is not longer than its values. -/
theorem length_form_foldl_plus_zero {values : List (Value A)}
    (h : ∀ v ∈ values, v = number A.zero ∨ ∃ t, v = text t) :
    (values.foldl plus (number A.zero)).form.length ≤ (A.digits A.zero ++ values.flatMap form).length := by
  induction values with
  | nil => simp [form]
  | cons v values ih =>
    rw [List.forall_mem_cons] at h
    rcases h.1 with rfl | ⟨t, rfl⟩
    · have hsum : (number A.zero).plus (number A.zero) = number A.zero := congrArg number A.add_zero_zero
      rw [List.foldl_cons, hsum]
      have hrest := ih h.2
      simp only [List.length_append, List.flatMap_cons] at hrest ⊢
      omega
    · rw [List.foldl_cons, plus_text, foldl_plus_text]
      simp [form]

end Value

section Evaluate

variable {A : Arithmetic}

/-- The value of an operand, where `env` gives the values of template expressions. -/
def operand? (env : String → Value A) : Expr → Option (Value A)
  | .str t => some (.text t.toList)
  | .raw code => some (env code)
  | _ => none

/-- The value of an operand or of a sum of operands, which is added up from the left. -/
def evaluate (env : String → Value A) : Expr → Option (Value A)
  | .concat (first :: rest) => do
    let start ← operand? env first
    let values ← rest.mapM (operand? env)
    return values.foldl Value.plus start
  | e => operand? env e

/-! ## Values of several pieces -/

namespace Source

variable {s : Source} {env : String → Value A} {value : List Char}

/-- The value of a piece: that of its expression, or its text. -/
def pieceValue (s : Source) (env : String → Value A) (p : Piece) : Value A :=
  match s.expression? p with
  | some e => env (Text.trimmed (String.ofList e.code))
  | none => .text p.text

/-- The value of an attribute is written as its pieces one after the other. -/
def Joins (s : Source) (env : String → Value A) (value : List Char) : Prop :=
  ((s.attributeValue value).bind (evaluate env)).map Value.form =
    some ((split value).flatMap fun p => (s.pieceValue env p).form)

/-- The operand for a piece. -/
def part (s : Source) (p : Piece) : Expr :=
  match s.expression? p with
  | some e => Expr.ofText (String.ofList e.code)
  | none => Expr.str (String.ofList p.text)

/-- A part is worth what its piece stands for. -/
theorem operand?_part (p : Piece) : operand? env (s.part p) = some (s.pieceValue env p) := by
  rw [part, pieceValue]
  cases s.expression? p with
  | some e => rfl
  | none => exact congrArg (fun t => some (Value.text t)) (String.toList_ofList)

/-- Several pieces are summed up from the left. -/
theorem evaluate_attributeValue {p q : Piece} {rest : List Piece} (h : split value = p :: q :: rest) :
    (s.attributeValue value).bind (evaluate env) =
      some ((rest.map (s.pieceValue env)).foldl Value.plus ((s.pieceValue env p).plus (s.pieceValue env q))) := by
  have hvalue : value.isEmpty = false := by
    rcases value with _ | ⟨c, value⟩
    · cases h
    · rfl
  have hattr : s.attributeValue value = some (.concat (s.part p :: s.part q :: rest.map s.part)) := by
    rw [attributeValue, hvalue, h]
    rfl
  have hoperands (pieces : List Piece) :
      (pieces.map s.part).mapM (operand? env) = some (pieces.map (s.pieceValue env)) := by
    induction pieces with
    | nil => rfl
    | cons p pieces ih => rw [List.map_cons, List.mapM_cons, operand?_part, ih]; rfl
  rw [hattr, Option.bind_some, evaluate, operand?_part, ← List.map_cons, hoperands]
  rfl

/-- A sum in which one of the first two values is a text joins all of them. -/
theorem joins_of_text {p q : Piece} {rest : List Piece} (hsplit : split value = p :: q :: rest)
    (h : ∃ piece ∈ [p, q], ∃ t, s.pieceValue env piece = .text t) : s.Joins env value := by
  have hplus : (s.pieceValue env p).plus (s.pieceValue env q) =
      .text ((s.pieceValue env p).form ++ (s.pieceValue env q).form) := by
    obtain ⟨piece, hpiece, t, htext⟩ := h
    rcases List.mem_cons.mp hpiece with rfl | hpiece
    · rw [htext, Value.text_plus]
      rfl
    · obtain rfl := List.mem_singleton.mp hpiece
      rw [htext, Value.plus_text]
      rfl
  rw [Joins, evaluate_attributeValue hsplit, hplus, Value.foldl_plus_text, hsplit]
  simp [Value.form, List.flatMap_map]

/-- A sum that starts with two zeros does not join them. -/
theorem not_joins_zero {p q : Piece} {rest : List Piece} (hsplit : split value = p :: q :: rest)
    (hp : s.expression? p ≠ none) (hq : s.expression? q ≠ none) :
    ¬ s.Joins (fun _ => .number A.zero) value := by
  have hvalue (p : Piece) : s.pieceValue (fun _ => .number A.zero) p = .number A.zero ∨
      ∃ t, s.pieceValue (fun _ => .number A.zero) p = .text t := by
    rw [pieceValue]
    cases s.expression? p with
    | some e => exact .inl rfl
    | none => exact .inr ⟨p.text, rfl⟩
  have hzero {p : Piece} (h : s.expression? p ≠ none) : s.pieceValue (fun _ => .number A.zero) p = .number A.zero := by
    obtain ⟨e, he⟩ := Option.ne_none_iff_exists'.mp h
    rw [pieceValue, he]
  have hsum : (Value.number A.zero).plus (Value.number A.zero) = .number A.zero := congrArg Value.number A.add_zero_zero
  intro hjoins
  rw [Joins, evaluate_attributeValue hsplit, hzero hp, hzero hq, hsum, Option.map_some, hsplit, List.flatMap_cons,
    List.flatMap_cons, hzero hp, hzero hq] at hjoins
  have hshort := Value.length_form_foldl_plus_zero (List.forall_mem_map.mpr fun p (_ : p ∈ rest) => hvalue p)
  rw [Option.some.inj hjoins, List.flatMap_map] at hshort
  have hdigits := List.length_pos_iff.mpr A.digits_zero_ne_nil
  simp only [Value.form, List.length_append] at hshort
  omega

end Source

end Evaluate

/-- A value of several pieces is joined if one of its first two pieces is or evaluates to a text. It is joined whatever
its expressions evaluate to exactly if one of its first two pieces stands for no expression: two numbers in front are
added up. -/
theorem mixed_value_iff (A : Arithmetic) (s : Source) {value : List Char} (several : 2 ≤ (split value).length) :
    (∀ env : String → Value A, (∃ p ∈ (split value).take 2, ∃ t, s.pieceValue env p = .text t) → s.Joins env value) ∧
      ((∀ env : String → Value A, s.Joins env value) ↔ ∃ p ∈ (split value).take 2, s.expression? p = none) := by
  obtain ⟨p, q, rest, hsplit⟩ : ∃ p q rest, split value = p :: q :: rest := by
    rcases hsplit : split value with _ | ⟨p, _ | ⟨q, rest⟩⟩
    · simp [hsplit] at several
    · simp [hsplit] at several
    · exact ⟨p, q, rest, rfl⟩
  have htake : (split value).take 2 = [p, q] := by rw [hsplit]; rfl
  rw [htake]
  refine ⟨fun env => s.joins_of_text hsplit, ?_, ?_⟩
  · intro hall
    cases hp : s.expression? p with
    | none => exact ⟨p, by simp, hp⟩
    | some e =>
      cases hq : s.expression? q with
      | none => exact ⟨q, by simp, hq⟩
      | some f => exact absurd (hall _) (s.not_joins_zero hsplit (by simp [hp]) (by simp [hq]))
  · rintro ⟨piece, hpiece, hnone⟩ env
    refine s.joins_of_text hsplit ⟨piece, hpiece, piece.text, ?_⟩
    rw [Source.pieceValue, hnone]

/-- Two numbers behind a text are joined to it one by one. -/
theorem numbers_behind_text_joined :
    let env (code : String) : Value integers := .number (if code = "1" then (1 : Int) else (2 : Int))
    Source.Joins ⟨{}, (lift "<p title=\"n$\x7b1\x7d$\x7b2\x7d\">".toList).2⟩ env
      "n__W_EXPR_0____W_EXPR_1__".toList :=
  (mixed_value_iff integers _ (by decide)).2.mpr ⟨.literal ['n'], by decide, rfl⟩ _

/-- Two numbers in front are added up. -/
theorem numbers_added :
    let s : Source := ⟨{}, (lift "<p title=\"$\x7b1\x7d$\x7b2\x7d\">".toList).2⟩
    let env (code : String) : Value integers := .number (if code = "1" then (1 : Int) else (2 : Int))
    let value := "__W_EXPR_0____W_EXPR_1__".toList
    (split value).length = 2 ∧
      ((s.attributeValue value).bind (evaluate env)).map Value.form = some ['3'] ∧
      ((split value).flatMap fun p => (s.pieceValue env p).form) = ['1', '2'] := by
  decide

end WidgetTemplates.Template
