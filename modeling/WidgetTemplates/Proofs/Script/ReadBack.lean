import WidgetTemplates.Proofs.Script.StringLiteral
import WidgetTemplates.Proofs.Script.Subexpression

/-!
# Reading printed script back

The printed form of an expression determines it. `Expr.read?` and `Stmt.read?` read expressions and statements from
their text: a recursive descent over operands, what is applied to them, and sums. They give back whatever is printed
(`Expr.read?_print`, `Stmt.read?_print`), as long as each name in it is a name of the script's grammar, no sum has
fewer than two operands and no text of a template stands in it (`Expr.Legible`).

An operand is read front first: a name, a literal or parentheses, then properties and arguments as long as there are
any. The printer nests the other way round, so what carries the induction is that the reader comes to the end of an
operand with the operand in its hands (`ReadsOperand`), whatever is applied to it there.
-/

namespace WidgetTemplates.Script

open Grammar (EndsName)

/-! ## Names -/

/-- A name of the grammar: it starts with a letter and is read to its end. -/
def isName (name : String) : Bool :=
  match Grammar.name? (name.length + 1) true name.toList with
  | some (_ :: _, _, []) => true
  | _ => false

/-- The name at the front of a text, as it is written there, and what follows it. -/
def nameText? (s : List Char) : Option (String × List Char) :=
  match Grammar.name? (s.length + 1) true s with
  | some (_ :: _, _, rest) => some (String.ofList (s.take (s.length - rest.length)), rest)
  | _ => none

/-- A name is read where it ends. -/
theorem nameText?_name {name : String} (h : isName name = true) {rest : List Char} (ends : EndsName rest) :
    nameText? (name.toList ++ rest) = some (name, rest) := by
  rw [isName] at h
  split at h
  · next first cs escaped hname =>
    have hread : Grammar.name? ((name.toList ++ rest).length + 1) true (name.toList ++ rest) =
        some (first :: cs, escaped, rest) :=
      Grammar.name?_append hname ends (by simp [← String.length_toList])
    rw [nameText?, hread]
    simp
  · exact nomatch h

/-- A name starts with a letter, or with the backslash of an escape. -/
theorem head_of_isName {name : String} (h : isName name = true) :
    ∃ c s, name.toList = c :: s ∧ (Grammar.isNameStart c = true ∨ c = '\\') := by
  rw [isName] at h
  rcases hs : name.toList with _ | ⟨c, s⟩
  · rw [hs, Grammar.name?.eq_def] at h
    cases h
  · refine ⟨c, s, rfl, ?_⟩
    by_contra hc
    obtain ⟨hstart, hslash⟩ := not_or.mp hc
    simp [hs, Grammar.name?, hstart, hslash] at h

/-! ## The reader -/

namespace Expr

/-- The operands of a sum. -/
def ofSummands : List Expr → Expr
  | [e] => e
  | parts => .concat parts

mutual

/-- Operands with plus signs between them, and what follows them. -/
def sum? : Nat → List Char → Option (List Expr × List Char)
  | 0, _ => none
  | fuel + 1, s => do
    let (first, rest) ← operand? fuel s
    match rest with
    | ' ' :: '+' :: ' ' :: rest => do
      let (more, rest) ← sum? fuel rest
      some (first :: more, rest)
    | _ => some ([first], rest)

/-- An operand, and what follows it. -/
def operand? : Nat → List Char → Option (Expr × List Char)
  | 0, _ => none
  | fuel + 1, s => do
    let (front, rest) ← front? fuel s
    applied? fuel front rest

/-- The front of an operand: a name, a literal, or a sum in parentheses. -/
def front? : Nat → List Char → Option (Expr × List Char)
  | 0, _ => none
  | _ + 1, '"' :: s => do
    let (text, rest) ← literalText? s
    some (.str (String.ofList text), rest)
  | fuel + 1, '[' :: s => do
    let (items, rest) ← list? ']' fuel s
    some (.array items, rest)
  | fuel + 1, '(' :: s => do
    let (parts, rest) ← sum? fuel s
    match rest with
    | ')' :: rest => some (.concat parts, rest)
    | _ => none
  | _ + 1, s => do
    let (name, rest) ← nameText? s
    some (if name == "null" then .null else .ident name, rest)

/-- What is applied to an operand: properties and arguments. -/
def applied? : Nat → Expr → List Char → Option (Expr × List Char)
  | 0, _, _ => none
  | fuel + 1, e, '.' :: s => do
    let (name, rest) ← nameText? s
    applied? fuel (.member e name) rest
  | fuel + 1, e, '(' :: s => do
    let (args, rest) ← list? ')' fuel s
    applied? fuel (.call e args) rest
  | _ + 1, e, s => some (e, s)

/-- The items of a list, up to its closing bracket. -/
def list? (close : Char) : Nat → List Char → Option (List Expr × List Char)
  | 0, _ => none
  | fuel + 1, s => if s.head? == some close then some ([], s.tail) else items? close fuel s

/-- The items of a list that has some, up to its closing bracket. -/
def items? (close : Char) : Nat → List Char → Option (List Expr × List Char)
  | 0, _ => none
  | fuel + 1, s => do
    let (parts, rest) ← sum? fuel s
    match rest with
    | ',' :: ' ' :: rest => do
      let (more, rest) ← items? close fuel rest
      some (ofSummands parts :: more, rest)
    | c :: rest => if c == close then some ([ofSummands parts], rest) else none
    | [] => none

end

/-- The expression at the front of a text, and what follows it. -/
def first? (s : List Char) : Option (Expr × List Char) :=
  (sum? (3 * s.length + 2) s).map fun (parts, rest) => (ofSummands parts, rest)

/-- The expression that a text is. -/
def read? (text : String) : Option Expr :=
  match first? text.toList with
  | some (e, []) => some e
  | _ => none

/-! ## Legible expressions -/

/-- What a part of an expression contributes besides the parts inside it can be read back. The name `null` would be
taken for the literal, a single operand would not be told from a sum, and the text of a template is not looked into. -/
def OwnLegible : Expr → Prop
  | .ident name => isName name = true ∧ name ≠ "null"
  | .member _ property => isName property = true
  | .concat operands => 2 ≤ operands.length
  | .raw _ => False
  | _ => True

instance : DecidablePred OwnLegible
  | .ident name => inferInstanceAs (Decidable (isName name = true ∧ name ≠ "null"))
  | .member _ property => inferInstanceAs (Decidable (isName property = true))
  | .concat operands => inferInstanceAs (Decidable (2 ≤ operands.length))
  | .raw _ => inferInstanceAs (Decidable False)
  | .call _ _ | .str _ | .null | .array _ => inferInstanceAs (Decidable True)

/-- Every part of an expression can be read back. -/
def Legible (e : Expr) : Prop := e.AllParts OwnLegible

instance (e : Expr) : Decidable e.Legible := List.decidableBAll _ e.parts

/-- The operands of a sum; any other expression is the only one. -/
def summands : Expr → List Expr
  | .concat operands => operands
  | e => [e]

/-- An expression is the sum of its summands. -/
theorem ofSummands_summands {e : Expr} (legible : e.Legible) : ofSummands e.summands = e := by
  cases e with
  | concat operands =>
    have hlength : 2 ≤ operands.length := (allParts_concat.mp legible).1
    rcases operands with _ | ⟨a, _ | ⟨b, operands⟩⟩
    · exact absurd hlength (Nat.not_succ_le_zero 1)
    · exact absurd hlength (Nat.not_succ_le_self 1)
    · rfl
  | _ => rfl

/-! ## What follows -/

/-- The characters that may follow an operand, a name or an expression. -/
def punctuation : List Char := ['.', '(', ' ', ',', ')', ']', ';']

/-- No name goes on with a punctuation character. -/
theorem endsName_of_mem {c : Char} (h : c ∈ punctuation) (s : List Char) : EndsName (c :: s) := by
  have hall : punctuation.all (fun c => !Grammar.isNamePart c && c != '\\') = true := by decide
  rintro _ ⟨⟩
  simpa using List.all_eq_true.mp hall c h

/-- The characters that may follow an expression. -/
def closers : List Char := [',', ')', ']', ';']

/-- An expression ends here. -/
def EndsSum (s : List Char) : Prop := ∀ c ∈ s.head?, c ∈ closers

/-- A sum ends before a closing character. -/
theorem endsSum_cons {c : Char} (h : c ∈ closers) (s : List Char) : EndsSum (c :: s) := by
  rintro _ ⟨⟩
  exact h

/-- An operand ends here. -/
def EndsOperand (s : List Char) : Prop := ∀ c ∈ s.head?, c ∈ ' ' :: closers

/-- Where a sum ends an operand does. -/
theorem EndsSum.endsOperand {s : List Char} (h : EndsSum s) : EndsOperand s :=
  fun c hc => List.mem_cons_of_mem _ (h c hc)

/-- Where an operand ends a name does. -/
theorem EndsOperand.endsName {s : List Char} (h : EndsOperand s) : EndsName s := by
  have hsubset : ' ' :: closers ⊆ punctuation := by decide
  rcases s with _ | ⟨c, s⟩
  · exact nofun
  · exact endsName_of_mem (hsubset (h c rfl)) s

/-- Nothing is applied to an operand that ends. -/
theorem applied?_of_ends {fuel : Nat} (enough : 0 < fuel) (e : Expr) {s : List Char} (h : EndsOperand s) :
    applied? fuel e s = some (e, s) := by
  obtain ⟨fuel, rfl⟩ := Nat.exists_eq_add_one_of_ne_zero (Nat.ne_of_gt enough)
  have happly : '.' ∉ ' ' :: closers ∧ '(' ∉ ' ' :: closers := by decide
  rw [applied?.eq_def]
  split
  · next heq => cases heq
  · exact absurd (h '.' rfl) happly.1
  · exact absurd (h '(' rfl) happly.2
  · next heq _ _ =>
    cases heq
    rfl

/-! ## Operands and sums -/

/-- The reader comes to the end of the printed operand with the operand in its hands, and as much fuel left as is asked
for. What is applied to the operand follows there, or nothing. -/
def ReadsOperand (e : Expr) : Prop :=
  ∀ ⦃left fuel : Nat⦄ ⦃rest : List Char⦄, EndsName rest → 3 * e.printOperand.length + left ≤ fuel →
    ∃ fuel', left ≤ fuel' ∧ operand? fuel (e.printOperand.toList ++ rest) = applied? fuel' e rest

/-- The text is read as a sum of these operands. -/
def ReadsSum (text : String) (operands : List Expr) : Prop :=
  ∀ ⦃fuel : Nat⦄ ⦃rest : List Char⦄, EndsSum rest → 3 * text.length + 2 ≤ fuel →
    sum? fuel (text.toList ++ rest) = some (operands, rest)

/-- An operand is read back where it ends, with fuel enough for its length. -/
theorem ReadsOperand.of_ends {e : Expr} (h : ReadsOperand e) {fuel : Nat} {rest : List Char} (ends : EndsOperand rest)
    (enough : 3 * e.printOperand.length + 1 ≤ fuel) :
    operand? fuel (e.printOperand.toList ++ rest) = some (e, rest) := by
  obtain ⟨fuel', hleft, hread⟩ := h ends.endsName enough
  rw [hread, applied?_of_ends hleft e ends]

/-- An operand is read back as soon as its front is. -/
theorem readsOperand_of_front {e : Expr} (h : ∀ ⦃fuel : Nat⦄ ⦃rest : List Char⦄, EndsName rest →
    3 * e.printOperand.length ≤ fuel + 2 → front? (fuel + 1) (e.printOperand.toList ++ rest) = some (e, rest))
    (nonempty : 0 < e.printOperand.length) : ReadsOperand e := by
  intro left fuel rest ends enough
  obtain ⟨fuel, rfl⟩ : ∃ more, fuel = more + 2 := ⟨fuel - 2, by omega⟩
  refine ⟨fuel + 1, by omega, ?_⟩
  rw [operand?, h ends (by omega)]
  rfl

theorem printSum_cons_cons (e e' : Expr) (rest : List Expr) :
    printSum (e :: e' :: rest) = e.printOperand ++ " + " ++ printSum (e' :: rest) := rfl

theorem printList_cons_cons (e e' : Expr) (rest : List Expr) :
    printList (e :: e' :: rest) = e.print ++ ", " ++ printList (e' :: rest) := rfl

/-- A sum is read if its operands are. -/
theorem readsSum_printSum {operands : List Expr} (nonempty : operands ≠ []) (h : ∀ e ∈ operands, ReadsOperand e) :
    ReadsSum (printSum operands) operands := by
  intro fuel rest ends enough
  induction operands generalizing fuel with
  | nil => exact absurd rfl nonempty
  | cons e operands ih =>
    obtain ⟨he, hoperands⟩ := List.forall_mem_cons.mp h
    obtain ⟨fuel, rfl⟩ : ∃ more, fuel = more + 1 := ⟨fuel - 1, by omega⟩
    rcases operands with _ | ⟨e', operands⟩
    · rw [printSum] at enough ⊢
      rw [sum?, he.of_ends ends.endsOperand (by omega), Option.bind_eq_bind, Option.bind_some]
      dsimp only
      split
      · exact absurd (ends ' ' rfl) (by decide)
      · rfl
    -- the sign that follows the operand ends it
    · have hplus : EndsOperand (" + ".toList ++ ((printSum (e' :: operands)).toList ++ rest)) := by
        rintro _ ⟨⟩
        decide
      simp only [printSum_cons_cons, String.length_append, String.toList_append, List.append_assoc] at enough ⊢
      rw [sum?, he.of_ends hplus (by omega), Option.bind_eq_bind, Option.bind_some]
      have hmore : sum? fuel ((printSum (e' :: operands)).toList ++ rest) = some (e' :: operands, rest) := by
        refine ih (List.cons_ne_nil _ _) hoperands ?_
        have hplus : " + ".length = 3 := rfl
        omega
      show (sum? fuel ((printSum (e' :: operands)).toList ++ rest) >>= fun (more, rest) =>
        some (e :: more, rest)) = _
      rw [hmore]
      rfl

/-! ## Lists -/

/-- The printed form of the item is read as the item. -/
def ReadsItem (e : Expr) : Prop := ReadsSum e.print e.summands ∧ ofSummands e.summands = e

section Lists

variable {close : Char} (hclose : close = ')' ∨ close = ']')

include hclose

/-- A closing bracket is no expression. -/
theorem sum?_close (fuel : Nat) (s : List Char) : sum? fuel (close :: s) = none := by
  have hname : nameText? (close :: s) = none := by rcases hclose with rfl | rfl <;> rfl
  have hfront : ∀ fuel, front? fuel (close :: s) = none
    | 0 => rfl
    | fuel + 1 => by
      have hopen : close ≠ '"' ∧ close ≠ '[' ∧ close ≠ '(' := by rcases hclose with rfl | rfl <;> decide
      rw [front?.eq_def]
      simp [hopen, hname]
  rcases fuel with _ | _ | fuel
  · rfl
  · rfl
  · rw [sum?, operand?, hfront]
    rfl

/-- Printed items are read back. -/
theorem reads_items? {items : List Expr} (nonempty : items ≠ []) (h : ∀ e ∈ items, e.ReadsItem) {fuel : Nat}
    (enough : 3 * (printList items).length + 3 ≤ fuel) (rest : List Char) :
    items? close fuel ((printList items).toList ++ close :: rest) = some (items, rest) := by
  induction items generalizing fuel with
  | nil => exact absurd rfl nonempty
  | cons e items ih =>
    obtain ⟨⟨hsum, hitem⟩, hitems⟩ := List.forall_mem_cons.mp h
    obtain ⟨fuel, rfl⟩ : ∃ more, fuel = more + 1 := ⟨fuel - 1, by omega⟩
    rcases items with _ | ⟨e', items⟩
    -- the closing bracket ends the last item, and is no comma
    · have hends : EndsSum (close :: rest) := endsSum_cons (by rcases hclose with rfl | rfl <;> decide) rest
      have hcomma : close ≠ ',' := by rcases hclose with rfl | rfl <;> decide
      rw [printList] at enough ⊢
      rw [items?, hsum hends (by omega), Option.bind_eq_bind, Option.bind_some]
      simp [hcomma, hitem]
    · have hends : EndsSum (", ".toList ++ ((printList (e' :: items)).toList ++ close :: rest)) :=
        endsSum_cons (by decide) _
      have hcomma : ", ".length = 2 := rfl
      simp only [printList_cons_cons, String.length_append, String.toList_append, List.append_assoc] at enough ⊢
      rw [items?, hsum hends (by omega), Option.bind_eq_bind, Option.bind_some]
      have hmore : items? close fuel ((printList (e' :: items)).toList ++ close :: rest) = some (e' :: items, rest) :=
        ih (List.cons_ne_nil _ _) hitems (by omega)
      show (items? close fuel ((printList (e' :: items)).toList ++ close :: rest) >>= fun (more, rest) =>
        some (ofSummands e.summands :: more, rest)) = _
      rw [hmore, hitem]
      rfl

/-- A printed list is read back. -/
theorem reads_list? {items : List Expr} (h : ∀ e ∈ items, e.ReadsItem) {fuel : Nat}
    (enough : 3 * (printList items).length + 4 ≤ fuel) (rest : List Char) :
    list? close fuel ((printList items).toList ++ close :: rest) = some (items, rest) := by
  obtain ⟨fuel, rfl⟩ : ∃ more, fuel = more + 1 := ⟨fuel - 1, by omega⟩
  rcases items with _ | ⟨e, items⟩
  · rw [list?, printList]
    simp
  · have hread : items? close fuel ((printList (e :: items)).toList ++ close :: rest) = some (e :: items, rest) :=
      reads_items? hclose (List.cons_ne_nil e items) h (by omega) rest
    rw [list?, if_neg, hread]
    intro hhead
    obtain ⟨s, hs⟩ := List.head?_eq_some_iff.mp (eq_of_beq hhead)
    obtain ⟨fuel, rfl⟩ : ∃ more, fuel = more + 1 := ⟨fuel - 1, by omega⟩
    rw [hs, items?, sum?_close hclose] at hread
    cases hread

end Lists

/-! ## Every expression -/

/-- A name in front of an operand is read, `null` being a value of its own. -/
theorem front?_name {name : String} (h : isName name = true) {rest : List Char} (ends : EndsName rest) (fuel : Nat) :
    front? (fuel + 1) (name.toList ++ rest) = some (if name == "null" then .null else .ident name, rest) := by
  have hread := nameText?_name h ends
  obtain ⟨c, s, hs, hc⟩ := head_of_isName h
  have hopen : c ≠ '"' ∧ c ≠ '[' ∧ c ≠ '(' := by
    refine ⟨?_, ?_, ?_⟩ <;> rintro rfl <;> revert hc <;> decide
  rw [hs, List.cons_append] at hread ⊢
  rw [front?.eq_def]
  simp [hopen, hread]

/-- A name is read back. -/
theorem readsOperand_ident {name : String} (h : isName name = true) (noNull : name ≠ "null") :
    ReadsOperand (.ident name) := by
  obtain ⟨c, s, hs, -⟩ := head_of_isName h
  refine readsOperand_of_front (fun fuel rest ends _ => ?_) ?_
  · rw [printOperand, front?_name h ends, if_neg (by simpa using noNull)]
  · rw [printOperand, ← String.length_toList, hs]
    exact Nat.zero_lt_succ _

theorem readsOperand_null : ReadsOperand .null :=
  readsOperand_of_front (fun _ _ ends _ => @front?_name "null" (by decide) _ ends _) (by decide)

/-- A string literal is read back. -/
theorem readsOperand_str (value : String) : ReadsOperand (.str value) := by
  refine readsOperand_of_front (fun fuel rest _ _ => ?_) ?_
  · rw [printOperand, toList_quote, List.cons_append, List.append_assoc, List.singleton_append, front?,
      literalText?_escape, Option.bind_eq_bind, Option.bind_some]
    dsimp only
    rw [String.ofList_toList]
  · rw [printOperand, ← String.length_toList, toList_quote]
    exact Nat.zero_lt_succ _

/-- A property is read back if its object is. -/
theorem readsOperand_member {object : Expr} (hobject : ReadsOperand object) {property : String}
    (hproperty : isName property = true) : ReadsOperand (.member object property) := by
  intro left fuel rest ends enough
  have hdot : ".".length = 1 := rfl
  simp only [printOperand, String.length_append, String.toList_append, List.append_assoc] at enough ⊢
  have hends : EndsName (".".toList ++ (property.toList ++ rest)) := endsName_of_mem (by decide) _
  obtain ⟨fuel', hleft, hread⟩ := @hobject (left + 1) fuel _ hends (by omega)
  obtain ⟨fuel', rfl⟩ : ∃ more, fuel' = more + 1 := ⟨fuel' - 1, by omega⟩
  refine ⟨fuel', by omega, ?_⟩
  rw [hread]
  show (nameText? (property.toList ++ rest) >>= fun (name, rest) => applied? fuel' (.member object name) rest) = _
  rw [nameText?_name hproperty ends]
  rfl

/-- A call is read back if its callee and its arguments are. -/
theorem readsOperand_call {callee : Expr} (hcallee : ReadsOperand callee) {args : List Expr}
    (hargs : ∀ e ∈ args, e.ReadsItem) : ReadsOperand (.call callee args) := by
  intro left fuel rest ends enough
  have hopen : "(".length = 1 := rfl
  have hclose : ")".length = 1 := rfl
  simp only [printOperand, String.length_append, String.toList_append, List.append_assoc] at enough ⊢
  have hends : EndsName ("(".toList ++ ((printList args).toList ++ (")".toList ++ rest))) :=
    endsName_of_mem (by decide) _
  obtain ⟨fuel', hleft, hread⟩ := @hcallee (left + 3 * (printList args).length + 5) fuel _ hends (by omega)
  obtain ⟨fuel', rfl⟩ : ∃ more, fuel' = more + 1 := ⟨fuel' - 1, by omega⟩
  refine ⟨fuel', by omega, ?_⟩
  rw [hread]
  show (list? ')' fuel' ((printList args).toList ++ ')' :: rest) >>= fun (args, rest) =>
    applied? fuel' (.call callee args) rest) = _
  rw [reads_list? (.inl rfl) hargs (by omega)]
  rfl

/-- A list is read back if its items are. -/
theorem readsOperand_array {items : List Expr} (hitems : ∀ e ∈ items, e.ReadsItem) : ReadsOperand (.array items) := by
  have hopen : "[".length = 1 := rfl
  have hclose : "]".length = 1 := rfl
  refine readsOperand_of_front (fun fuel rest ends enough => ?_) ?_
  · simp only [printOperand, String.length_append, String.toList_append, List.append_assoc] at enough ⊢
    show (list? ']' fuel ((printList items).toList ++ ']' :: rest) >>= fun (items, rest) =>
      some (Expr.array items, rest)) = _
    rw [reads_list? (.inr rfl) hitems (by omega)]
    rfl
  · simp only [printOperand, String.length_append]
    omega

/-- A sum in parentheses is read back if it is as a sum. -/
theorem readsOperand_concat {operands : List Expr} (h : ReadsSum (printSum operands) operands) :
    ReadsOperand (.concat operands) := by
  have hopen : "(".length = 1 := rfl
  have hclose : ")".length = 1 := rfl
  refine readsOperand_of_front (fun fuel rest ends enough => ?_) ?_
  · simp only [printOperand, String.length_append, String.toList_append, List.append_assoc] at enough ⊢
    have hread := @h fuel (')' :: rest) (endsSum_cons (by decide) rest) (by omega)
    show (sum? fuel ((printSum operands).toList ++ ')' :: rest) >>= fun (parts, rest) => _) = _
    rw [hread]
    rfl
  · simp only [printOperand, String.length_append]
    omega

/-- What is no sum is its own only operand. -/
theorem readsSum_of_single {e : Expr} (hprint : e.print = printSum e.summands) (single : e.summands = [e])
    (h : ReadsOperand e) : ReadsSum e.print e.summands := by
  rw [hprint, single]
  exact readsSum_printSum (List.cons_ne_nil _ _) (List.forall_mem_singleton.mpr h)

/-- A legible expression is read back as an operand and as a sum. -/
theorem reads {e : Expr} (legible : e.Legible) : ReadsOperand e ∧ ReadsSum e.print e.summands := by
  induction e using exprInduction with
  | ident name =>
    obtain ⟨hname, hnull⟩ : isName name = true ∧ name ≠ "null" := allParts_ident.mp legible
    have hread := readsOperand_ident hname hnull
    exact ⟨hread, readsSum_of_single rfl rfl hread⟩
  | member object property ih =>
    obtain ⟨hproperty, hobject⟩ : isName property = true ∧ object.Legible := allParts_member.mp legible
    have hread := readsOperand_member (ih hobject).1 hproperty
    exact ⟨hread, readsSum_of_single rfl rfl hread⟩
  | call callee args ihcallee ihargs =>
    obtain ⟨-, hcallee, hargs⟩ : True ∧ callee.Legible ∧ ∀ e ∈ args, e.Legible := allParts_call.mp legible
    have hread := readsOperand_call (ihcallee hcallee).1 fun e he =>
      ⟨(ihargs e he (hargs e he)).2, ofSummands_summands (hargs e he)⟩
    exact ⟨hread, readsSum_of_single rfl rfl hread⟩
  | str value => exact ⟨readsOperand_str value, readsSum_of_single rfl rfl (readsOperand_str value)⟩
  | null => exact ⟨readsOperand_null, readsSum_of_single rfl rfl readsOperand_null⟩
  | array items ih =>
    obtain ⟨-, hitems⟩ : True ∧ ∀ e ∈ items, e.Legible := allParts_array.mp legible
    have hread := readsOperand_array fun e he =>
      ⟨(ih e he (hitems e he)).2, ofSummands_summands (hitems e he)⟩
    exact ⟨hread, readsSum_of_single rfl rfl hread⟩
  | concat operands ih =>
    obtain ⟨hlength, hoperands⟩ : 2 ≤ operands.length ∧ ∀ e ∈ operands, e.Legible := allParts_concat.mp legible
    have hread : ReadsSum (printSum operands) operands :=
      readsSum_printSum (List.ne_nil_of_length_pos (by omega)) fun e he => (ih e he (hoperands e he)).1
    exact ⟨readsOperand_concat hread, hread⟩
  | raw code => exact (allParts_raw.mp legible).elim

/-- The first expression of a text is read back where it ends. -/
theorem first?_print {e : Expr} (legible : e.Legible) {rest : List Char} (ends : EndsSum rest) :
    first? (e.print.toList ++ rest) = some (e, rest) := by
  have hread : sum? (3 * (e.print.toList ++ rest).length + 2) (e.print.toList ++ rest) = some (e.summands, rest) :=
    (reads legible).2 ends (by rw [List.length_append, String.length_toList]; omega)
  rw [first?, hread, Option.map_some]
  dsimp only
  rw [ofSummands_summands legible]

/-- A printed expression is read back. -/
theorem read?_print {e : Expr} (legible : e.Legible) : read? e.print = some e := by
  have hread := @first?_print e legible [] nofun
  rw [List.append_nil] at hread
  rw [read?, hread]

end Expr

/-! ## Statements -/

namespace Stmt

/-- The expression before a semicolon at the end of a text. -/
def value? (s : List Char) : Option Expr :=
  match Expr.first? s with
  | some (e, [';']) => some e
  | _ => none

/-- The declaration that a text is. -/
def declaration? : List Char → Option Stmt
  | 'v' :: 'a' :: 'r' :: ' ' :: s => do
    let (name, rest) ← nameText? s
    match rest with
    | ' ' :: '=' :: ' ' :: rest => (value? rest).map (Stmt.var name)
    | _ => none
  | _ => none

/-- The statement that a text is: an expression with a semicolon behind it, or else a declaration. -/
def read? (text : String) : Option Stmt := (value? text.toList).map .expr <|> declaration? text.toList

/-- The name and the expression of a statement can be read back. -/
def Legible : Stmt → Prop
  | .var name init => isName name = true ∧ init.Legible
  | .expr e => e.Legible

instance : DecidablePred Legible
  | .var name init => inferInstanceAs (Decidable (isName name = true ∧ init.Legible))
  | .expr e => inferInstanceAs (Decidable e.Legible)

/-- The value of a statement is read back. -/
theorem value?_print {e : Expr} (legible : e.Legible) : value? (e.print.toList ++ [';']) = some e := by
  rw [value?, Expr.first?_print legible (Expr.endsSum_cons (by decide) [])]
  rfl

/-- A declaration is no expression: behind `var` stands no semicolon. -/
theorem value?_declaration {name : String} (h : isName name = true) (rest : List Char) :
    value? ("var ".toList ++ (name.toList ++ rest)) = none := by
  obtain ⟨c, s, hs, hc⟩ := head_of_isName h
  have hplus : c ≠ '+' := by
    rintro rfl
    revert hc
    decide
  have hread : Expr.operand? (3 * ("var ".toList ++ (name.toList ++ rest)).length + 1)
      ("var ".toList ++ (name.toList ++ rest)) = some (.ident "var", ' ' :: (name.toList ++ rest)) :=
    (@Expr.readsOperand_ident "var" (by decide) (by decide)).of_ends (by rintro _ ⟨⟩; decide) (by
      have hvar : (Expr.ident "var").printOperand.length = 3 := rfl
      have hlength : ("var ".toList ++ (name.toList ++ rest)).length = 4 + (name.toList ++ rest).length :=
        List.length_append
      omega)
  rw [value?, Expr.first?, Expr.sum?, hread, hs]
  simp [hplus]

/-- A printed statement is read back. -/
theorem read?_print {stmt : Stmt} (legible : stmt.Legible) : read? stmt.print = some stmt := by
  cases stmt with
  | var name init =>
    obtain ⟨hname, hinit⟩ : isName name = true ∧ init.Legible := legible
    have hprint : (Stmt.var name init).print.toList =
        "var ".toList ++ (name.toList ++ (" = ".toList ++ (init.print.toList ++ [';']))) := by
      simp [print]
    have hends : EndsName (" = ".toList ++ (init.print.toList ++ [';'])) :=
      Expr.endsName_of_mem (c := ' ') (by decide) _
    have hdeclaration :
        declaration? ("var ".toList ++ (name.toList ++ (" = ".toList ++ (init.print.toList ++ [';'])))) =
        some (.var name init) := by
      show (nameText? (name.toList ++ (" = ".toList ++ (init.print.toList ++ [';']))) >>= fun (name, rest) => _) = _
      rw [nameText?_name hname hends, Option.bind_eq_bind, Option.bind_some]
      show (value? (init.print.toList ++ [';'])).map (Stmt.var name) = _
      rw [value?_print hinit, Option.map_some]
    rw [read?, hprint, value?_declaration hname, hdeclaration]
    rfl
  | expr e =>
    have hprint : (Stmt.expr e).print.toList = e.print.toList ++ [';'] := by simp [print]
    rw [read?, hprint, value?_print legible]
    rfl

end Stmt

/-- **Printed script is unambiguous.** Legible expressions and statements are read back from their text, however deep
they are nested; so no two of them are printed alike. -/
theorem printed_script_unambiguous :
    (∀ e : Expr, e.Legible → Expr.read? e.print = some e) ∧
      (∀ stmt : Stmt, stmt.Legible → Stmt.read? stmt.print = some stmt) ∧
      (∀ e e' : Expr, e.Legible → e'.Legible → e.print = e'.print → e = e') ∧
      ∀ stmt stmt' : Stmt, stmt.Legible → stmt'.Legible → stmt.print = stmt'.print → stmt = stmt' := by
  refine ⟨fun _ => Expr.read?_print, fun _ => Stmt.read?_print, fun e e' he he' heq => ?_, fun s s' hs hs' heq => ?_⟩
  · have hread := Expr.read?_print he
    rw [heq, Expr.read?_print he'] at hread
    exact (Option.some.inj hread).symm
  · have hread := Stmt.read?_print hs
    rw [heq, Stmt.read?_print hs'] at hread
    exact (Option.some.inj hread).symm

/-- A property of a sum in parentheses, called as an operand of another sum. -/
theorem sum_of_sum_read_back :
    ∃ stmt : Stmt, stmt.print = "var total = \"a + \\\"\" + (a + b).join(null, [c + \")\"]);" ∧ stmt.Legible ∧
      Stmt.read? stmt.print = some stmt := by
  refine ⟨.var "total" (.concat [.str "a + \"", .call (.member (.concat [.ident "a", .ident "b"]) "join")
    [.null, .array [.concat [.ident "c", .str ")"]]]]), by decide, ?legible, ?read⟩
  case legible => decide
  case read => exact printed_script_unambiguous.2.1 _ (by decide)

end WidgetTemplates.Script
