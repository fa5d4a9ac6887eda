import WidgetTemplates.Proofs.Script.Brackets

/-!
# Pieces of a script

A reading cuts a text at the commas that stand outside brackets, strings and comments (`Reading.pieces?`). A text in
which no comma separates is one piece (`OnePiece`): so is whatever stands in brackets, and so is a string.
-/

namespace WidgetTemplates.Script

namespace Reading

/-- Whether the character that has just been read is a comma outside of everything. -/
def isBehindSeparator (r : Reading) (c : Char) : Bool := c == ',' && r.region == .script && r.opened.isEmpty

/-- The pieces of a text between the commas outside brackets, strings and comments; nothing if it closes a bracket that
is not the innermost one. -/
def pieces? (r : Reading) : List Char → Option (List (List Char))
  | [] => some [[]]
  | c :: rest =>
    (r.next c).bind fun behind =>
      (behind.pieces? rest).map fun pieces =>
        if behind.isBehindSeparator c then [] :: pieces else pieces.modifyHead (c :: ·)

variable {r r' r'' : Reading} {c : Char} {text more : List Char} {pieces pieces' : List (List Char)}

/-- A comma that separates starts a new piece. -/
theorem pieces?_separator (h : r.next c = some r') (separates : r'.isBehindSeparator c = true)
    (rest : r'.pieces? text = some pieces) : r.pieces? (c :: text) = some ([] :: pieces) := by
  simp [pieces?, h, rest, separates]

/-- Any other character joins the first piece. -/
theorem pieces?_char (h : r.next c = some r') (joins : r'.isBehindSeparator c = false)
    (rest : r'.pieces? text = some pieces) : r.pieces? (c :: text) = some (pieces.modifyHead (c :: ·)) := by
  simp [pieces?, h, rest, joins]

/-- A text that can be read can be cut, and there is a first piece. -/
theorem exists_pieces? (h : r.run text = some r') : ∃ first rest, r.pieces? text = some (first :: rest) := by
  induction text generalizing r with
  | nil => exact ⟨[], [], rfl⟩
  | cons c text ih =>
    obtain ⟨behind, hnext, hrun⟩ := Option.bind_eq_some_iff.mp h
    obtain ⟨first, rest, hrest⟩ := ih hrun
    rcases hseparates : behind.isBehindSeparator c
    · exact ⟨c :: first, rest, pieces?_char hnext hseparates hrest⟩
    · exact ⟨[], first :: rest, pieces?_separator hnext hseparates hrest⟩

/-- The pieces with commas between them are the text. -/
theorem intercalate_pieces? (h : r.pieces? text = some pieces) : [','].intercalate pieces = text := by
  induction text generalizing r pieces with
  | nil =>
    obtain rfl := Option.some.inj h
    rfl
  | cons c text ih =>
    obtain ⟨behind, hnext, hrest⟩ := Option.bind_eq_some_iff.mp h
    obtain ⟨inner, hinner, hpieces⟩ := Option.map_eq_some_iff.mp hrest
    have htext := ih hinner
    subst htext hpieces
    rcases inner with _ | ⟨first, inner⟩
    · cases hinner
    · split
      · next hseparates =>
        obtain rfl : c = ',' := by
          simp only [isBehindSeparator, Bool.and_eq_true, beq_iff_eq] at hseparates
          exact hseparates.1.1
        simp [List.intercalate]
      · rcases inner with _ | ⟨second, inner⟩ <;> simp [List.intercalate]

/-- The pieces on both sides of a separator. -/
theorem pieces?_append_separator (h : r.run text = some r') (front : r.pieces? text = some pieces)
    (hnext : r'.next c = some r'') (separates : r''.isBehindSeparator c = true)
    (back : r''.pieces? more = some pieces') : r.pieces? (text ++ c :: more) = some (pieces ++ pieces') := by
  induction text generalizing r pieces with
  | nil =>
    obtain rfl := Option.some.inj h
    obtain rfl := Option.some.inj front
    exact pieces?_separator hnext separates back
  | cons d text ih =>
    obtain ⟨behind, hd, hrun⟩ := Option.bind_eq_some_iff.mp h
    obtain ⟨first, rest, hrest⟩ := exists_pieces? hrun
    have hboth := ih hrun hrest
    rcases hseparates : behind.isBehindSeparator d
    · rw [pieces?_char hd hseparates hrest] at front
      obtain rfl := Option.some.inj front
      exact pieces?_char hd hseparates hboth
    · rw [pieces?_separator hd hseparates hrest] at front
      obtain rfl := Option.some.inj front
      exact pieces?_separator hd hseparates hboth

/-- A piece that is the only one is the text. -/
theorem eq_of_pieces?_singleton {piece : List Char} (h : r.pieces? text = some [piece]) : piece = text := by
  simpa [List.intercalate] using intercalate_pieces? h

/-- More answers to come do not change the pieces. -/
theorem pieces?_within (h : r.run text = some r') (slashes : List Slash) :
    (r.within slashes []).pieces? text = r.pieces? text := by
  induction text generalizing r with
  | nil => rfl
  | cons c text ih =>
    obtain ⟨behind, hnext, hrun⟩ := Option.bind_eq_some_iff.mp h
    have hbehind : (behind.within slashes []).isBehindSeparator c = behind.isBehindSeparator c := by
      simp [isBehindSeparator, Reading.within]
    rw [Reading.pieces?, Reading.pieces?, hnext, next_within hnext]
    rw [Option.bind_some, Option.bind_some, ih hrun, hbehind]

/-! ## Texts in one piece -/

/-- A text is read from one reading to another, and none of its commas separates. -/
inductive Joins : Reading → List Char → Reading → Prop
  | nil (r : Reading) : Joins r [] r
  | cons {r r' r'' : Reading} {c : Char} {text : List Char} (next : r.next c = some r')
    (joins : r'.isBehindSeparator c = false) (after : Joins r' text r'') : Joins r (c :: text) r''

namespace Joins

theorem run (h : Joins r text r') : r.run text = some r' := by
  induction h with
  | nil => rfl
  | cons next _ _ ih => rw [run_of_next next, ih]

/-- A text in which no comma separates is one piece. -/
theorem pieces? (h : Joins r text r') : r.pieces? text = some [text] := by
  induction h with
  | nil => rfl
  | cons next joins _ ih => exact pieces?_char next joins ih

/-- No comma separates in two such texts in a row. -/
theorem append (h : Joins r text r') (h' : Joins r' more r'') : Joins r (text ++ more) r'' := by
  induction h with
  | nil => exact h'
  | cons next joins _ ih => exact .cons next joins (ih h')

/-- More answers and more brackets around a text do not make its commas separate. -/
theorem within (h : Joins r text r') (slashes : List Slash) (opened : List Bracket) :
    Joins (r.within slashes opened) text (r'.within slashes opened) := by
  induction h with
  | nil => exact .nil _
  | cons next joins _ ih =>
    refine .cons (next_within next) ?_ ih
    simp only [isBehindSeparator, Reading.within, Bool.and_eq_false_iff, List.isEmpty_eq_false_iff] at joins ⊢
    exact joins.imp_right fun h => by simp [h]

/-- Inside a bracket no comma separates. -/
theorem of_run (h : r.run text = some r') (slashes : List Slash) (b : Bracket) (opened : List Bracket) :
    Joins (r.within slashes (b :: opened)) text (r'.within slashes (b :: opened)) := by
  induction text generalizing r with
  | nil =>
    obtain rfl := Option.some.inj h
    exact .nil _
  | cons c text ih =>
    obtain ⟨behind, hnext, hrun⟩ := Option.bind_eq_some_iff.mp h
    exact .cons (next_within hnext) (by simp [isBehindSeparator, Reading.within]) (ih hrun)

end Joins

end Reading

/-- The reading of a text that does not end a string stays inside the string. -/
theorem StaysQuoted.joins {text : List Char} (h : StaysQuoted text) :
    Reading.Joins ⟨[], .quoted '"' false, []⟩ text ⟨[], .quoted '"' false, []⟩ := by
  induction h with
  | nil => exact .nil _
  | char quiet _ ih => exact .cons (by simp [Reading.next, quiet]) (by simp [Reading.isBehindSeparator]) ih
  | escape c _ ih =>
    refine .cons rfl (by simp [Reading.isBehindSeparator]) (.cons ?_ (by simp [Reading.isBehindSeparator]) ih)
    simp [Reading.next]

/-- A text that is balanced by these answers and in which no comma separates. -/
def OnePiece (slashes : List Slash) (text : List Char) : Prop :=
  Reading.Joins ⟨slashes, .script, []⟩ text ⟨[], .script, []⟩

section

variable {slashes slashes' : List Slash} {text more : List Char}

namespace OnePiece

theorem balancedBy (h : OnePiece slashes text) : BalancedBy slashes text := h.run

theorem pieces? (h : OnePiece slashes text) : Reading.pieces? ⟨slashes, .script, []⟩ text = some [text] :=
  Reading.Joins.pieces? h

/-- No comma separates between two pieces that are put together. -/
theorem append (h : OnePiece slashes text) (h' : OnePiece slashes' more) :
    OnePiece (slashes ++ slashes') (text ++ more) := by
  have hfirst : Reading.Joins ⟨slashes ++ slashes', .script, []⟩ text ⟨slashes', .script, []⟩ := by
    simpa [Reading.within] using h.within slashes' []
  exact hfirst.append h'

/-- Plain text without commas is one piece. -/
theorem of_plain (plain : Plain text) (comma : ',' ∉ text) : OnePiece [] text := by
  induction text with
  | nil => exact .nil _
  | cons c text ih =>
    rw [Plain, List.forall_mem_cons] at plain
    rw [List.mem_cons, not_or] at comma
    refine .cons (Reading.inScript_of_isPlain plain.1 _) ?_ (ih plain.2 comma.2)
    simp [Reading.isBehindSeparator, Ne.symm comma.1]

/-- What stands in brackets is one piece, whatever it holds. -/
theorem enclosed {start stop : Char} {b : Bracket} (comma : stop ≠ ',')
    (opens : Reading.next ⟨slashes, .script, []⟩ start = some ⟨slashes, .script, [b]⟩)
    (closes : Reading.next ⟨[], .script, [b]⟩ stop = some ⟨[], .script, []⟩) (h : BalancedBy slashes text) :
    OnePiece slashes ([start] ++ text ++ [stop]) := by
  have hinside : Reading.Joins ⟨slashes, .script, [b]⟩ text ⟨[], .script, [b]⟩ := by
    simpa [Reading.within] using Reading.Joins.of_run h [] b []
  have hstart : Reading.Joins ⟨slashes, .script, []⟩ [start] ⟨slashes, .script, [b]⟩ :=
    .cons opens (by simp [Reading.isBehindSeparator]) (.nil _)
  have hstop : Reading.Joins ⟨[], .script, [b]⟩ [stop] ⟨[], .script, []⟩ :=
    .cons closes (by simp [Reading.isBehindSeparator, comma]) (.nil _)
  exact (hstart.append hinside).append hstop

theorem parens (h : BalancedBy slashes text) : OnePiece slashes (['('] ++ text ++ [')']) :=
  enclosed (b := .round) (by decide) rfl rfl h

theorem squares (h : BalancedBy slashes text) : OnePiece slashes (['['] ++ text ++ [']']) :=
  enclosed (b := .square) (by decide) rfl rfl h

/-- No comma of a string separates. -/
theorem quote (s : String) : OnePiece [] (quote s).toList := by
  have hstop : Reading.Joins ⟨[], .quoted '"' false, []⟩ ['"'] ⟨[], .script, []⟩ := .cons rfl rfl (.nil _)
  rw [toList_quote]
  exact .cons rfl rfl ((staysQuoted_escape s.toList).joins.append hstop)

end OnePiece

end

end WidgetTemplates.Script
