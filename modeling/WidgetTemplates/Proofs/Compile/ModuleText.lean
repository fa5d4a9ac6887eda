import WidgetTemplates.Compile.Compile
import WidgetTemplates.Proofs.Compile.Declared
import WidgetTemplates.Proofs.Script.QuotedText
import WidgetTemplates.Proofs.Text.Search

/-!
# The text of a module

A module is printed line by line: `"use strict";`, a line for each variable, the head of the render function, its lines,
and the end of the function (`lines_print`). That says what the text is made of, whatever the parts are. If no part has
a line break of its own, the parts can be read back from the text: `declarations?` reads the variables, and `read?` the
whole module (`read?_print`).

The code of an expression may have line breaks, so the lines of a render function may be broken. A variable never
is: its name is the name of a helper, and its initializer is put together from quoted texts
(`Declaration.Follows.inline`). So the variables of every compiled template can be read from its text, and they form
a header (`declarations?_compile`). -/

namespace WidgetTemplates.Compile

namespace RenderModule

/-! ## Lines -/

/-- The lines of a text, without the line breaks. -/
def lines (text : String) : List (List Char) := text.toList.splitOn '\n'

/-- The lines of a text without line breaks are the text. -/
theorem lines_of_notMem {text : String} (h : '\n' ∉ text.toList) : lines text = [text.toList] :=
  List.splitOn_eq_singleton h

/-- At a line break the lines of a text fall apart. -/
theorem lines_append_break (s t : String) : lines (s ++ "\n" ++ t) = lines s ++ lines t := by
  have htext : (s ++ "\n" ++ t).toList = s.toList ++ '\n' :: t.toList := by
    rw [String.toList_append, String.toList_append, List.append_assoc]
    rfl
  rw [lines, htext]
  exact List.splitOnP_append_cons _ _ (beq_self_eq_true '\n')

/-- Texts that are printed with a line break behind each. -/
theorem lines_join {α : Type} (f : α → String) (xs : List α) (t : String) :
    lines (String.join (xs.map fun x => f x ++ "\n") ++ t) = xs.flatMap (fun x => lines (f x)) ++ lines t := by
  induction xs with
  | nil => rw [List.map_nil, String.join_nil, String.empty_append, List.flatMap_nil, List.nil_append]
  | cons x xs ih =>
    rw [List.map_cons, String.join_cons, String.append_assoc, lines_append_break, ih, List.flatMap_cons,
      List.append_assoc]

/-- **The lines of the text of a module** are those of its parts: two for the mode and the head of the render function,
one for each variable and one for each line of the render function unless it has line breaks itself, and the end of the
render function. -/
theorem lines_print (m : RenderModule) :
    lines m.print =
      "\"use strict\";".toList ::
        (m.declarations.flatMap fun d => lines ("var " ++ d.name ++ " = " ++ d.code ++ ";")) ++
      "module.exports = function render(data, out) \x7b".toList ::
        (m.body.flatMap fun l => lines (String.ofList (List.replicate (2 * l.depth) ' ') ++ l.text)) ++
      ["\x7d;".toList, []] := by
  let declared (d : Declaration) : String := "var " ++ d.name ++ " = " ++ d.code ++ ";"
  let written (l : Line) : String := String.ofList (List.replicate (2 * l.depth) ' ') ++ l.text
  have hdeclared : printDeclaration = fun d => declared d ++ "\n" := by
    funext d
    simp only [printDeclaration, declared, String.append_assoc]
    rfl
  -- every part ends with a line break, so the lines of the whole are those of the parts
  have hprint : m.print = "\"use strict\";" ++ "\n" ++ (String.join (m.declarations.map fun d => declared d ++ "\n") ++
      ("module.exports = function render(data, out) \x7b" ++ "\n" ++
        (String.join (m.body.map fun l => written l ++ "\n") ++ ("\x7d;" ++ "\n" ++ "")))) := by
    have hparts : m.print = "\"use strict\";\n" ++ String.join (m.declarations.map printDeclaration) ++
        "module.exports = function render(data, out) \x7b\n" ++ String.join (m.body.map printLine) ++ "\x7d;\n" := rfl
    rw [hparts, hdeclared]
    simp only [String.append_assoc]
    rfl
  have hlast : lines ("\x7d;" ++ "\n" ++ "") = ["\x7d;".toList, []] := by decide
  have hmode : lines "\"use strict\";" = ["\"use strict\";".toList] := lines_of_notMem (by decide)
  have hhead : lines "module.exports = function render(data, out) \x7b" =
      ["module.exports = function render(data, out) \x7b".toList] := lines_of_notMem (by decide)
  rw [hprint, lines_append_break, lines_join, lines_append_break, lines_join, hlast, hmode, hhead]
  simp only [List.cons_append, List.nil_append, List.append_assoc]
  rfl

/-! ## Reading back -/

/-- The variable that a line declares. -/
def declaration? (line : List Char) : Option Declaration := do
  let rest ← Text.dropStart? "var ".toList line
  let code ← Text.dropStart? " = ".toList (rest.dropWhile (· != ' '))
  let code ← Text.dropEnd? ";".toList code
  some ⟨String.ofList (rest.takeWhile (· != ' ')), String.ofList code⟩

/-- The line of a render function, indented by two blanks for each level. -/
def bodyLine (line : List Char) : Line :=
  ⟨(line.takeWhile (· == ' ')).length / 2, String.ofList (line.dropWhile (· == ' '))⟩

/-- The line that starts the render function. -/
def head : List Char := "module.exports = function render(data, out) \x7b".toList

/-- The variables that the text of a module declares. -/
def declarations? (text : String) : Option (List Declaration) :=
  ((lines text).tail.takeWhile (· != head)).mapM declaration?

/-- The module of a text: behind the head of the render function come its lines, and then its end and an empty line. -/
def read? (text : String) : Option RenderModule := do
  let declarations ← declarations? text
  let body := ((lines text).tail.dropWhile (· != head)).tail.dropLast.dropLast
  some ⟨declarations, body.map bodyLine⟩

end RenderModule

/-- A variable on a line of its own: there is no blank in its name, and no line break. -/
structure Declaration.Inline (d : Declaration) : Prop where
  name : ' ' ∉ d.name.toList ∧ '\n' ∉ d.name.toList
  code : '\n' ∉ d.code.toList

/-- A line that is not broken and whose text does not go on with the indentation. -/
structure Line.Inline (l : Line) : Prop where
  start : l.text.toList.head? ≠ some ' '
  text : '\n' ∉ l.text.toList

namespace RenderModule

/-- The characters of the line of a variable. -/
theorem toList_declared (d : Declaration) : ("var " ++ d.name ++ " = " ++ d.code ++ ";").toList =
    "var ".toList ++ (d.name.toList ++ (" = ".toList ++ (d.code.toList ++ ";".toList))) := by
  simp only [String.toList_append, List.append_assoc]

/-- A variable is read back from its line. -/
theorem declaration?_line {d : Declaration} (h : d.Inline) :
    declaration? ("var " ++ d.name ++ " = " ++ d.code ++ ";").toList = some d := by
  have hplain : ∀ c ∈ d.name.toList, (c != ' ') = true := fun c hc => bne_iff_ne.mpr fun heq => h.name.1 (heq ▸ hc)
  have hbehind : " = ".toList ++ (d.code.toList ++ ";".toList) =
      ' ' :: ("= ".toList ++ (d.code.toList ++ ";".toList)) := rfl
  rw [declaration?, toList_declared, Text.dropStart?_eq_some_iff.mpr rfl, Option.bind_eq_bind, Option.bind_some,
    List.dropWhile_append_of_pos hplain, hbehind, Text.takeWhile_append_cons hplain (by decide),
    List.dropWhile_cons_of_neg (by decide), ← hbehind, Text.dropStart?_eq_some_iff.mpr rfl, Option.bind_some,
    Text.dropEnd?_eq_some_iff.mpr rfl, Option.bind_some, String.ofList_toList, String.ofList_toList]

/-- A line of a render function is read back. -/
theorem bodyLine_line {l : Line} (h : l.Inline) :
    bodyLine (String.ofList (List.replicate (2 * l.depth) ' ') ++ l.text).toList = l := by
  have hstop : l.text.toList.takeWhile (· == ' ') = [] ∧ l.text.toList.dropWhile (· == ' ') = l.text.toList := by
    have hstart := h.start
    generalize l.text.toList = text at hstart
    rcases text with _ | ⟨c, rest⟩
    · exact ⟨rfl, rfl⟩
    · have hc : ¬ (c == ' ') = true := fun heq => hstart (congrArg some (beq_iff_eq.mp heq))
      exact ⟨List.takeWhile_cons_of_neg hc, List.dropWhile_cons_of_neg hc⟩
  have hblank : ∀ c ∈ List.replicate (2 * l.depth) ' ', (c == ' ') = true := fun c hc =>
    beq_iff_eq.mpr (List.eq_of_mem_replicate hc)
  rw [bodyLine, String.toList_append, String.toList_ofList, List.takeWhile_append_of_pos hblank,
    List.dropWhile_append_of_pos hblank, hstop.1, hstop.2, List.append_nil, List.length_replicate, String.ofList_toList,
    Nat.mul_div_cancel_left _ Nat.two_pos]

/-- Variables on lines of their own stand before the head of the render function, each on its line. -/
theorem lines_print_of_inline {m : RenderModule} (inline : ∀ d ∈ m.declarations, d.Inline) :
    (lines m.print).tail =
      (m.declarations.map fun d => ("var " ++ d.name ++ " = " ++ d.code ++ ";").toList) ++ head ::
        ((m.body.flatMap fun l => lines (String.ofList (List.replicate (2 * l.depth) ' ') ++ l.text)) ++
          ["\x7d;".toList, []]) := by
  have hdeclared : (m.declarations.flatMap fun d => lines ("var " ++ d.name ++ " = " ++ d.code ++ ";")) =
      m.declarations.map fun d => ("var " ++ d.name ++ " = " ++ d.code ++ ";").toList := by
    rw [List.map_eq_flatMap]
    refine List.flatMap_congr fun d hd => lines_of_notMem ?_
    simp [(inline d hd).name.2, (inline d hd).code]
  rw [lines_print, hdeclared]
  simp only [List.cons_append, List.tail_cons, List.append_assoc]
  rfl

/-- No line that declares a variable is the head of the render function. -/
theorem ne_head_of_mem {ds : List Declaration} {line : List Char}
    (h : line ∈ ds.map fun d => ("var " ++ d.name ++ " = " ++ d.code ++ ";").toList) : (line != head) = true := by
  obtain ⟨d, -, rfl⟩ := List.mem_map.mp h
  refine bne_iff_ne.mpr fun heq => ?_
  rw [toList_declared] at heq
  have hhead : head.head? = some 'm' := by decide
  have hdeclared := congrArg List.head? heq
  rw [hhead] at hdeclared
  exact absurd (Option.some.inj hdeclared) (by decide)

/-- **The variables are read back** from the text of a module, whatever the lines of its render function are. -/
theorem declarations?_print {m : RenderModule} (inline : ∀ d ∈ m.declarations, d.Inline) :
    declarations? m.print = some m.declarations := by
  have hread : ∀ {ds : List Declaration}, (∀ d ∈ ds, d.Inline) →
      (ds.map fun d => ("var " ++ d.name ++ " = " ++ d.code ++ ";").toList).mapM declaration? = some ds := by
    intro ds hds
    induction ds with
    | nil => rfl
    | cons d ds ih =>
      obtain ⟨hd, hrest⟩ := List.forall_mem_cons.mp hds
      rw [List.map_cons, List.mapM_cons, declaration?_line hd, ih hrest]
      rfl
  rw [declarations?, lines_print_of_inline inline, List.takeWhile_append_of_pos fun _ => ne_head_of_mem,
    List.takeWhile_cons_of_neg (by simp), List.append_nil, hread inline]

/-- **A module is read back from its text** if its variables and the lines of its render function are lines of the
text. -/
theorem read?_print {m : RenderModule} (declared : ∀ d ∈ m.declarations, d.Inline) (body : ∀ l ∈ m.body, l.Inline) :
    read? m.print = some m := by
  have hwritten : (m.body.flatMap fun l => lines (String.ofList (List.replicate (2 * l.depth) ' ') ++ l.text)) =
      m.body.map fun l => (String.ofList (List.replicate (2 * l.depth) ' ') ++ l.text).toList := by
    rw [List.map_eq_flatMap]
    refine List.flatMap_congr fun l hl => lines_of_notMem ?_
    simp [(body l hl).text]
  have hbody : (m.body.map fun l => (String.ofList (List.replicate (2 * l.depth) ' ') ++ l.text).toList).map bodyLine =
      m.body := by
    rw [List.map_map]
    exact (List.map_congr_left fun l hl => bodyLine_line (body l hl)).trans (List.map_id' m.body)
  have hlast : ∀ written : List (List Char), (written ++ ["\x7d;".toList, []]).dropLast.dropLast = written :=
    fun written => by simp
  rw [read?, declarations?_print declared, lines_print_of_inline declared, hwritten,
    List.dropWhile_append_of_pos fun _ => ne_head_of_mem, List.dropWhile_cons_of_neg (by simp), List.tail_cons,
    Option.bind_eq_bind, Option.bind_some]
  dsimp only
  rw [hlast, hbody]

end RenderModule

/-! ## The variables of a generated module -/

/-- A quoted text has no line break. -/
theorem newline_notMem_quote (s : String) : '\n' ∉ (Script.quote s).toList := by
  have hescape : '\n' ∉ Script.escape s.toList := fun h => absurd (Script.isInline_escape h).1 (by decide)
  rw [Script.toList_quote]
  simp [hescape]

/-- A name for a description of a widget is a word. -/
theorem IsTypeName.inline {name : String} (h : IsTypeName name) : ' ' ∉ name.toList ∧ '\n' ∉ name.toList := by
  rcases h with rfl | ⟨n, -, rfl⟩
  · decide
  · have hdigits : ∀ c ∈ (toString n).toList, c.isDigit = true := fun c hc => Text.isDigit_of_mem_toString hc
    have hblank : ' ' ∉ (toString n).toList := fun hc => absurd (hdigits _ hc) (by decide)
    have hbreak : '\n' ∉ (toString n).toList := fun hc => absurd (hdigits _ hc) (by decide)
    rw [String.toList_append, List.mem_append, List.mem_append, not_or, not_or]
    exact ⟨⟨by decide, hblank⟩, by decide, hbreak⟩

/-- The names of the helpers are words. -/
theorem IsHelperName.inline {name : String} (h : IsHelperName name) : ' ' ∉ name.toList ∧ '\n' ∉ name.toList := by
  have hfixed : ∀ name ∈ ["__widgetArgs", "_cleanupWidgetArgs", "__widgetBody", "__widgetTag", "__markoHelpers"],
      ' ' ∉ name.toList ∧ '\n' ∉ name.toList := by decide
  exact h.elim (hfixed name) IsTypeName.inline

/-- Every variable that can be declared is on a line of its own: what is not fixed in its initializer is quoted. -/
theorem Declaration.Follows.inline {widgetsModule : String} {ds : List Declaration} {d : Declaration}
    (h : d.Follows widgetsModule ds) : d.Inline := by
  refine ⟨h.isHelperName.inline, ?_⟩
  cases h with
  | helper known => simp [Initializer.code_module, newline_notMem_quote]
  | cleanup helper => decide
  | description typeName widget path =>
    simp [Initializer.code, print_requireCall, Script.Expr.print, newline_notMem_quote]

/-- The variables of a header are read back from the text of a module. -/
theorem IsHeader.declarations?_print {widgetsModule : String} {m : RenderModule}
    (h : IsHeader widgetsModule m.declarations) : RenderModule.declarations? m.print = some m.declarations :=
  RenderModule.declarations?_print fun _ hd =>
    have ⟨_, hfollows⟩ := h.follows_of_mem hd
    hfollows.inline

/-- **The variables of a compiled template can be read from its text**, and they form a header. -/
theorem declarations?_compile (source : String) (settings : Template.Settings) (files : Path.Files) :
    ∃ ds, RenderModule.declarations? (compile source settings files).code = some ds ∧
      IsHeader settings.widgetsModule ds := by
  have hheader := isHeader_generate settings files (Template.parse source settings).nodes
  rw [compile]
  exact ⟨_, hheader.declarations?_print, hheader⟩

end WidgetTemplates.Compile
