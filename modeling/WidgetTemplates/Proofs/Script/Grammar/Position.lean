import WidgetTemplates.Script.Grammar.Cursor
import WidgetTemplates.Proofs.Script.Grammar.Lexemes

/-!
# Where a cursor stands

`At loose whole k c` says that the cursor `c` stands in the text `whole` behind a part that leads from no open bracket
to `k`; `loose` allows for a dividing slash right before the cursor, which the next character has yet to confirm.
Nothing is said of a cursor that has a flaw or has come to the end of the text. `Past` says the same of the end of the
next token, where the open brackets have changed as the token says (`At.past`).
-/

namespace WidgetTemplates.Script.Grammar

variable {whole : List Char} {k k' : List Bracket} {loose : Bool} {slashes slashes' : List Slash}

/-! ## Parts of a text -/

/-- A text that neither a comment nor a comment in `/*` would start with behind a slash. -/
def Calm (s : List Char) : Prop := ∀ c rest, s = c :: rest → c ≠ '/' ∧ c ≠ '*'

/-- By these answers the text before `here` leads to the open brackets `k`. If `loose` allows for it, it ends in a
dividing slash, for which one more answer is to come. -/
def Arrives (loose : Bool) (whole : List Char) (slashes : List Slash) (k : List Bracket) (here : List Char) : Prop :=
  ∃ before, whole = before ++ here ∧
    (Passes slashes before [] k ∨ loose = true ∧ Calm here ∧
      Reading.run ⟨slashes, .script, []⟩ before = some ⟨[.divides], .slash, k⟩)

/-- Where no dividing slash comes before, one may be allowed for. -/
theorem Arrives.loosen {here : List Char} (h : Arrives false whole slashes k here) :
    Arrives loose whole slashes k here := by
  obtain ⟨before, hwhole, hpasses | ⟨hloose, -⟩⟩ := h
  · exact ⟨before, hwhole, .inl hpasses⟩
  · exact nomatch hloose

/-- A character behind a dividing slash is read as script text. -/
theorem next_of_divides {slashes : List Slash} {c : Char} (calm : c ≠ '/' ∧ c ≠ '*') :
    Reading.next ⟨.divides :: slashes, .slash, k⟩ c = Reading.next ⟨slashes, .script, k⟩ c := by
  simp [Reading.next, Reading.afterSlash, calm.1, calm.2]
  rfl

/-- A character behind a slash that starts a regular expression is read inside it. -/
theorem next_of_startsRegex {slashes : List Slash} {c : Char} (calm : c ≠ '/' ∧ c ≠ '*') :
    Reading.next ⟨.startsRegex :: slashes, .slash, k⟩ c = Reading.next ⟨slashes, .regex false false, k⟩ c := by
  simp [Reading.next, Reading.afterSlash, calm.1, calm.2]
  rfl

/-- A regular expression with its flags leaves the open brackets as they are. -/
theorem crosses_regex {s rest : List Char} (calm : Calm s) (body : afterRegexBody? false false s = some rest)
    (k : List Bracket) : Crosses [.startsRegex] ('/' :: s) (rest.drop (regexFlags rest).length) k k := by
  have hflag : ∀ d, (d.isAlphanum || d == '$' || d == '_') = true → isPlain d = true :=
    fun _ => isPlain_of_class (p := fun d => d.isAlphanum || d == '$' || d == '_') (by decide)
  have hflags : SkipsPlain rest (rest.drop (regexFlags rest).length) := .takeWhile hflag rest
  obtain ⟨text, rfl, hrun⟩ := (reads_afterRegexBody? body).trans (.of_skipsPlain hflags)
  refine ⟨'/' :: text, List.cons_ne_nil _ _, rfl, ?_⟩
  rw [Passes, Reading.run_of_next rfl]
  rcases text with _ | ⟨c, text⟩
  · exact absurd (hrun [] k) (by simp)
  · rw [Reading.run_cons, next_of_startsRegex (calm c _ rfl), ← Reading.run_cons]
    exact hrun [] k

/-- The closing brace of a substitution leads back into the template. -/
theorem crosses_resumed {fuel : Nat} {s : List Char} {chunk : Chunk} (h : chunk? fuel true s = some chunk)
    (k : List Bracket) :
    Crosses [] ('\x7d' :: s) chunk.rest (.substitution :: k)
      ((if chunk.continues then [.substitution] else []) ++ k) := by
  obtain ⟨text, rfl, hrun⟩ := reads_chunk? false h nofun
  exact ⟨'\x7d' :: text, List.cons_ne_nil _ _, rfl, (Reading.run_of_next rfl text).trans (hrun [] k)⟩

/-- A further part of the text leads to further brackets. -/
theorem Arrives.cross {here rest : List Char} (h : Arrives loose whole slashes k here)
    (crosses : Crosses slashes' here rest k k') : Arrives false whole (slashes ++ slashes') k' rest := by
  obtain ⟨before, rfl, hbefore⟩ := h
  obtain ⟨text, hnonempty, rfl, hpasses⟩ := crosses
  refine ⟨before ++ text, (List.append_assoc ..).symm, .inl ?_⟩
  rcases hbefore with hbefore | ⟨-, hcalm, hrun⟩
  · exact hbefore.append hpasses
  · obtain ⟨c, more, rfl⟩ := List.exists_cons_of_ne_nil hnonempty
    have hfirst : Reading.run ⟨slashes ++ slashes', .script, []⟩ before = some ⟨.divides :: slashes', .slash, k⟩ := by
      simpa [Reading.within] using Reading.run_within slashes' [] hrun
    rw [Passes, Reading.run_of_run hfirst, Reading.run_cons, next_of_divides (hcalm c _ rfl), ← Reading.run_cons]
    exact hpasses

/-- Blanks and comments do not matter. -/
theorem Arrives.afterBlanks? {s here : List Char} {newLine newLine' : Bool} (h : Arrives loose whole slashes k s)
    (blanks : afterBlanks? .plain newLine s = some (newLine', here)) (more : here ≠ []) :
    Arrives loose whole slashes k here := by
  obtain ⟨text, rfl, hpasses⟩ := (reads_afterBlanks? false blanks more nofun).passes k
  rcases text with _ | ⟨c, text⟩
  · exact h
  · have hcross := h.cross ⟨c :: text, List.cons_ne_nil _ _, rfl, hpasses⟩
    rw [List.append_nil] at hcross
    exact hcross.loosen

/-! ## Cursors -/

/-- The token of a cursor is the one that stands there, with the text after it. It is well formed and starts no
comment. -/
structure Cursor.IsFresh (c : Cursor) : Prop where
  token : c.token = (scan c.here).token
  rest : c.rest = (scan c.here).rest
  valid : c.token ≠ .invalid
  noComment : StartsNoComment c.here

/-- The cursor stands behind a part of the text that leads to the open brackets `k`, by the answers that the cursor
keeps. -/
def At (loose : Bool) (whole : List Char) (k : List Bracket) (c : Cursor) : Prop :=
  c.flawed = false → c.IsFresh ∧ (c.here ≠ [] → Arrives loose whole c.slashes k c.here)

/-- The text up to the end of the next token leads to the open brackets `k`, by the answers that the cursor keeps and
those of the token. -/
def Past (loose : Bool) (whole : List Char) (k : List Bracket) (c : Cursor) : Prop :=
  c.flawed = false → (c.here = [] → c.rest = []) ∧
    (c.here ≠ [] → Arrives loose whole (c.slashes ++ c.token.slashes) k c.rest)

variable {c : Cursor}

/-- Where no dividing slash comes before, one may be allowed for. -/
theorem At.loosen (h : At false whole k c) : At loose whole k c :=
  fun hc => ⟨(h hc).1, fun hhere => ((h hc).2 hhere).loosen⟩

/-- Nothing is said of a cursor that is flawed. -/
theorem At.flawed (_ : At loose whole k c) : At loose whole k { c with flawed := true } := nofun

/-- The defaults that are counted do not matter. -/
theorem At.recount (h : At loose whole k c) (n : Nat) : At loose whole k { c with unsettled := n } := by
  intro hc
  obtain ⟨hfresh, harrives⟩ := h hc
  exact ⟨⟨hfresh.token, hfresh.rest, hfresh.valid, hfresh.noComment⟩, harrives⟩

theorem Past.flawed (_ : Past loose whole k c) : Past loose whole k { c with flawed := true } := nofun

/-- A cursor that is moved to a place behind such a part stands there. -/
theorem at_moveTo {s : List Char} (h : c.flawed = false → s ≠ [] → Arrives loose whole c.slashes k s) :
    At loose whole k (c.moveTo s) := by
  rw [Cursor.moveTo]
  split
  · exact nofun
  · next newLine here hblanks =>
    intro hflawed
    rw [Bool.or_eq_false_iff, beq_eq_false_iff_ne] at hflawed
    refine ⟨⟨rfl, rfl, hflawed.2, startsNoComment_afterBlanks? hblanks⟩, fun hmore => ?_⟩
    refine (h hflawed.1 ?_).afterBlanks? hblanks hmore
    rintro rfl
    obtain ⟨-, rfl⟩ := Prod.mk.inj (Option.some.inj hblanks)
    exact hmore rfl

/-- The next token leads to the brackets that it says. -/
theorem At.past (h : At loose whole k c) (leads : c.token.Leads k k') : Past false whole k' c := by
  intro hc
  obtain ⟨hfresh, harrives⟩ := h hc
  constructor
  · intro hhere
    rw [hfresh.rest, hhere]
    rfl
  · intro hhere
    obtain ⟨d, s, hs⟩ := List.exists_cons_of_ne_nil hhere
    have hcross : Crosses c.token.slashes c.here c.rest k k' := by
      rw [hfresh.rest, hfresh.token, hs]
      rw [hfresh.token, hs] at leads
      exact scan_crosses leads
    exact (harrives hhere).cross hcross

/-- A punctuator stands at the front of the text from the cursor on. -/
theorem Cursor.IsFresh.here_eq (h : c.IsFresh) {m : String} (mark : c.token = .mark m) :
    c.here = m.toList ++ c.rest := by
  have hscan := scan_mark (h.token ▸ mark)
  rwa [← h.rest] at hscan

/-- Behind a slash that divides the next character has yet to confirm it. -/
theorem At.past_slash (h : At false whole k c) (slash : c.token = .mark "/") : Past true whole k c := by
  intro hc
  obtain ⟨hfresh, harrives⟩ := h hc
  have hhere : c.here = '/' :: c.rest := hfresh.here_eq slash
  refine ⟨fun hnone => absurd (hhere.symm.trans hnone) (List.cons_ne_nil _ _), fun hmore => ?_⟩
  obtain ⟨before, hwhole, hpasses | ⟨hloose, -⟩⟩ := harrives hmore
  · refine ⟨before ++ ['/'], by rw [hwhole, hhere]; simp, .inr ⟨rfl, ?_, ?_⟩⟩
    · exact fun d rest hrest => hfresh.noComment d rest (hhere.trans (congrArg _ hrest))
    · rw [slash, Reading.run_of_run (hpasses.run _)]
      rfl
  · exact absurd hloose Bool.false_ne_true

end WidgetTemplates.Script.Grammar
