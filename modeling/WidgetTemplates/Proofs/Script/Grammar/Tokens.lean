import WidgetTemplates.Script.Grammar.Check
import WidgetTemplates.Proofs.Script.Grammar.Ensures
import WidgetTemplates.Proofs.Script.Grammar.Position

/-!
# Readers of tokens

Where the cursor stands after a reader of a single token, a regular expression or the next chunk of a template, and
after the loops over items.
-/

namespace WidgetTemplates.Script.Grammar

open Reader

variable {whole : List Char} {k k' : List Bracket} {loose loose' : Bool} {P : Cursor → Prop} {α β : Type}

/-- Behind the next token the cursor stands where that leads. -/
theorem at_skip : Ensures (Past loose whole k) skip fun _ => At loose whole k := by
  rintro mode c a c' hc hrun
  obtain ⟨-, rfl⟩ := Prod.mk.inj (Option.some.inj hrun)
  refine at_moveTo fun hflawed hrest => ?_
  obtain ⟨hend, harrives⟩ := hc hflawed
  exact harrives fun hhere => hrest (hend hhere)

/-- A flaw that is noted does not matter. -/
theorem ensures_flawIf (b : Bool) (robust : ∀ c, P c → P { c with flawed := true }) :
    Ensures P (flawIf b) fun _ => P := by
  rintro mode c a c' hc hrun
  rcases b with _ | _
  · obtain ⟨-, rfl⟩ := Prod.mk.inj (Option.some.inj hrun)
    exact hc
  · obtain ⟨-, rfl⟩ := Prod.mk.inj (Option.some.inj hrun)
    exact robust c hc

theorem at_flawIf (b : Bool) : Ensures (At loose whole k) (flawIf b) fun _ => At loose whole k :=
  ensures_flawIf b fun _ => At.flawed

/-- The defaults that are counted do not matter. -/
theorem at_recount (n : Cursor → Nat) :
    Ensures (At loose whole k) (modify fun c => { c with unsettled := n c } : Reader PUnit) fun _ => At loose whole k :=
  .modify fun _ hc => hc.recount _

theorem past_flawIf (b : Bool) : Ensures (Past loose whole k) (flawIf b) fun _ => Past loose whole k :=
  ensures_flawIf b fun _ => Past.flawed

/-- A flaw that is noted on the way does not matter. -/
theorem at_advance : Ensures (Past loose whole k) advance fun _ => At loose whole k := by
  refine .peek fun t => ?_
  split
  · exact .drop ((past_flawIf _).of fun _ => And.left) fun _ => at_skip
  · exact at_skip.of fun _ => And.left

/-- A punctuator that comes next is gone past. -/
theorem at_skipMark {m : String} (leads : Passes (Token.mark m).slashes m.toList k k') :
    Ensures (fun c => At loose whole k c ∧ c.token = .mark m) skip fun _ => At false whole k' :=
  at_skip.of fun _ hc => hc.1.past (by rw [hc.2]; exact leads)

/-- A punctuator that has been asked for comes next. -/
theorem ensures_isMark (m : String) : Ensures P (isMark m) fun b c => P c ∧ (b = true → c.token = .mark m) := by
  refine .peek fun t => .pure ?_
  rintro c ⟨hc, rfl⟩
  exact ⟨hc, fun h => eq_of_beq h⟩

/-- A word that has been asked for comes next. -/
theorem ensures_isWord (w : String) : Ensures P (isWord w) fun b c => P c ∧ (b = true → c.token.isWord w = true) := by
  refine .peek fun t => .pure ?_
  rintro c ⟨hc, rfl⟩
  exact ⟨hc, id⟩

/-- A punctuator is gone past if it comes next, and else nothing changes. -/
theorem ensures_eat {m : String} (hit : ∀ c, P c → c.token = .mark m → Past loose whole k c) :
    Ensures P (eat m) fun b c => match b with
      | true => At loose whole k c
      | false => P c := by
  refine .bind (ensures_isMark m) fun b => ?_
  split
  · next yes => exact .drop (at_advance.of fun c hc => hit c hc.1 (hc.2 yes)) fun _ => .pure fun _ => id
  · exact .pure fun _ => And.left

/-- A punctuator that is read if it comes next leads to the brackets that it says. -/
theorem at_eat {m : String} (leads : Passes (Token.mark m).slashes m.toList k k') :
    Ensures (At loose whole k) (eat m) fun b c => match b with
      | true => At false whole k' c
      | false => At loose whole k c :=
  ensures_eat fun _ hc hmark => hc.past (by rw [hmark]; exact leads)

/-- A punctuator that has to come leads to the brackets that it says. -/
theorem at_expect {m : String} (leads : Passes (Token.mark m).slashes m.toList k k') :
    Ensures (At loose whole k) (expect m) fun _ => At false whole k' := by
  refine .bind (at_eat leads) fun b => ?_
  cases b with
  | true => exact .pure fun _ => id
  | false => exact .failure

/-! ## Words and operators -/

/-- A token leaves the open brackets as they are. -/
def Token.Inert (t : Token) : Prop := ∀ k, t.Leads k k

theorem Token.Inert.word {text : String} {escaped : Bool} : (Token.word text escaped).Inert := fun _ => rfl

theorem Token.Inert.privateWord {text : String} : (Token.privateWord text).Inert := fun _ => rfl

theorem Token.Inert.number : Token.number.Inert := fun _ => rfl

theorem Token.Inert.string : Token.string.Inert := fun _ => rfl

/-- Words are inert. -/
theorem Token.Inert.of_isWord {t : Token} {w : String} (h : t.isWord w = true) : t.Inert := by
  rw [isWord.eq_def] at h
  split at h
  · exact .word
  · exact nomatch h

/-- Names are inert. -/
theorem Token.Inert.of_isName {t : Token} (h : t.isName = true) : t.Inert := by
  rw [isName.eq_def] at h
  split at h
  · exact .word
  · exact nomatch h

/-- Punctuators without brackets are inert. -/
theorem Token.Inert.of_plain {m : String} (plain : Plain m.toList) : (Token.mark m).Inert := by
  intro k
  rw [Token.Leads, slashes_of_plain plain]
  exact .of_plain plain k

/-- The cursor stands before a token that leaves the open brackets as they are. -/
def AtInert (loose : Bool) (whole : List Char) (k : List Bracket) (c : Cursor) : Prop :=
  At loose whole k c ∧ c.token.Inert

/-- Past an inert token the brackets are the same. -/
theorem AtInert.past {c : Cursor} (h : AtInert loose whole k c) : Past false whole k c := h.1.past (h.2 k)

theorem inert_flawIf (b : Bool) : Ensures (AtInert loose whole k) (flawIf b) fun _ => AtInert loose whole k :=
  ensures_flawIf b fun _ hc => ⟨hc.1.flawed, hc.2⟩

theorem inert_recount (n : Cursor → Nat) :
    Ensures (AtInert loose whole k) (modify fun c => { c with unsettled := n c } : Reader PUnit)
      fun _ => AtInert loose whole k :=
  .modify fun _ hc => ⟨hc.1.recount _, hc.2⟩

theorem inert_skip : Ensures (AtInert loose whole k) skip fun _ => At false whole k := at_skip.of fun _ => AtInert.past

theorem inert_advance : Ensures (AtInert loose whole k) advance fun _ => At false whole k :=
  at_advance.of fun _ => AtInert.past

/-- The token after the next one leaves the open brackets as they are, too. -/
def Cursor.AdvancesInert (c : Cursor) : Prop := ∀ mode a c', advance mode c = some (a, c') → c'.token.Inert

/-- Past an inert token the next one may be inert, too. -/
theorem inert_advanceInert :
    Ensures (fun c => AtInert loose whole k c ∧ c.AdvancesInert) advance fun _ => AtInert false whole k :=
  fun mode c a c' hc hrun => ⟨inert_advance mode c a c' hc.1 hrun, hc.2 mode a c' hrun⟩

/-- A word is gone past if it comes next, and else nothing changes. -/
theorem ensures_eatWord (w : String) (known : ∀ c, P c → At loose whole k c) :
    Ensures P (eatWord w) fun b c => match b with
      | true => At false whole k c
      | false => P c := by
  refine .bind (ensures_isWord w) fun b => ?_
  split
  · next yes =>
    refine .drop (inert_advance.of fun c hc => ⟨known c hc.1, .of_isWord (hc.2 yes)⟩) fun _ => .pure fun _ => id
  · exact .pure fun _ => And.left

/-- A name keeps the brackets. -/
theorem at_name : Ensures (At loose whole k) name fun _ => At false whole k := by
  refine .stay .mode fun m => .peek fun t => ?_
  split
  · exact .failure
  · next isName =>
    have hinert : ∀ c, At loose whole k c ∧ c.token = t → AtInert loose whole k c := by
      rintro c ⟨hc, rfl⟩
      exact ⟨hc, .of_isName (by simpa using isName)⟩
    refine .of ?_ hinert
    refine .stay (.isWord _) fun isAwait => .drop (inert_flawIf _) fun _ => ?_
    exact .stay (.isWord _) fun isYield => .drop (inert_flawIf _) fun _ => inert_skip

/-- A name or a reserved word keeps the brackets. -/
theorem at_anyWord : Ensures (At loose whole k) anyWord fun _ => At false whole k := by
  refine .peek fun t => ?_
  split
  · exact inert_skip.of fun c hc => ⟨hc.1, hc.2 ▸ .word⟩
  · exact .failure

/-- What a look ahead tells of the cursor. -/
theorem ensures_ahead {r : Reader Bool} {S : Cursor → Prop} (h : ∀ c, Ensures (· = c) r fun b _ => b = true → S c) :
    Ensures P (ahead r) fun b c => P c ∧ (b = true → S c) := by
  rintro mode c b c' hc hrun
  rw [ahead] at hrun
  split at hrun
  · next result _ hr =>
    obtain ⟨rfl, rfl⟩ := Prod.mk.inj (Option.some.inj hrun)
    exact ⟨hc, h c mode c _ _ rfl hr⟩
  · obtain ⟨rfl, rfl⟩ := Prod.mk.inj (Option.some.inj hrun)
    exact ⟨hc, fun yes => absurd yes Bool.false_ne_true⟩

/-- What an advance does does not depend on the mode. -/
theorem advance_mode (mode mode' : Mode) (c : Cursor) : advance mode c = advance mode' c := by
  obtain ⟨token, newLine, here, rest, flawed, unsettled, slashes⟩ := c
  cases token with
  | word text escaped => cases escaped <;> rfl
  | _ => rfl

/-- A word that is read is gone past. -/
theorem eatWord_eq_advance (w : String) (c : Cursor) :
    Ensures (· = c) (eatWord w) fun b c' => b = true → c.token.Inert ∧ ∀ mode, advance mode c = some ((), c') := by
  refine .bind (ensures_isWord w) fun b => ?_
  split
  · next yes =>
    refine .bind (Q := fun _ c' => c.token.Inert ∧ ∀ mode, advance mode c = some ((), c')) ?_ fun _ =>
      .pure fun _ hc _ => hc
    rintro mode _ a c' ⟨rfl, hword⟩ hrun
    exact ⟨.of_isWord (hword yes), fun mode' => (advance_mode mode' mode _).trans hrun⟩
  · exact .pure fun _ _ => nofun

/-- What a look ahead for two words in a row tells of the cursor. -/
theorem ensures_aheadWords (w v : String) :
    Ensures P (ahead do return (← eatWord w) && (← isWord v) && !(← newLine)) fun b c =>
      P c ∧ (b = true → c.token.Inert ∧ c.AdvancesInert) := by
  refine ensures_ahead fun c => .bind (eatWord_eq_advance w c) fun first => .bind (ensures_isWord v) fun second => ?_
  refine .stay .newLine fun b => .pure ?_
  rintro c' ⟨hfirst, hsecond⟩ yes
  rw [Bool.and_eq_true, Bool.and_eq_true] at yes
  obtain ⟨hinert, hadvance⟩ := hfirst yes.1.1
  refine ⟨hinert, fun mode a c'' hrun => ?_⟩
  obtain ⟨-, rfl⟩ := Prod.mk.inj (Option.some.inj ((hadvance mode).symm.trans hrun))
  exact .of_isWord (hsecond yes.1.2)

/-- A word that has been read was inert. -/
theorem inert_of_eatWord (w : String) (c : Cursor) :
    Ensures (· = c) (eatWord w) fun b _ => b = true → c.token.Inert :=
  (eatWord_eq_advance w c).weaken (fun _ => id) fun _ _ hc yes => (hc yes).1

/-! ## Literals that depend on what is expected -/

/-- A slash that comes next and is not taken for an operator is the start of a regular expression. -/
theorem at_regex {m : String} (slash : m.toList.head? = some '/') :
    Ensures (fun c => At loose whole k c ∧ c.token = .mark m) regex fun _ => At false whole k := by
  refine .get fun c hc => ?_
  obtain ⟨hc, hmark⟩ := hc
  split
  · exact .failure
  · next rest body =>
    have hthere : ∀ t : Cursor, t = c → t.flawed = false → rest.drop (regexFlags rest).length ≠ [] →
        Arrives false whole (t.slashes ++ [.startsRegex]) k (rest.drop (regexFlags rest).length) := by
      rintro t rfl hflawed -
      obtain ⟨hfresh, harrives⟩ := hc hflawed
      obtain ⟨more, hm⟩ := List.head?_eq_some_iff.mp slash
      have hhere : t.here = '/' :: (more ++ t.rest) := by rw [hfresh.here_eq hmark, hm]; rfl
      have hcalm : Calm (more ++ t.rest) := fun d s hs => hfresh.noComment d s (hhere.trans (congrArg _ hs))
      rw [hhere] at harrives body
      exact (harrives (List.cons_ne_nil _ _)).cross (crosses_regex hcalm body k)
    exact .drop ((ensures_flawIf _ fun _ _ => nofun).of hthere) fun _ => .modify fun _ h => at_moveTo h

/-- The next token, if it is a chunk of a template, leads to the brackets that it says. -/
def AtChunk (whole : List Char) (k : List Bracket) (c : Cursor) : Prop :=
  ∀ continues fine, c.token = .template continues fine →
    Past false whole ((if continues then [.substitution] else []) ++ k) c

/-- A chunk that comes next leads to the brackets that it says. -/
theorem At.atChunk {c : Cursor} (h : At loose whole k c) : AtChunk whole k c :=
  fun _ _ htoken => h.past (by rw [htoken]; rfl)

/-- Where a substitution ends the next chunk comes next. -/
theorem atChunk_resumeTemplate :
    Ensures (At loose whole (.substitution :: k)) resumeTemplate fun _ => AtChunk whole k := by
  refine .bind (ensures_isMark _) fun b => ?_
  split
  · exact .failure
  · next closes =>
    refine .get fun c hc => ?_
    obtain ⟨hc, hmark⟩ := hc
    split
    · exact .failure
    · next chunk hchunk =>
      refine .set ?_
      rintro _ - continues fine htoken hflawed
      obtain ⟨rfl, -⟩ := Token.template.inj htoken
      obtain ⟨hfresh, harrives⟩ := hc hflawed
      have hhere : c.here = '\x7d' :: c.rest := hfresh.here_eq (hmark (by simpa using closes))
      refine ⟨fun hnone => absurd (hhere.symm.trans hnone) (List.cons_ne_nil _ _), fun hmore => ?_⟩
      have harrives' := harrives hmore
      rw [hhere] at harrives'
      exact harrives'.cross (crosses_resumed hchunk k)

/-- A chunk that a substitution follows leads into it. -/
theorem atChunk_templateChunk (tagged : Bool) :
    Ensures (AtChunk whole k) (Rules.templateChunk tagged) fun continues =>
      At false whole ((if continues then [.substitution] else []) ++ k) := by
  refine .peek fun t => ?_
  split
  · next continues fine =>
    refine .of (P := Past false whole ((if continues then [.substitution] else []) ++ k)) ?_ fun c hc => hc.1 _ _ hc.2
    exact .drop (past_flawIf _) fun _ => .drop at_skip fun _ => .pure fun _ => id
  · exact .failure

end WidgetTemplates.Script.Grammar
