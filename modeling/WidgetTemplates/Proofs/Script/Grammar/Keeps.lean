import WidgetTemplates.Proofs.Script.Grammar.Tokens

/-!
# Readers that keep the open brackets

A reader keeps the brackets (`Keeps`) if it goes from a place behind a part that leads to some open brackets to another
such place. A rule of the grammar does so if the rules of its inner goals do (`Rules.Keep`).
-/

namespace WidgetTemplates.Script.Grammar

open Reader

variable {whole : List Char} {k k' : List Bracket} {loose : Bool} {α β : Type}

/-- After the reader the same brackets are open as before; `loose` allows for a dividing slash right before it. -/
def Keeps (loose : Bool) (whole : List Char) (r : Reader α) : Prop :=
  ∀ k, Ensures (At loose whole k) r fun _ => At false whole k

/-- The same for a reader that is used before a token that leaves the open brackets as they are. -/
def KeepsInert (loose : Bool) (whole : List Char) (r : Reader α) : Prop :=
  ∀ k, Ensures (AtInert loose whole k) r fun _ => At false whole k

/-- The reader keeps the open brackets if it yields true, and stays in the same place if not. -/
def Tries (whole : List Char) (r : Reader Bool) : Prop :=
  ∀ loose k, Ensures (At loose whole k) r fun b c => match b with
    | true => At false whole k c
    | false => At loose whole k c

namespace Keeps

variable {r : Reader α} {f : α → Reader β}

theorem pure (a : α) : Keeps false whole (pure a : Reader α) := fun _ => .pure fun _ => id

theorem failure : Keeps loose whole (failure : Reader α) := fun _ => .failure

/-- Two readers in a row keep the brackets if each of them does. -/
theorem bind (first : Keeps loose whole r) (next : ∀ a, Keeps false whole (f a)) : Keeps loose whole (r >>= f) :=
  fun k => .drop (first k) fun a => next a k

/-- A reader that stays may be left out. -/
theorem stay (stays : Stays r) (next : ∀ a, Keeps loose whole (f a)) : Keeps loose whole (r >>= f) :=
  fun k => .stay stays fun a => next a k

/-- A flaw may be noted in front. -/
theorem flawIf (b : Bool) {f : Unit → Reader β} (next : ∀ a, Keeps loose whole (f a)) :
    Keeps loose whole (flawIf b >>= f) :=
  fun k => .drop (at_flawIf b) fun a => next a k

/-- A reader that is tried comes before one for each outcome. -/
theorem tries {t : Reader Bool} {f : Bool → Reader β} (tried : Tries whole t) (yes : Keeps false whole (f true))
    (no : Keeps loose whole (f false)) : Keeps loose whole (t >>= f) := by
  refine fun k => .bind (tried loose k) fun b => ?_
  cases b with
  | true => exact yes k
  | false => exact no k

/-- Where no slash may come before. -/
theorem strict (h : Keeps true whole r) : Keeps loose whole r := by
  cases loose with
  | true => exact h
  | false => exact fun k => (h k).of fun _ => At.loosen

/-- What is known of the next token may be left out. -/
theorem after {t : Token} (h : Keeps loose whole r) (k : List Bracket) :
    Ensures (fun c => At loose whole k c ∧ c.token = t) r fun _ => At false whole k := (h k).of fun _ => And.left

theorem inert (h : Keeps loose whole r) : KeepsInert loose whole r := fun k =>
  (h k).of fun _ => And.left

theorem under (h : Keeps loose whole r) (g : Mode → Mode) : Keeps loose whole (under g r) := fun k => (h k).under g

theorem enclosed (h : Keeps loose whole r) : Keeps loose whole (enclosed r) := fun k => (h k).enclosed

/-- A step that keeps the brackets does so any number of times. -/
theorem iterate {step : α → Reader (Option α)} (h : ∀ a, Keeps false whole (step a)) (a : α) :
    Keeps false whole (iterate step a) :=
  fun k => .iterate_keeps (fun a => h a k) a

end Keeps

namespace KeepsInert

variable {r : Reader α} {f : α → Reader β} {f' : Unit → Reader β}

/-- A reader before an inert token may be followed by one before any token. -/
theorem bind (first : KeepsInert loose whole r) (next : ∀ a, Keeps false whole (f a)) :
    KeepsInert loose whole (r >>= f) :=
  fun k => .drop (first k) fun a => next a k

theorem stay (stays : Stays r) (next : ∀ a, KeepsInert loose whole (f a)) : KeepsInert loose whole (r >>= f) :=
  fun k => .stay stays fun a => next a k

theorem flawIf (b : Bool) (next : ∀ a, KeepsInert loose whole (f' a)) : KeepsInert loose whole (flawIf b >>= f') :=
  fun k => .drop (inert_flawIf b) fun a => next a k

theorem skip (next : ∀ a, Keeps false whole (f' a)) : KeepsInert loose whole (skip >>= f') :=
  fun k => .drop inert_skip fun a => next a k

theorem advance (next : ∀ a, Keeps false whole (f' a)) : KeepsInert loose whole (advance >>= f') :=
  fun k => .drop inert_advance fun a => next a k

/-- The next token is one that leaves the open brackets as they are. -/
theorem before {t : Token} (h : KeepsInert loose whole r) (inert : t.Inert) (k : List Bracket) :
    Ensures (fun c => At loose whole k c ∧ c.token = t) r fun _ => At false whole k :=
  (h k).of fun _ hc => ⟨hc.1, hc.2 ▸ inert⟩

end KeepsInert

/-- Where the reader yields true, the next token leaves the open brackets as they are; the reader stays. -/
def Foretells (t : Reader Bool) : Prop := ∀ P, Ensures P t fun b c => P c ∧ (b = true → c.token.Inert)

/-- Where a reader tells of an inert token the next one may rely on that. -/
theorem Keeps.foretold {t : Reader Bool} {f : Bool → Reader β} (told : Foretells t)
    (yes : KeepsInert loose whole (f true)) (no : Keeps loose whole (f false)) : Keeps loose whole (t >>= f) := by
  refine fun k => .bind (told (At loose whole k)) fun b => ?_
  cases b with
  | true => exact (yes k).of fun _ hc => ⟨hc.1, hc.2 rfl⟩
  | false => exact (no k).of fun _ => And.left

/-- If one of two readers yields true the next token is known. -/
theorem ensures_either {P : Cursor → Prop} {R : β → Cursor → Prop} {t t' : Reader Bool} {f g : Reader β}
    (told : Foretells t) (told' : Foretells t') (yes : Ensures (fun c => P c ∧ c.token.Inert) f R)
    (no : Ensures P g R) : Ensures P (do if (← t) || (← t') then f else g) R := by
  refine .bind (told P) fun b => .bind (told' _) fun b' => ?_
  split
  · next either => exact yes.of fun _ hc => ⟨hc.1.1, ((Bool.or_eq_true _ _).mp either).elim hc.1.2 hc.2⟩
  · exact no.of fun _ hc => hc.1.1

/-- Asking for a word tells of it. -/
theorem foretells_isWord (w : String) : Foretells (isWord w) := fun _ =>
  (ensures_isWord w).weaken (fun _ => id) fun _ _ hc => ⟨hc.1, fun yes => .of_isWord (hc.2 yes)⟩

/-- Asking for a punctuator without brackets tells of it. -/
theorem foretells_isMark {m : String} (plain : Plain m.toList) : Foretells (isMark m) := fun _ =>
  (ensures_isMark m).weaken (fun _ => id) fun _ _ hc => ⟨hc.1, fun yes => hc.2 yes ▸ .of_plain plain⟩

/-- A reader that asks for a word first tells of it. -/
theorem foretells_word (w : String) {t : Reader Bool} (stays : Stays t) :
    Foretells (do if !(← isWord w) then return false else t) := by
  refine fun P => .bind (foretells_isWord w P) fun b => ?_
  cases b with
  | true => exact stays.keeps.weaken (fun _ => id) fun _ _ hc => ⟨hc.1, fun _ => hc.2 rfl⟩
  | false => exact .pure fun _ hc => ⟨hc.1, nofun⟩

/-- A look ahead that starts with a word tells of it. -/
theorem foretells_ahead {r : Reader Bool} (h : ∀ c, Ensures (· = c) r fun b _ => b = true → c.token.Inert) :
    Foretells (ahead r) := fun _ => ensures_ahead h

/-- A reader that keeps the brackets where it yields true keeps them in any case. -/
theorem Tries.keeps {t : Reader Bool} (h : Tries whole t) : Keeps false whole t :=
  fun k => (h false k).weaken (fun _ => id) fun b _ hc => by cases b <;> exact hc

/-- A word is read if it comes next. -/
theorem tries_eatWord (w : String) : Tries whole (eatWord w) := fun _ _ => ensures_eatWord w fun _ => id

/-- A punctuator without brackets is read if it comes next. -/
theorem tries_eat {m : String} (plain : Plain m.toList) : Tries whole (eat m) :=
  fun _ k => at_eat (Token.Inert.of_plain plain k)

/-- A punctuator without brackets that has to come keeps them. -/
theorem keeps_expect {m : String} (plain : Plain m.toList) : Keeps loose whole (expect m) :=
  fun k => at_expect (Token.Inert.of_plain plain k)

theorem keeps_flawIf (b : Bool) : Keeps false whole (flawIf b) := fun _ => at_flawIf b

theorem keeps_anyWord : Keeps loose whole anyWord := fun _ => at_anyWord

theorem keeps_name : Keeps loose whole name := fun _ => at_name

/-- The end of a statement keeps the brackets. -/
theorem keeps_endStatement : Keeps false whole endStatement := by
  refine .tries (tries_eat (by decide)) (.pure _) (.stay .canEnd fun b => ?_)
  split
  · exact .pure _
  · exact .failure

/-- Items that keep the open brackets do so together. -/
theorem keeps_items {item : Reader α} (h : Keeps false whole item) (close : String) :
    Keeps false whole (items close item) := by
  refine .bind (.iterate (fun acc => ?_) _) fun _ => .pure _
  refine .stay (.isMark _) fun b => ?_
  split
  · exact .pure _
  · split
    · exact .bind h fun _ => .pure _
    · refine .bind (keeps_expect (by decide)) fun _ => .stay (.isMark _) fun b => ?_
      split
      · exact .pure _
      · exact .bind h fun _ => .pure _

/-! ## Rules -/

/-- The rule of each goal keeps the open brackets. -/
def Rules.Keep (whole : List Char) (r : Rules) : Prop := ∀ {α : Type} (g : Goal α), Keeps true whole (r.rule g)

namespace Rules

variable {r : Rules} (h : r.Keep whole)

include h

theorem Keep.expression : Keeps loose whole r.expression := (h .expression).strict

theorem Keep.assignment : Keeps loose whole r.assignment := (h .assignment).strict

theorem Keep.binary (level : Nat) : Keeps loose whole (r.binary level) := (h (.binary level)).strict

theorem Keep.unary : Keeps loose whole r.unary := (h .unary).strict

theorem Keep.leftHand : Keeps loose whole r.leftHand := (h .leftHand).strict

theorem Keep.primary : Keeps loose whole r.primary := (h .primary).strict

theorem Keep.pattern : Keeps loose whole r.pattern := (h .pattern).strict

theorem Keep.statement (alone : Bool) : Keeps loose whole (r.statement alone) := (h (.statement alone)).strict

end Rules

end WidgetTemplates.Script.Grammar
