import Mathlib.Data.List.Basic
import Mathlib.Data.List.Nodup
import Mathlib.Logic.Function.Basic
import WidgetTemplates.Page.Output
import WidgetTemplates.Proofs.Page.ElementId

/-!
# The ids of a page never collide

While a page is rendered, widget ids are taken from it, widgets are created with these ids, and the widgets are asked
for the ids of their elements, all in any order. `Session` is what has happened so far, and `Session.run` carries out
any calls. `page_ids_distinct` says that no widget id is given out twice, and that an element id is given out again
only if the same widget is asked for the same id that is not counted.

Two things carry this. An element id can be taken apart (`ElementKey.text_injective`): the widget id ends in a number,
which the dash behind it bounds, and a count stands between the last brackets. And every count that has been given out
is below the present one, which is part of the invariant `Session.Sound`.
-/

namespace WidgetTemplates.Page

open Widget (repeatedBase? uses countUse)

/-! ## What an element id consists of -/

/-- An element id, apart from the id of its widget: that of the widget itself, a fixed id, or a repeated id with its
count. -/
inductive ElementKey where
  | own
  | fixed (nested : String)
  | repeated (base : String) (count : Nat)

namespace ElementKey

/-- What stands behind the id of the widget. -/
def suffix : ElementKey → List Char
  | own => []
  | fixed nested => '-' :: nested.toList
  | repeated base count => '-' :: (base.toList ++ '[' :: ((toString count).toList ++ [']']))

/-- The element id in a widget. -/
def text (widgetId : String) (key : ElementKey) : String := widgetId ++ String.ofList key.suffix

/-- The nested id that has been asked for. -/
def nested : ElementKey → Option String
  | own => none
  | fixed nested => some nested
  | repeated base _ => some (base ++ "[]")

/-- The count has been given out before. -/
def Spent (w : Widget) : ElementKey → Prop
  | repeated base count => count < uses base w.counters
  | _ => True

end ElementKey

/-- A nested id that ends in `]` only if it is a repeated one. -/
def Separable (nested : String) : Prop := (∃ base, nested = base ++ "[]") ∨ ¬ ∃ front, nested = front ++ "]"

/-- The key under which a widget gives out an element id. -/
def Widget.keyOf (w : Widget) : Option String → ElementKey
  | none => .own
  | some nested =>
    match repeatedBase? nested with
    | none => .fixed nested
    | some base => .repeated base (uses base w.counters)

section Keys

variable (w : Widget) (nested : Option String)

/-- The key of a nested id has that nested id. -/
theorem nested_keyOf : (w.keyOf nested).nested = nested := by
  rcases nested with _ | nested
  · rfl
  · rcases h : repeatedBase? nested with _ | base
    · simp [Widget.keyOf, h, ElementKey.nested]
    · simp [Widget.keyOf, ElementKey.nested, Widget.repeatedBase?_eq_some.mp h]

/-- An element id is written as its key. -/
theorem elementId_eq_text : (w.elementId nested).1 = (w.keyOf nested).text w.id := by
  rcases nested with _ | nested
  · simp [Widget.elementId, Widget.keyOf, ElementKey.text, ElementKey.suffix]
  · apply String.toList_injective
    rcases h : repeatedBase? nested with _ | base
    · simp [Widget.elementId, Widget.keyOf, h, ElementKey.text, ElementKey.suffix]
    · simp [Widget.elementId, Widget.keyOf, h, ElementKey.text, ElementKey.suffix]

/-- Giving out an element id spends its count. -/
theorem spent_elementId : (w.keyOf nested).Spent (w.elementId nested).2 := by
  rcases nested with _ | nested
  · trivial
  · rcases h : repeatedBase? nested with _ | base
    · simp [Widget.keyOf, h, ElementKey.Spent]
    · obtain rfl := Widget.repeatedBase?_eq_some.mp h
      rw [Widget.elementId_repeated, Widget.keyOf, h]
      simp only [ElementKey.Spent, Widget.uses_countUse_self]
      omega

variable {w nested}

/-- A count stays spent. -/
theorem ElementKey.Spent.later {key : ElementKey} (h : key.Spent w) : key.Spent (w.elementId nested).2 := by
  cases key with
  | repeated base count => exact Nat.lt_of_lt_of_le h (w.elementId_counters nested base)
  | own => trivial
  | fixed => trivial

/-- A key whose count is spent is not given out for a repeated id. -/
theorem not_repeated_of_spent (h : (w.keyOf nested).Spent w) (base : String) : nested ≠ some (base ++ "[]") := by
  rintro rfl
  simp only [Widget.keyOf, Widget.repeatedBase?_append, ElementKey.Spent] at h
  omega

/-- A fixed id that is given out under a separable name does not end in a bracket. -/
theorem nested_of_keyOf_fixed {name : String} (separable : ∀ n ∈ nested, Separable n)
    (h : w.keyOf nested = .fixed name) : ¬ ∃ front, name = front ++ "]" := by
  rcases nested with _ | n
  · exact absurd h nofun
  · rcases hbase : repeatedBase? n with _ | base
    · obtain rfl : n = name := by simpa [Widget.keyOf, hbase] using h
      refine (separable n rfl).resolve_left ?_
      rintro ⟨base, rfl⟩
      exact absurd hbase (by simp)
    · simp [Widget.keyOf, hbase] at h

end Keys

/-! ## Taking an element id apart -/

/-- At the last occurrence of a character a text is split in one way. -/
theorem append_cons_inj_last {c : Char} {front front' back back' : List Char} (h : c ∉ back) (h' : c ∉ back')
    (heq : front ++ c :: back = front' ++ c :: back') : front = front' ∧ back = back' := by
  rcases List.append_eq_append_iff.mp heq with ⟨mid, hfront, hback⟩ | ⟨mid, hfront, hback⟩
  · rcases mid with _ | ⟨d, mid⟩
    · obtain ⟨-, rfl⟩ := List.cons.inj hback
      exact ⟨by simpa using hfront.symm, rfl⟩
    · obtain ⟨rfl, rfl⟩ := List.cons.inj hback
      exact absurd (by simp) h
  · rcases mid with _ | ⟨d, mid⟩
    · obtain ⟨-, rfl⟩ := List.cons.inj hback
      exact ⟨by simpa using hfront, rfl⟩
    · obtain ⟨rfl, rfl⟩ := List.cons.inj hback
      exact absurd (by simp) h'

/-- No bracket opens in a count. -/
theorem bracket_notMem_count (count : Nat) : '[' ∉ (toString count).toList ++ [']'] := by
  rw [List.mem_append, not_or]
  refine ⟨fun hmem => ?_, by decide⟩
  exact absurd (Text.isDigit_of_mem_toString hmem) (by decide)

namespace ElementKey

/-- No digit stands behind the id of a widget. -/
theorem suffix_head (key : ElementKey) : key.suffix.head?.any Char.isDigit = false := by
  cases key <;> rfl

/-- What stands behind the widget id determines the key. -/
theorem suffix_injective {key key' : ElementKey}
    (separable : ∀ name, key = fixed name → ¬ ∃ front, name = front ++ "]")
    (separable' : ∀ name, key' = fixed name → ¬ ∃ front, name = front ++ "]")
    (h : key.suffix = key'.suffix) : key = key' := by
  -- a fixed id with the text of a counted one would end in a bracket
  have mixed : ∀ (name base : String) (count : Nat), (fixed name).suffix = (repeated base count).suffix →
      ∃ front, name = front ++ "]" := by
    intro name base count h
    refine ⟨base ++ "[" ++ toString count, String.toList_injective ?_⟩
    simpa [suffix] using h
  cases key with
  | own =>
    cases key' with
    | own => rfl
    | fixed | repeated => exact absurd h nofun
  | fixed name =>
    cases key' with
    | own => exact absurd h nofun
    | fixed name' => rw [String.toList_injective (List.cons.inj h).2]
    | repeated base count => exact absurd (mixed name base count h) (separable name rfl)
  | repeated base count =>
    cases key' with
    | own => exact absurd h nofun
    | fixed name => exact absurd (mixed name base count h.symm) (separable' name rfl)
    | repeated base' count' =>
      obtain ⟨hbase, hcount⟩ := append_cons_inj_last (bracket_notMem_count count) (bracket_notMem_count count')
        (List.cons.inj h).2
      rw [String.toList_injective hbase,
        Text.toString_injective (String.toList_injective (List.append_cancel_right hcount))]

/-- Widget ids that are one text with numbers behind it, and the keys in them, are told apart by the element ids. -/
theorem text_injective {stem : String} {m n : Nat} {key key' : ElementKey}
    (separable : ∀ name, key = fixed name → ¬ ∃ front, name = front ++ "]")
    (separable' : ∀ name, key' = fixed name → ¬ ∃ front, name = front ++ "]")
    (h : key.text (stem ++ toString m) = key'.text (stem ++ toString n)) : m = n ∧ key = key' := by
  have hlist : (toString m).toList ++ key.suffix = (toString n).toList ++ key'.suffix := by
    simpa [text, String.append_assoc] using congrArg String.toList h
  obtain ⟨hnumber, hsuffix⟩ := Text.toString_append_inj key.suffix_head key'.suffix_head hlist
  exact ⟨hnumber, suffix_injective separable separable' hsuffix⟩

end ElementKey

/-! ## Sessions -/

/-- An element id that has been given out: the widget, by the place of its id among those that have been taken, the
nested id that has been asked for, and the text. -/
structure Answer where
  widget : Nat
  nested : Option String
  text : String

/-- What has happened on a page: the widget ids that have been taken, in order, the widget that has been created with
each of them, if there is one, and the element ids that have been given out, in order. -/
structure Session where
  output : Output
  ids : List String := []
  widgets : Nat → Option Widget := fun _ => none
  answers : List Answer := []

/-- What can happen on a page: a widget id is taken, a widget is created with one of the ids that have been taken,
unless there is one, and a widget is asked for an element id. -/
inductive Call where
  | widgetId
  | create (place : Nat) (fields : Widget)
  | elementId (place : Nat) (nested : Option String)

/-- Nested ids are separable. -/
def Call.Plain : Call → Prop
  | .elementId _ nested => ∀ n ∈ nested, Separable n
  | _ => True

namespace Session

/-- Carries out a call. -/
def step (s : Session) : Call → Session
  | .widgetId => { s with output := s.output.uniqueId.2, ids := s.ids ++ [s.output.uniqueId.1] }
  | .create place fields =>
    match s.ids[place]?, s.widgets place with
    | some id, none =>
      { s with widgets := Function.update s.widgets place (some { fields with id, counters := [] }) }
    | _, _ => s
  | .elementId place nested =>
    match s.widgets place with
    | none => s
    | some w =>
      { s with
        widgets := Function.update s.widgets place (some (w.elementId nested).2)
        answers := s.answers ++ [⟨place, nested, (w.elementId nested).1⟩] }

/-- Carries out calls in order. -/
def run (s : Session) (calls : List Call) : Session := calls.foldl step s

end Session

/-! ## The invariant of a session -/

/-- Where the next widget id comes from. -/
def Output.idSource (o : Output) : Allocator := o.shared.ids.getD { stem := o.shared.idStem.getD defaultIdStem }

/-- The next widget id is the stem with the next number. -/
theorem uniqueId_eq (o : Output) :
    o.uniqueId.1 = o.idSource.stem ++ toString o.idSource.next ∧
      o.uniqueId.2.idSource = { o.idSource with next := o.idSource.next + 1 } := ⟨rfl, rfl⟩

/-- What is known of an answer: its key, whose text it is. A fixed id does not look like a repeated one, and the widget
has spent the count of the key. -/
structure Answer.Known (idOf : Nat → String) (s : Session) (a : Answer) (w : Widget) (key : ElementKey) : Prop where
  text : a.text = key.text (idOf a.widget)
  nested : key.nested = a.nested
  separable : ∀ name, key = .fixed name → ¬ ∃ front, name = front ++ "]"
  widget : s.widgets a.widget = some w
  spent : key.Spent w

/-- The widget ids are `stem` with the numbers from `first` on, for those that have been taken and those to come, and
each widget has that of its place. No element id has been given out twice (`distinct`). -/
structure Session.Sound (stem : String) (first : Nat) (s : Session) : Prop where
  ids : s.ids = (List.range' first s.ids.length).map fun n => stem ++ toString n
  source : s.output.idSource = ⟨stem, first + s.ids.length⟩
  widgets : ∀ place w, s.widgets place = some w → w.id = stem ++ toString (first + place)
  known : ∀ a ∈ s.answers, ∃ w key, a.Known (fun place => stem ++ toString (first + place)) s w key
  distinct : s.answers.Pairwise fun a b =>
    a.text = b.text → a.widget = b.widget ∧ a.nested = b.nested ∧ ∀ base, a.nested ≠ some (base ++ "[]")

namespace Session.Sound

variable {stem : String} {first : Nat} {s : Session}

/-- The id at a place is the stem with the number of the place. -/
theorem getElem?_ids (h : s.Sound stem first) {place : Nat} {id : String} (hid : s.ids[place]? = some id) :
    id = stem ++ toString (first + place) := by
  obtain ⟨hplace, -⟩ := List.getElem?_eq_some_iff.mp hid
  rw [h.ids, List.getElem?_map, List.getElem?_range' hplace] at hid
  simpa using hid.symm

/-- Taking a widget id keeps a session sound. -/
theorem widgetId (h : s.Sound stem first) : (s.step .widgetId).Sound stem first := by
  obtain ⟨htaken, hnext⟩ := uniqueId_eq s.output
  rw [h.source] at htaken hnext
  refine ⟨?_, ?_, h.widgets, ?_, h.distinct⟩
  · simp only [step, List.length_append, List.length_singleton, List.range'_concat, List.map_append, Nat.one_mul]
    rw [← h.ids, htaken]
    rfl
  · simp only [step, List.length_append, List.length_singleton]
    rw [hnext, Nat.add_assoc]
  · intro a ha
    obtain ⟨w, key, hknown⟩ := h.known a ha
    exact ⟨w, key, hknown.text, hknown.nested, hknown.separable, hknown.widget, hknown.spent⟩

/-- Creating a widget keeps a session sound. -/
theorem create (h : s.Sound stem first) (place : Nat) (fields : Widget) :
    (s.step (.create place fields)).Sound stem first := by
  rcases hid : s.ids[place]? with _ | id
  · simpa [step, hid] using h
  rcases hw : s.widgets place with _ | w
  · simp only [step, hid, hw]
    refine ⟨h.ids, h.source, ?_, ?_, h.distinct⟩
    · intro other w' hw'
      by_cases hplace : other = place
      · subst hplace
        obtain rfl : _ = w' := by simpa using hw'
        exact h.getElem?_ids hid
      · exact h.widgets other w' (by simpa [hplace] using hw')
    · intro a ha
      obtain ⟨w, key, hknown⟩ := h.known a ha
      -- the widget of an answer is another one, since there was none here
      have hplace : a.widget ≠ place := by
        intro heq
        rw [← heq, hknown.widget] at hw
        exact absurd hw nofun
      exact ⟨w, key, hknown.text, hknown.nested, hknown.separable, by simpa [hplace] using hknown.widget,
        hknown.spent⟩
  · simpa [step, hid, hw] using h

/-- Giving out an element id keeps a session sound. -/
theorem elementId (h : s.Sound stem first) (place : Nat) {nested : Option String}
    (separable : ∀ n ∈ nested, Separable n) : (s.step (.elementId place nested)).Sound stem first := by
  rcases hw : s.widgets place with _ | w
  · simpa [step, hw] using h
  simp only [step, hw]
  have hid : w.id = stem ++ toString (first + place) := h.widgets place w hw
  refine ⟨h.ids, h.source, ?_, ?_, ?_⟩
  · intro other w' hw'
    by_cases hplace : other = place
    · subst hplace
      obtain rfl : _ = w' := by simpa using hw'
      rw [Widget.elementId_id, hid]
    · exact h.widgets other w' (by simpa [hplace] using hw')
  · intro a ha
    rcases List.mem_append.mp ha with ha | ha
    · obtain ⟨w', key, hknown⟩ := h.known a ha
      by_cases hplace : a.widget = place
      · obtain rfl : w = w' := Option.some.inj (hw.symm.trans (hplace ▸ hknown.widget))
        exact ⟨(w.elementId nested).2, key, hknown.text, hknown.nested, hknown.separable, by simp [hplace],
          hknown.spent.later⟩
      · exact ⟨w', key, hknown.text, hknown.nested, hknown.separable, by simpa [hplace] using hknown.widget,
          hknown.spent⟩
    · obtain rfl := List.mem_singleton.mp ha
      exact ⟨_, w.keyOf nested, by rw [elementId_eq_text, hid], nested_keyOf w nested,
        fun _ => nested_of_keyOf_fixed separable, Function.update_self .., spent_elementId w nested⟩
  · refine List.pairwise_append.mpr ⟨h.distinct, List.pairwise_singleton _ _, ?_⟩
    intro a ha b hb htext
    obtain rfl := List.mem_singleton.mp hb
    obtain ⟨w', key, hknown⟩ := h.known a ha
    rw [hknown.text, elementId_eq_text, hid] at htext
    obtain ⟨hnumber, rfl⟩ := ElementKey.text_injective hknown.separable
      (fun _ => nested_of_keyOf_fixed separable) htext
    obtain hplace : a.widget = place := by omega
    obtain rfl : w = w' := Option.some.inj (hw.symm.trans (hplace ▸ hknown.widget))
    have hnested : a.nested = nested := hknown.nested.symm.trans (nested_keyOf w nested)
    -- the count of a repeated id has not been spent before
    exact ⟨hplace, hnested, hnested ▸ not_repeated_of_spent hknown.spent⟩

/-- A call keeps a session sound. -/
theorem step {call : Call} (h : s.Sound stem first) (plain : call.Plain) : (s.step call).Sound stem first := by
  cases call with
  | widgetId => exact h.widgetId
  | create place fields => exact h.create place fields
  | elementId place nested => exact h.elementId place plain

/-- Calls keep a session sound. -/
theorem run {calls : List Call} (h : s.Sound stem first) (plain : ∀ call ∈ calls, call.Plain) :
    (s.run calls).Sound stem first := by
  induction calls generalizing s with
  | nil => exact h
  | cons call rest ih =>
    obtain ⟨hcall, hrest⟩ := List.forall_mem_cons.mp plain
    exact ih (h.step hcall) hrest

end Session.Sound

/-- **The ids of a page never collide.** Take any sequence of calls on a page: widget ids are taken, widgets are
created with these ids, one with each, and asked for element ids, with nested ids that are repeated ones or do not end
in `]`. The widget ids differ from each other. Two element ids are the same only if one widget has been asked twice
for itself or for the same id that is no repeated one. And no element id but that of a widget itself is a widget id. -/
theorem page_ids_distinct (o : Output) (calls : List Call) (plain : ∀ call ∈ calls, call.Plain) :
    let s := Session.run { output := o } calls
    s.ids.Nodup ∧
      (s.answers.Pairwise fun a b =>
        a.text = b.text → a.widget = b.widget ∧ a.nested = b.nested ∧ ∀ base, a.nested ≠ some (base ++ "[]")) ∧
      ∀ a ∈ s.answers, a.nested ≠ none → a.text ∉ s.ids := by
  intro s
  have hstart : Session.Sound o.idSource.stem o.idSource.next { output := o } :=
    ⟨rfl, rfl, fun _ _ h => absurd h nofun, fun _ h => absurd h List.not_mem_nil, .nil⟩
  have hsound : s.Sound o.idSource.stem o.idSource.next := hstart.run plain
  refine ⟨?_, hsound.distinct, ?_⟩
  · rw [hsound.ids]
    exact (List.nodup_range' 1).map (Text.append_toString_injective _)
  · intro a ha hnested htaken
    obtain ⟨w, key, hknown⟩ := hsound.known a ha
    rw [hsound.ids] at htaken
    obtain ⟨n, -, hid⟩ := List.mem_map.mp htaken
    -- a widget id is the element id of the widget itself
    have hown : ElementKey.own.text (o.idSource.stem ++ toString n)
        = key.text (o.idSource.stem ++ toString (o.idSource.next + a.widget)) := by
      rw [← hknown.text, ← hid]
      simp [ElementKey.text, ElementKey.suffix]
    have hfixed : ∀ name, ElementKey.own = .fixed name → ¬ ∃ front, name = front ++ "]" := nofun
    obtain ⟨-, rfl⟩ := ElementKey.text_injective hfixed hknown.separable hown
    exact hnested hknown.nested.symm

/-- Two widgets whose ids end in digits, asked in turn for the same repeated id and for ids with digits, dashes and
brackets. -/
theorem page_ids_distinct_of_numbered_stem :
    let calls : List Call :=
      [.widgetId, .widgetId, .create 1 { id := "" }, .elementId 1 (some "a[]"), .create 0 { id := "" },
        .elementId 0 (some "a[]"), .elementId 1 (some "a[]"), .elementId 0 (some "1-a[0"), .elementId 1 none,
        .elementId 1 (some "a[0][]")]
    let s := Session.run { output := { shared := { idStem := some "w1-" } } } calls
    s.ids = ["w1-0", "w1-1"] ∧
      s.answers.map Answer.text =
        ["w1-1-a[0]", "w1-0-a[0]", "w1-1-a[1]", "w1-0-1-a[0", "w1-1", "w1-1-a[0][0]"] ∧
      s.answers.Pairwise fun a b =>
        a.text = b.text → a.widget = b.widget ∧ a.nested = b.nested ∧ ∀ base, a.nested ≠ some (base ++ "[]") := by
  intro calls s
  have hrepeated : ∀ base : String, Separable (base ++ "[]") := fun base => .inl ⟨base, rfl⟩
  have hopen : Separable "1-a[0" := by
    refine .inr ?_
    rintro ⟨front, h⟩
    exact absurd (congrArg (fun t => t.toList.getLast?) h) (by simp)
  have hplain : ∀ call ∈ calls, call.Plain := by
    simp only [calls, List.forall_mem_cons, Call.Plain, Option.mem_some_iff, forall_eq', Option.not_mem_none,
      false_imp_iff, implies_true, true_and, List.not_mem_nil]
    exact ⟨hrepeated "a", hrepeated "a", hrepeated "a", hopen, hrepeated "a[0]", trivial⟩
  exact ⟨by decide +kernel, by decide +kernel, (page_ids_distinct _ calls hplain).2.1⟩

end WidgetTemplates.Page
