import Mathlib.Data.List.Induction
import WidgetTemplates.Proofs.Compile.Spent
import WidgetTemplates.Proofs.Compile.WidgetScope

/-!
# Which handlers are heard

An ordinary element carries its handlers for the widget, each in an attribute that is named for the type of the event
(`listener`). The rule for events sets one after another, behind the attributes that stay
(`foldl_handleEvent_plain`). Different event attributes can be for the same type, `w-onclick` and `w-on-click` for
example, and then the later handler takes the place of the earlier one (`mem_listeners_iff`). A custom element hands
over all its handlers, and loses none (`events_handleEvents`).
-/

namespace WidgetTemplates.Compile

open Script (Expr)
open Template (Attribute Element)

/-! ## Listeners -/

/-- The attribute by which an ordinary element carries a handler. -/
def listener (type : String) (handler : Expr) : Attribute :=
  ⟨"data-w-on" ++ type, some (.concat [handler, .str "|", Expr.widget.member "id"])⟩

/-- A name of an attribute that carries a handler. -/
def IsListener (name : String) : Prop := "data-w-on".toList <+: name.toList

/-- Sets the listener of a handler. -/
def setListener (as : List Attribute) (p : String × Expr) : List Attribute :=
  Element.setIn ("data-w-on" ++ p.1) (.concat [p.2, .str "|", Expr.widget.member "id"]) as

/-- The last handler of a type. -/
def lastHandler? (pairs : List (String × Expr)) (type : String) : Option Expr :=
  (pairs.reverse.find? (·.1 == type)).map (·.2)

section Listeners

variable {pairs : List (String × Expr)} {type : String} {handler : Expr}

/-- An attribute with this stem is a listener. -/
theorem isListener_append (type : String) : IsListener ("data-w-on" ++ type) := by
  rw [IsListener, String.toList_append]
  exact List.prefix_append _ _

/-- A listener has the type and the handler that it was made of. -/
theorem listener_inj {type' : String} {handler' : Expr} (h : listener type handler = listener type' handler') :
    type = type' ∧ handler = handler' := by
  obtain ⟨hname, hvalue⟩ := Attribute.mk.inj h
  exact ⟨(String.append_right_inj _).mp hname, (List.cons.inj (Expr.concat.inj (Option.some.inj hvalue))).1⟩

/-- The handler in effect is the one that was set last. -/
theorem lastHandler?_concat (pairs : List (String × Expr)) (p : String × Expr) (type : String) :
    lastHandler? (pairs ++ [p]) type = if p.1 = type then some p.2 else lastHandler? pairs type := by
  rw [lastHandler?, List.reverse_append, List.reverse_singleton, List.singleton_append, List.find?_cons]
  by_cases h : p.1 = type
  · simp [h]
  · rw [if_neg h, beq_false_of_ne h, lastHandler?]

/-- Each type has one listener at most. -/
theorem nodup_listeners (pairs : List (String × Expr)) : ((pairs.foldl setListener []).map (·.name)).Nodup := by
  induction pairs using List.reverseRecOn with
  | nil => exact List.nodup_nil
  | append_singleton pairs p ih =>
    rw [List.foldl_append]
    exact Element.nodup_names_setIn ih _ _

/-- **Of the handlers of a type only the last one is left.** -/
theorem mem_listeners_iff :
    listener type handler ∈ pairs.foldl setListener [] ↔ lastHandler? pairs type = some handler := by
  induction pairs using List.reverseRecOn with
  | nil => simp [lastHandler?]
  | append_singleton pairs p ih =>
    rw [List.foldl_append, List.foldl_cons, List.foldl_nil, lastHandler?_concat]
    split
    · next h =>
      subst h
      constructor
      · -- the names of the listeners differ, so the one that was set last is the only one of its type
        intro hmem
        have hset := Element.mem_setIn_self ("data-w-on" ++ p.1) (.concat [p.2, .str "|", Expr.widget.member "id"])
          (pairs.foldl setListener [])
        have hdistinct := nodup_listeners (pairs ++ [p])
        rw [List.foldl_append] at hdistinct
        have hsame := List.inj_on_of_nodup_map hdistinct hmem hset rfl
        rw [(listener_inj hsame).2]
      · intro hsome
        rw [← Option.some.inj hsome]
        exact Element.mem_setIn_self _ _ _
    · next h =>
      rw [← ih]
      have hname : (listener type handler).name ≠ "data-w-on" ++ p.1 :=
        fun heq => h ((String.append_right_inj _).mp heq).symm
      constructor
      · intro hmem
        refine (Element.mem_setIn hmem).resolve_left fun heq => hname ?_
        rw [heq]
      · exact fun hmem => Element.mem_setIn_of_ne hmem hname _

/-- All handlers are left exactly if no two of one type differ. -/
theorem forall_lastHandler?_iff :
    (∀ p ∈ pairs, lastHandler? pairs p.1 = some p.2) ↔ ∀ p ∈ pairs, ∀ q ∈ pairs, p.1 = q.1 → p.2 = q.2 := by
  constructor
  · intro h p hp q hq heq
    have hlast := h p hp
    rw [heq, h q hq] at hlast
    exact (Option.some.inj hlast).symm
  · intro h p hp
    rw [lastHandler?]
    cases hfind : pairs.reverse.find? (·.1 == p.1) with
    | none =>
      have hne := List.find?_eq_none.mp hfind p (List.mem_reverse.mpr hp)
      exact absurd (beq_self_eq_true p.1) hne
    | some q =>
      have hq : q ∈ pairs := List.mem_reverse.mp (List.mem_of_find?_eq_some hfind)
      have htype : q.1 = p.1 := by simpa using List.find?_some hfind
      rw [Option.map_some, h q hq p hp htype]

end Listeners

namespace Site

variable {s : Site}

/-- An ordinary element takes the place of an event attribute with a listener behind the others. -/
theorem attributes_listen (plain : s.el.custom = false) {as added : List Attribute}
    (split : s.el.attributes = as ++ added) (apart : ∀ a ∈ as, ¬ IsListener a.name) (type : String) (handler : Expr) :
    (s.listen type handler).el.attributes = as ++ setListener added (type, handler) := by
  have hapart : ∀ a ∈ as, a.name ≠ "data-w-on" ++ type :=
    fun a ha heq => apart a ha (heq ▸ isListener_append type)
  rw [listen, plain]
  simp only [Bool.false_eq_true, if_false, setAttr, Element.set, split]
  exact Element.setIn_append hapart _ added

/-- The event attributes behind `kept` are taken one by one, and those with a value become listeners at the end. -/
theorem foldl_handleEvent_plain (plain : s.el.custom = false) {kept rest added : List Attribute}
    (split : s.el.attributes = kept ++ rest ++ added) (quiet : ∀ a ∈ kept, isEvent a = false)
    (apart : ∀ a ∈ kept ++ rest, ¬ IsListener a.name) :
    (((rest.filter isEvent).map (·.name)).foldl handleEvent s).el.attributes =
      kept ++ rest.filter (fun a => !isEvent a) ++ (rest.filterMap handler?).foldl setListener added := by
  induction rest generalizing s kept added with
  | nil => simpa using split
  | cons a rest ih =>
    rcases ha : isEvent a with _ | _
    · have hquiet : ∀ b ∈ kept ++ [a], isEvent b = false := by
        simpa [or_imp, forall_and, ha] using quiet
      have hsplit : s.el.attributes = kept ++ [a] ++ rest ++ added := by rw [split, List.append_cons kept a rest]
      have := ih plain hsplit hquiet (by simpa using apart)
      simpa [ha, handler?_eq_none ha] using this
    · have hsplit : s.el.attributes = kept ++ a :: (rest ++ added) := by rw [split, List.append_assoc, List.cons_append]
      obtain ⟨hdrop, hevent⟩ := handleEvent_behind hsplit ha quiet
      rw [← List.append_assoc] at hdrop
      have hapart : ∀ b ∈ kept ++ rest, ¬ IsListener b.name := by
        intro b hb
        refine apart b ?_
        simp only [List.mem_append, List.mem_cons] at hb ⊢
        exact hb.imp_right .inr
      -- the site after this attribute, from which the induction goes on
      obtain ⟨t, ht, htplain, htsplit⟩ : ∃ t, s.handleEvent a.name = t ∧ t.el.custom = false ∧
          t.el.attributes = kept ++ rest ++ (handler? a).toList.foldl setListener added := by
        refine ⟨_, hevent, ?_⟩
        rcases handler? a with _ | ⟨type, handler⟩
        · exact ⟨plain, hdrop⟩
        · have hcustom := ((s.drop a.name).listen_frame type handler).2.2.1
          exact ⟨hcustom.trans plain, attributes_listen (s := s.drop a.name) plain hdrop hapart type handler⟩
      have := ih htplain htsplit quiet hapart
      simp only [List.filter_cons, ha, if_true, List.map_cons, List.foldl_cons, ht, Bool.not_true, Bool.false_eq_true,
        if_false, this]
      rcases hh : handler? a with _ | h <;> simp [hh]

section Inside

variable (inside : s.inWidget = true)
include inside

/-- A custom element hands over all its handlers. -/
theorem events_handleEvents (custom : s.el.custom = true) :
    s.handleEvents.handedOver.events = s.handedOver.events ++ s.el.attributes.filterMap handler? := by
  obtain ⟨-, hevents, -⟩ := foldl_handleEvent_custom (s := s) custom (List.nil_append _).symm nofun
  rw [← eventNames_eq] at hevents
  rcases handleEvents_inside inside with ⟨-, h⟩ | ⟨-, h⟩
  · -- the id that is handed over next changes no event
    have hnested : (s.eventNames.foldl handleEvent s).nestedId.2.handedOver.events =
        (s.eventNames.foldl handleEvent s).handedOver.events := by
      rw [handedOver, nestedId, handover_assign]
      rfl
    exact (congrArg (·.handedOver.events) h).trans (hnested.trans hevents)
  · exact (congrArg (·.handedOver.events) h).trans hevents

/-- An ordinary element without listeners gets those of its handlers behind its other attributes. -/
theorem attributes_handleEvents (plain : s.el.custom = false) (unheard : ∀ a ∈ s.el.attributes, ¬ IsListener a.name) :
    s.handleEvents.el.attributes =
      s.el.attributes.filter (fun a => !isEvent a) ++ (s.el.attributes.filterMap handler?).foldl setListener [] := by
  have hkept := foldl_handleEvent_plain plain (List.append_nil ([] ++ s.el.attributes)).symm nofun unheard
  rw [← eventNames_eq, List.nil_append] at hkept
  rcases handleEvents_inside inside with ⟨hands, -⟩ | ⟨-, h⟩
  · simp [handsEvents, plain] at hands
  · exact (congrArg (·.el.attributes) h).trans hkept

end Inside

/-- **When no handler of an event is lost.** In a widget the rule for events leaves no event attribute. A custom element
hands over the handlers of all of them, in order. An ordinary one that had no listeners carries of each type the last
handler. So it carries all of them exactly if no two of its handlers for one type differ. -/
theorem handlers_heard_iff (inside : s.inWidget = true) (unheard : ∀ a ∈ s.el.attributes, ¬ IsListener a.name) :
    let pairs := s.el.attributes.filterMap handler?
    let s' := s.handleEvents
    (∀ a ∈ s'.el.attributes, isEvent a = false) ∧
      (s.el.custom = true → s'.handedOver.events = s.handedOver.events ++ pairs) ∧
      (s.el.custom = false →
        (∀ type handler, listener type handler ∈ s'.el.attributes ↔ lastHandler? pairs type = some handler) ∧
          ((∀ p ∈ pairs, listener p.1 p.2 ∈ s'.el.attributes) ↔ ∀ p ∈ pairs, ∀ q ∈ pairs, p.1 = q.1 → p.2 = q.2)) := by
  intro pairs s'
  refine ⟨?_, events_handleEvents inside, fun plain => ?_⟩
  · have hnone : s'.eventAttributes = [] := eventAttributes_handleEvents inside
    intro a ha
    simpa using List.filter_eq_nil_iff.mp hnone a ha
  · have hmem : ∀ type handler, listener type handler ∈ s'.el.attributes ↔ lastHandler? pairs type = some handler := by
      intro type handler
      rw [attributes_handleEvents inside plain unheard, List.mem_append, mem_listeners_iff]
      -- no attribute that stays is a listener
      refine or_iff_right fun hmem => ?_
      exact unheard _ (List.mem_filter.mp hmem).1 (isListener_append type)
    refine ⟨hmem, ?_⟩
    simp only [hmem]
    exact forall_lastHandler?_iff

/-- Two events of a field, and a third that nothing handles: both handlers are there, `w-on-Focus` as `focus`. -/
theorem handlers_heard_of_field :
    let field : Element := { tag := "input", attributes :=
      [⟨"w-onchange", some (.str "keep")⟩, ⟨"w-onblur", none⟩, ⟨"title", some (.str "name")⟩,
        ⟨"w-on-Focus", some (.str "show")⟩] }
    let s : Site := .start field { widgets := [⟨"div", ⟨0, 0⟩, .str "./w", false, []⟩] } false
    s.inWidget = true ∧ (∀ a ∈ s.el.attributes, ¬ IsListener a.name) ∧
      (∀ a ∈ s.handleEvents.el.attributes, isEvent a = false) ∧
        listener "change" (.str "keep") ∈ s.handleEvents.el.attributes ∧
          listener "focus" (.str "show") ∈ s.handleEvents.el.attributes := by
  intro field s
  have inside : s.inWidget = true := rfl
  have unheard : ∀ a ∈ s.el.attributes, ¬ IsListener a.name := by simp [s, field, start, IsListener]
  obtain ⟨hnone, -, hplain⟩ := handlers_heard_iff inside unheard
  obtain ⟨hlast, -⟩ := hplain rfl
  exact ⟨inside, unheard, hnone, (hlast "change" _).mpr rfl, (hlast "focus" _).mpr rfl⟩

/-- Two attributes for one event: `w-on-click` takes the place of `w-onclick`, whose handler is lost. -/
theorem earlier_handler_lost :
    let button : Element := { tag := "button", attributes :=
      [⟨"w-onclick", some (.str "a")⟩, ⟨"w-on-click", some (.str "b")⟩] }
    let s : Site := .start button { widgets := [⟨"div", ⟨0, 0⟩, .str "./w", false, []⟩] } false
    s.inWidget = true ∧ s.el.names.Nodup ∧ (∀ a ∈ s.el.attributes, ¬ IsListener a.name) ∧
      s.el.attributes.filterMap handler? = [("click", .str "a"), ("click", .str "b")] ∧
        s.handleEvents.el.attributes = [listener "click" (.str "b")] ∧
          listener "click" (.str "a") ∉ s.handleEvents.el.attributes := by
  intro button s
  have hleft : s.handleEvents.el.attributes = [listener "click" (.str "b")] := rfl
  refine ⟨rfl, by decide, by simp [s, button, start, IsListener], rfl, hleft, ?_⟩
  rw [hleft, List.mem_singleton]
  simp [listener]

end Site

end WidgetTemplates.Compile
