import WidgetTemplates.Proofs.Compile.ExplicitIds

/-!
# Numbers beside the ids that a template gives

Numbers and the values of `w-id` share one namespace, that of the widget around the element. The numbers are taken in
document order and nothing is compared with the ids that the template gives, before or behind. So two numbers never
make the same id (`AssignedId.nested_numbered_inj`), but a number and a given id do if the template gives the text of
the number.

An element has a number exactly if it needs one (`NestedTurn.needsNumber`), and the number counts the elements before it
that need one (`Counts.nextId_of_getElem?`). So `clashing_ids_iff` can say from the template alone which ids are the
same.
-/

namespace WidgetTemplates.Compile

open Script (Expr Stmt)
open Template (Element Node)

namespace AssignedId

/-- Inside the containing widget a numbered id is the literal of its number, marked if it is repeated. -/
theorem nested_numbered (n : Nat) (repeated : Bool) :
    (numbered n repeated).nested = .str (toString n ++ if repeated then "[]" else "") := by
  cases repeated with
  | false => exact congrArg Expr.str (String.append_empty).symm
  | true => rfl

/-- The nested forms of different numbers are different. -/
theorem nested_numbered_inj {n m : Nat} {repeated repeated' : Bool}
    (h : (numbered n repeated).nested = (numbered m repeated').nested) : n = m := by
  rw [nested_numbered, nested_numbered] at h
  have htext := congrArg String.toList (Expr.str.inj h)
  rw [String.toList_append, String.toList_append] at htext
  exact (Text.toString_append_inj (by cases repeated <;> rfl) (by cases repeated' <;> rfl) htext).1

end AssignedId

/-! ## The id of one element -/

namespace Turn

variable (t : Turn)

/-- The id of the element inside the widget around it: the settled one, or the one that a root hands over. -/
def nestedId? : Option Expr := (t.site.assigned.map (·.nested)).or t.site.handedOver.id

/-- The finished element has an id: a custom element or a root has it in the call before it, any other as its `id`, or
in a variable that is declared before it. -/
def Receives (e : Expr) : Prop :=
  if t.el.custom || t.bound then depositedId? t.woven = some e
  else ∃ value, t.woven.find? "id" = some ⟨"id", some value⟩ ∧
    (value = elementIdCall (some e) ∨
      ∃ name, value = .ident name ∧ .var name (elementIdCall (some e)) ∈ t.woven.before)

variable {t} {e : Expr}

/-- An id is received as what it is settled as, or as what a root hands over. -/
theorem receives_of_settled (loose : t.bound = false) (inside : t.unit.widgets ≠ []) {a : AssignedId}
    (settled : t.site.assigned = some a) (delivered : ¬ (t.el.custom = true ∧ asksAsAnySlot t.el = true)) :
    t.Receives a.nested := by
  have hdelivers := (delivers_iff loose inside settled).mpr delivered
  rw [Delivers] at hdelivers
  rw [Receives, loose, Bool.or_false]
  rcases hc : t.el.custom with _ | _ <;> rw [hc] at hdelivers
  · rw [if_neg Bool.false_ne_true] at hdelivers ⊢
    refine ⟨a.absolute, hdelivers, ?_⟩
    -- only a number in its repeated form has a variable, and that is declared when the id is settled
    obtain ⟨-, hbefore, hsettles⟩ := (Site.applyRules_ordinaryId (t.isRoot_site.trans loose) hc).settled a settled
    have hdeclared : ∀ stmt ∈ a.preamble, stmt ∈ t.woven.before := fun stmt hstmt => by
      refine (t.woven_of_loose loose).2 ?_
      rw [site, hbefore]
      exact List.mem_append_right _ hstmt
    generalize (Site.start t.el t.unit t.inLoop).applyRules.unit.nextId = next at hsettles
    cases hsettles with
    | explicit given => exact .inl rfl
    | numbered repeated free =>
      cases repeated with
      | false => exact .inl rfl
      | true => exact .inr ⟨_, rfl, hdeclared _ (by rw [AssignedId.preamble_ready]; exact List.mem_singleton_self _)⟩
  · rw [if_pos rfl] at hdelivers ⊢
    obtain ⟨h, hh, hid, -⟩ := hdelivers
    exact depositedId?_woven (by rw [Site.handedOver, hh]; exact hid)

end Turn

namespace NestedTurn

variable {n : NestedTurn}

/-- The turn of the nearest bound element around the element. -/
def owner? (n : NestedTurn) : Option Turn := n.above.find? Turn.bound

/-- The id that the template gives an element that does not need a number. -/
def explicitId? (n : NestedTurn) : Option Expr := if n.needsNumber then none else n.turn.el.value? "w-id"

/-- The id of an element that needs a number, if `k` of those before it need one. -/
def allocatedId? (n : NestedTurn) (k : Nat) : Option Expr :=
  if n.needsNumber then some (AssignedId.numbered k n.turn.repeats).nested else none

section Owned

variable (around : Innermost [] n.owner? n.turn.unit.widgets) (owned : n.owner?.isSome = true)
include around owned

/-- An element with a bound one around it has an open widget around it. -/
theorem enclosed_of_owner : n.turn.unit.widgets ≠ [] := by
  obtain ⟨r, hr⟩ := Option.isSome_iff_exists.mp owned
  rw [hr] at around
  obtain ⟨w, hw, -⟩ := around
  simp [hw]

/-- So its rules find a widget. -/
theorem inWidget_of_owner : n.root?.isSome = true ∧ n.turn.entered.inWidget = true := by
  have hroot : n.root?.isSome = true := by
    rw [root?, List.find?_cons]
    split
    · rfl
    · exact owned
  exact ⟨hroot, (n.inWidget_entered around).trans hroot⟩

variable (distinct : n.turn.el.names.Nodup)
include distinct

/-- An element that needs a number has it as its id. -/
theorem nestedId?_of_needs (needs : n.needsNumber = true) :
    n.turn.nestedId? = some (AssignedId.numbered n.turn.unit.nextId n.turn.repeats).nested := by
  have hallocates := n.allocates distinct around
  rw [Allocates, if_pos needs] at hallocates
  obtain ⟨hnext, a, ha, -⟩ := hallocates
  rw [Turn.nestedId?, ha]
  rcases (n.turn.takesAs_repeats (inWidget_of_owner around owned).2).settled a ha with h | h
  · omega
  · exact congrArg some h.1

/-- Any other element in a widget has the id that the template gives it. -/
theorem nestedId?_of_needless (needless : n.needsNumber = false) :
    n.turn.nestedId? = n.turn.el.value? "w-id" := by
  obtain ⟨rooted, inside⟩ := inWidget_of_owner around owned
  have hallocates := n.allocates distinct around
  rw [Allocates, if_neg (by simp [needless])] at hallocates
  have hsettled := n.turn.settled_site inside
  rw [needsNumber_eq, rooted, Bool.true_and, Turn.given?] at needless
  rcases hb : n.turn.bound with _ | _ <;> rw [hb] at needless
  · rw [if_neg Bool.false_ne_true] at needless
    rcases hg : n.turn.el.value? "w-id" with _ | e
    · -- nothing asks for the id, so none is settled and none is handed over
      rw [hg, Option.isNone_none, Bool.true_and] at needless
      rw [needless, Option.isSome_eq_false_iff, Option.isNone_iff_eq_none] at hsettled
      rcases hh : n.turn.site.handedOver.id with _ | id
      · rw [Turn.nestedId?, hsettled, hh]
        rfl
      · obtain ⟨a, ha, -⟩ := Turn.handsSettled_site hb id hh
        exact absurd (ha.symm.trans hsettled) (Option.some_ne_none a)
    · rw [Turn.asksId, hb, if_neg Bool.false_ne_true, Element.has_of_value? hg] at hsettled
      obtain ⟨a, ha⟩ := Option.isSome_iff_exists.mp hsettled
      obtain ⟨e', hg', hforms⟩ := hallocates.2 a ha
      obtain rfl := Option.some.inj (hg.symm.trans hg')
      rw [Turn.nestedId?, ha]
      exact congrArg some hforms.1
  · rw [if_pos rfl, Option.isNone_none, Bool.true_and, Turn.asksId, hb, if_pos rfl] at needless
    rw [Turn.asksId, hb, if_pos rfl, needless, Option.isSome_eq_false_iff, Option.isNone_iff_eq_none] at hsettled
    rw [Turn.nestedId?, hsettled]
    exact Turn.handedId_of_bound hb (enclosed_of_owner around owned) needless

/-- So its id is one of the two. -/
theorem nestedId?_eq : n.turn.nestedId? = (n.allocatedId? n.turn.unit.nextId).or n.explicitId? := by
  rw [allocatedId?, explicitId?]
  rcases hneeds : n.needsNumber with _ | _
  · exact nestedId?_of_needless around owned distinct hneeds
  · exact nestedId?_of_needs around owned distinct hneeds

/-- Every element in a widget receives its id, unless it is a custom one and only a body slot asks for the id. -/
theorem receives_nestedId? {e : Expr} (has : n.turn.nestedId? = some e)
    (delivered : ¬ (n.turn.el.custom = true ∧ asksAsAnySlot n.turn.el = true)) : n.turn.Receives e := by
  have henclosed := enclosed_of_owner around owned
  rcases hb : n.turn.bound with _ | _
  · rcases ha : n.turn.site.assigned with _ | a
    · rw [Turn.nestedId?, ha] at has
      obtain ⟨a, ha', -⟩ := Turn.handsSettled_site hb e has
      exact absurd (ha'.symm.trans ha) (Option.some_ne_none a)
    · rw [Turn.nestedId?, ha] at has
      obtain rfl := Option.some.inj has
      exact Turn.receives_of_settled hb henclosed ha delivered
  · rw [Turn.Receives, hb, Bool.or_true, if_pos rfl]
    refine Turn.depositedId?_woven ?_
    have hasks : n.needsNumber = handsEvents n.turn.el := by
      rw [needsNumber_eq, (inWidget_of_owner around owned).1, Turn.given?, Turn.asksId, hb]
      rfl
    rcases hneeds : n.needsNumber with _ | _
    · rw [nestedId?_of_needless around owned distinct hneeds] at has
      exact (Turn.handedId_of_bound hb henclosed (hasks.symm.trans hneeds)).trans has
    · rw [nestedId?_of_needs around owned distinct hneeds, Turn.repeats, hb] at has
      exact (Turn.handedId_of_listening hb (hasks.symm.trans hneeds) distinct).trans has

end Owned

/-- If two elements that need a number do not have the same one, they have the same id only if the template gives it to
one of them. -/
theorem same_id_iff {m : NestedTurn} {k l : Nat} (apart : n.needsNumber = true → m.needsNumber = true → k ≠ l)
    (e : Expr) :
    (n.allocatedId? k).or n.explicitId? = some e ∧ (m.allocatedId? l).or m.explicitId? = some e ↔
      n.explicitId? = some e ∧ m.explicitId? = some e ∨
        n.explicitId? = some e ∧ m.allocatedId? l = some e ∨ n.allocatedId? k = some e ∧ m.explicitId? = some e := by
  simp only [allocatedId?, explicitId?]
  rcases hneeds : n.needsNumber with _ | _ <;> rcases hneeds' : m.needsNumber with _ | _
  · simp
  · simp
  · simp
  · simp only [if_true, Option.some_or, Option.some.injEq, reduceCtorEq, and_false, false_and, or_self, iff_false]
    rintro ⟨hone, htwo⟩
    exact apart hneeds hneeds' (AssignedId.nested_numbered_inj (hone.trans htwo.symm))

end NestedTurn

/-! ## Forests -/

/-- If turns count and each takes a number exactly if it needs one, a turn begins with the number of those before it
that need one. -/
theorem Counts.nextId_of_getElem? {lo hi i : Nat} {ns : List NestedTurn} {n : NestedTurn}
    (h : Counts lo (ns.map NestedTurn.turn) hi) (allocates : ∀ n ∈ ns, n.Allocates) (at_i : ns[i]? = some n) :
    n.turn.unit.nextId = lo + (ns.take i).countP NestedTurn.needsNumber := by
  induction ns generalizing lo i with
  | nil => simp at at_i
  | cons m rest ih =>
    obtain ⟨hlo, hrest⟩ := h
    cases i with
    | zero =>
      obtain rfl : m = n := by simpa using at_i
      simpa using hlo
    | succ i =>
      have hm := allocates m List.mem_cons_self
      rw [ih hrest (fun n hn => allocates n (List.mem_cons_of_mem _ hn)) (by simpa using at_i), List.take_succ_cons,
        List.countP_cons]
      rcases hneeds : m.needsNumber with _ | _
      · rw [(hm.taken_of_not_needs hneeds).1, hlo]
        rfl
      · rw [(hm.taken_of_needs hneeds).1, hlo, if_pos rfl]
        omega

/-- Two elements that need a number have different numbers of such elements before them. -/
theorem countP_take_ne {i j : Nat} {ns : List NestedTurn} {n m : NestedTurn} (apart : i ≠ j) (at_i : ns[i]? = some n)
    (at_j : ns[j]? = some m) (needs : n.needsNumber = true) (needs' : m.needsNumber = true) :
    (ns.take i).countP NestedTurn.needsNumber ≠ (ns.take j).countP NestedTurn.needsNumber := by
  have hlt : ∀ {i j : Nat} {n : NestedTurn}, i < j → ns[i]? = some n → n.needsNumber = true →
      (ns.take i).countP NestedTurn.needsNumber < (ns.take j).countP NestedTurn.needsNumber := by
    intro i j n hij at_i needs
    have hle : (ns.take (i + 1)).countP NestedTurn.needsNumber ≤ (ns.take j).countP NestedTurn.needsNumber :=
      (List.take_sublist_take_left hij).countP_le
    rw [List.take_add_one, at_i, Option.toList_some, List.countP_append, List.countP_singleton, if_pos needs] at hle
    omega
  rcases Nat.lt_or_gt_of_ne apart with h | h
  · exact Nat.ne_of_lt (hlt h at_i needs)
  · exact (Nat.ne_of_lt (hlt h at_j needs')).symm

/-- **Which elements of a template get the same id.** Take a template in which no element lists an attribute twice, and
two elements in it that have bound elements around them. Each of them has the id that the template gives it, or, if it
needs a number, the number of elements before it that need one, in its fixed or in its repeated form; and it receives
this id, unless it is a custom element and only a body slot asks for the id. The two have the same id exactly if the
template gives it to both, or gives it to one of them while it is the number of the other. Two numbers never make the
same id. -/
theorem clashing_ids_iff (settings : Template.Settings) (files : Path.Files) (nodes : List Node)
    (distinct : ∀ el ∈ elementsAll nodes, el.names.Nodup) :
    let all := nestedTurnsAll [] false { settings, files } nodes
    let number := fun i => (all.take i).countP NestedTurn.needsNumber
    all.map (·.turn.el) = elementsAll nodes ∧
      (∀ (i : Nat) (n : NestedTurn), all[i]? = some n → n.owner?.isSome = true →
        n.turn.nestedId? = (n.allocatedId? (number i)).or n.explicitId? ∧
          ∀ e, n.turn.nestedId? = some e → ¬ (n.turn.el.custom = true ∧ asksAsAnySlot n.turn.el = true) →
            n.turn.Receives e) ∧
      ∀ (i j : Nat) (n m : NestedTurn), i ≠ j → all[i]? = some n → all[j]? = some m → n.owner?.isSome = true →
        m.owner?.isSome = true → ∀ e, (n.turn.nestedId? = some e ∧ m.turn.nestedId? = some e ↔
          n.explicitId? = some e ∧ m.explicitId? = some e ∨
            n.explicitId? = some e ∧ m.allocatedId? (number j) = some e ∨
            n.allocatedId? (number i) = some e ∧ m.explicitId? = some e) := by
  intro all number
  have hall : all.map (·.turn.el) = elementsAll nodes := by
    rw [← map_el_turnsAll false { settings, files }, ← map_turn_nestedTurnsAll [], List.map_map]
    rfl
  have hdistinct : ∀ n ∈ all, n.turn.el.names.Nodup := fun n hn =>
    distinct _ (hall ▸ List.mem_map.mpr ⟨n, hn, rfl⟩)
  have start : Innermost [] (([] : List Turn).find? Turn.bound) ({ settings, files } : CompileUnit).widgets :=
    SameStack.refl []
  have haround : ∀ n ∈ all, Innermost [] n.owner? n.turn.unit.widgets := fun n hn =>
    innermost_of_mem_nestedTurnsAll start hn
  have hcounts : Counts 0 (all.map NestedTurn.turn) (weaveForest false { settings, files } nodes).2.nextId := by
    rw [map_turn_nestedTurnsAll]
    exact counts_turnsAll false { settings, files } nodes
  -- an allocated number counts the elements before this one that need a number
  have hid : ∀ (i : Nat) (n : NestedTurn), all[i]? = some n → n.owner?.isSome = true →
      n.turn.nestedId? = (n.allocatedId? (number i)).or n.explicitId? := by
    intro i n at_i owned
    have hn := List.mem_of_getElem? at_i
    have hnext := hcounts.nextId_of_getElem? (fun n hn => n.allocates (hdistinct n hn) (haround n hn)) at_i
    rw [NestedTurn.nestedId?_eq (haround n hn) owned (hdistinct n hn), hnext, Nat.zero_add]
  refine ⟨hall, fun i n at_i owned => ⟨hid i n at_i owned, fun e has delivered => ?_⟩, ?_⟩
  · have hn := List.mem_of_getElem? at_i
    exact NestedTurn.receives_nestedId? (haround n hn) owned (hdistinct n hn) has delivered
  · intro i j n m apart at_i at_j owned owned' e
    rw [hid i n at_i owned, hid j m at_j owned']
    exact NestedTurn.same_id_iff (countP_take_ne apart at_i at_j) e

/-- A paragraph whose given id is no number keeps apart from two slots, whose numbers keep apart from each other. -/
theorem clashing_ids_iff_of_slots :
    let nodes : List Node :=
      [.element { tag := "div", attributes := [⟨"w-bind", some (.str "./w")⟩] }
        [.element { tag := "p", attributes := [⟨"w-id", some (.str "name")⟩] } [],
          .element { tag := "b", attributes := [⟨"w-body", none⟩] } [],
          .element { tag := "i", attributes := [⟨"w-body", none⟩] } []]]
    (∀ el ∈ elementsAll nodes, el.names.Nodup) ∧
      ∃ root p b i, nestedTurnsAll [] false {} nodes = [root, p, b, i] ∧ p.turn.Receives (.str "name") ∧
        ∀ e, ¬ (b.turn.nestedId? = some e ∧ i.turn.nestedId? = some e) ∧
          ¬ (p.turn.nestedId? = some e ∧ b.turn.nestedId? = some e) := by
  intro nodes
  have distinct : ∀ el ∈ elementsAll nodes, el.names.Nodup := by decide
  obtain ⟨-, hids, hclash⟩ := clashing_ids_iff {} {} nodes distinct
  let number := fun i => ((nestedTurnsAll [] false {} nodes).take i).countP NestedTurn.needsNumber
  obtain ⟨root, p, b, i, hall, ⟨hp, hgiven, hnone, hplain⟩, ⟨hb, hfree, hzero⟩, hi, hfree'⟩ : ∃ root p b i,
      nestedTurnsAll [] false {} nodes = [root, p, b, i] ∧
        (p.owner?.isSome = true ∧ p.explicitId? = some (.str "name") ∧ p.allocatedId? (number 1) = none ∧
          p.turn.el.custom = false) ∧
        (b.owner?.isSome = true ∧ b.explicitId? = none ∧ b.allocatedId? (number 2) = some (.str (toString 0))) ∧
        i.owner?.isSome = true ∧ i.explicitId? = none :=
    ⟨_, _, _, _, rfl, ⟨rfl, rfl, rfl, rfl⟩, ⟨rfl, rfl, rfl⟩, rfl, rfl⟩
  have at_p : (nestedTurnsAll [] false {} nodes)[1]? = some p := by rw [hall]; rfl
  have at_b : (nestedTurnsAll [] false {} nodes)[2]? = some b := by rw [hall]; rfl
  have at_i : (nestedTurnsAll [] false {} nodes)[3]? = some i := by rw [hall]; rfl
  obtain ⟨hid, hreceives⟩ := hids 1 p at_p hp
  have hname : p.turn.nestedId? = some (.str "name") := hid.trans (by rw [hnone, hgiven]; rfl)
  refine ⟨distinct, root, p, b, i, hall, hreceives _ hname (by simp [hplain]), fun e => ⟨fun h => ?_, fun h => ?_⟩⟩
  · have := (hclash 2 3 b i (by decide) at_b at_i hb hi e).mp h
    simp [hfree, hfree'] at this
  · rcases (hclash 1 2 p b (by decide) at_p at_b hp hb e).mp h with ⟨-, h⟩ | ⟨h, h'⟩ | ⟨-, h⟩
    · exact absurd (h.symm.trans hfree) (Option.some_ne_none e)
    · have hsame := Option.some.inj ((hgiven.symm.trans h).trans (h'.symm.trans hzero))
      exact absurd (Expr.str.inj hsame) (by decide)
    · exact absurd (h.symm.trans hfree) (Option.some_ne_none e)

/-- A template that gives a paragraph the id `0`: the slot behind it has this id too, as its number. -/
theorem given_id_is_number :
    let nodes : List Node :=
      [.element { tag := "div", attributes := [⟨"w-bind", some (.str "./w")⟩] }
        [.element { tag := "p", attributes := [⟨"w-id", some (.str "0")⟩] } [],
          .element { tag := "i", attributes := [⟨"w-body", none⟩] } []]]
    (weave {} nodes).2.diagnostics = [] ∧
      ∃ root p i, nestedTurnsAll [] false {} nodes = [root, p, i] ∧
        p.owner? = some root.turn ∧ i.owner? = some root.turn ∧
          p.turn.el.value? "w-id" = some (.str "0") ∧ i.turn.taken = [0] ∧
            p.turn.woven.find? "id" = some ⟨"id", some (elementIdCall (some (.str "0")))⟩ ∧
              i.turn.woven.find? "id" = some ⟨"id", some (elementIdCall (some (.str "0")))⟩ :=
  ⟨rfl, _, _, _, rfl, rfl, rfl, rfl, rfl, rfl, rfl⟩

end WidgetTemplates.Compile
