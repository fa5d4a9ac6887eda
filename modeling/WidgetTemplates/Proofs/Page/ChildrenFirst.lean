import Mathlib.Data.List.Induction
import Mathlib.Data.List.Nodup
import WidgetTemplates.Proofs.Json.ReadBack
import WidgetTemplates.Proofs.Page.Emission

/-!
# Collecting is a children-first flattening

Every widget of a forest has an address: the number of its tree, the number of the child on the way down, and so on.
One widget is complete before another if it lies below it or in a tree to the left of it
(`Address.CompletesBefore`). Collecting lists all widgets in this order and makes the two stores in passing, so an id
that comes again keeps its first place in a store and gets the value of its last widget (`Members.Gathers`).

The main result is `collected_children_first`. Addresses are needed because nothing else tells apart two widgets that
look the same.
-/

namespace WidgetTemplates.Json.Members

variable {key k : String} {value : Json} {store : Members}

/-- A store gathers entries: its keys are those of the entries, each at its first place, and the value of a key is that
of its last entry. -/
structure Gathers (entries store : Members) : Prop where
  keys : store.map Prod.fst = (entries.map Prod.fst).eraseDups
  values : ∀ key, get? key store = ((entries.filter (·.1 == key)).getLast?).map (·.2)

/-- A new key comes last, and one that is there stays where it is. -/
theorem keys_insert : (insert key value store).map Prod.fst =
    if key ∈ store.map Prod.fst then store.map Prod.fst else store.map Prod.fst ++ [key] := by
  induction store with
  | nil => rfl
  | cons m rest ih =>
    rw [insert]
    by_cases h : m.1 = key
    · rw [if_pos (by simpa using h), if_pos (by simp [h])]
      rfl
    · have hne : key ≠ m.1 := Ne.symm h
      rw [if_neg (by simpa using h), List.map_cons, ih, List.map_cons]
      simp only [List.mem_cons, hne, false_or]
      split <;> rfl

/-- An inserted value is found under its key, and all others under theirs. -/
theorem get?_insert : get? k (insert key value store) = if key = k then some value else get? k store := by
  induction store with
  | nil => simp [insert, get?]
  | cons m rest ih =>
    rw [insert]
    by_cases h : m.1 = key
    · by_cases hk : key = k <;> simp_all [get?]
    · by_cases hk : key = k
      · have hm : m.1 ≠ k := hk ▸ h
        simp_all [get?]
      · simp_all [get?]

/-- A key is not looked up if it is not there. -/
theorem get?_of_notMem (h : key ∉ store.map Prod.fst) : get? key store = none := by
  induction store with
  | nil => rfl
  | cons m rest ih =>
    rw [List.map_cons, List.mem_cons, not_or] at h
    have hne : m.1 ≠ key := Ne.symm h.1
    rw [get?, if_neg (by simpa using hne), ih h.2]

/-- If the keys are different, every member is looked up. -/
theorem get?_of_mem (distinct : (store.map Prod.fst).Nodup) (h : (key, value) ∈ store) :
    get? key store = some value := by
  induction store with
  | nil => exact absurd h List.not_mem_nil
  | cons m rest ih =>
    rw [List.map_cons, List.nodup_cons] at distinct
    obtain ⟨hfresh, hrest⟩ := distinct
    rcases List.mem_cons.mp h with rfl | h
    · simp [get?]
    · have hne : m.1 ≠ key := by
        rintro rfl
        exact hfresh (List.mem_map.mpr ⟨_, h, rfl⟩)
      rw [get?, if_neg (by simpa using hne), ih hrest h]

/-- Inserting entries one after another gathers them. -/
theorem gathers_foldl_insert (entries : Members) :
    Gathers entries (entries.foldl (fun store e => insert e.1 e.2 store) []) := by
  induction entries using List.reverseRecOn with
  | nil => exact ⟨rfl, fun _ => rfl⟩
  | append_singleton entries e ih =>
    rw [List.foldl_append, List.foldl_cons, List.foldl_nil]
    constructor
    · rw [keys_insert, ih.keys, List.map_append, List.eraseDups_append]
      by_cases h : e.1 ∈ entries.map Prod.fst <;> simp_all [List.removeAll, List.eraseDups_cons]
    · intro key
      rw [get?_insert, ih.values, List.filter_append]
      by_cases h : e.1 = key <;> simp [h]

/-- Entries of different keys are a store as they are. -/
theorem foldl_insert_of_nodup {entries : Members} (distinct : (entries.map Prod.fst).Nodup) :
    entries.foldl (fun store e => insert e.1 e.2 store) [] = entries := by
  induction entries using List.reverseRecOn with
  | nil => rfl
  | append_singleton entries e ih =>
    rw [List.map_append, List.nodup_append] at distinct
    obtain ⟨hbefore, -, happart⟩ := distinct
    have hfresh : e.1 ∉ entries.map Prod.fst := fun h => happart _ h e.1 (List.mem_singleton_self _) rfl
    rw [List.foldl_append, ih hbefore, List.foldl_cons, List.foldl_nil, insert_of_notMem hfresh]

end WidgetTemplates.Json.Members

namespace WidgetTemplates.Page

open Json (Members)

/-! ## Addresses -/

/-- Where a widget stands in a forest: the number of its tree, then of the child in that tree, and so on. -/
abbrev Address := List Nat

namespace Address

/-- A widget at `p` lies below one at `q`. -/
def Below (p q : Address) : Prop := ∃ k rest, p = q ++ k :: rest

/-- A widget at `p` is complete before one at `q`: it lies below it, or in a tree further to the left. -/
def CompletesBefore (p q : Address) : Prop :=
  p.Below q ∨ ∃ common i j left right, i < j ∧ p = common ++ i :: left ∧ q = common ++ j :: right

/-- A widget is not complete before those below it. -/
theorem Below.not_completesBefore {p q : Address} (h : p.Below q) : ¬ q.CompletesBefore p := by
  obtain ⟨k, rest, rfl⟩ := h
  rintro (⟨k', rest', heq⟩ | ⟨common, i, j, left, right, hlt, rfl, heq⟩)
  · have := congrArg List.length heq
    simp only [List.length_append, List.length_cons] at this
    omega
  · rw [List.append_assoc, List.append_cancel_left_eq, List.cons_append, List.cons.injEq] at heq
    omega

/-- Nothing lies below itself. -/
theorem Below.ne {p q : Address} (h : p.Below q) : p ≠ q := by
  rintro rfl
  exact h.not_completesBefore (.inl h)

end Address

mutual

/-- The widgets of the tree at an address, each with its own address, a parent before its children. -/
def WidgetTree.addressed (base : Address) : WidgetTree → List (Address × Widget)
  | .node w children => (base, w) :: addressedAll base 0 children

/-- The widgets of the trees below an address, the first tree having the number `first`. -/
def addressedAll (base : Address) (first : Nat) : List WidgetTree → List (Address × Widget)
  | [] => []
  | t :: rest => t.addressed (base ++ [first]) ++ addressedAll base (first + 1) rest

end

mutual

/-- The widgets of the tree at an address, each with its own address, children before their parents. -/
def WidgetTree.completions (base : Address) : WidgetTree → List (Address × Widget)
  | .node w children => completionsAll base 0 children ++ [(base, w)]

/-- The widgets of the trees below an address, the first tree having the number `first`, children before their
parents. -/
def completionsAll (base : Address) (first : Nat) : List WidgetTree → List (Address × Widget)
  | [] => []
  | t :: rest => t.completions (base ++ [first]) ++ completionsAll base (first + 1) rest

end

mutual

/-- Without addresses these are the widgets that are collected. -/
theorem map_completions (base : Address) : (t : WidgetTree) → (t.completions base).map Prod.snd = t.postorder
  | .node w children => by
    rw [WidgetTree.completions, WidgetTree.postorder, List.map_append, map_completionsAll base 0 children]
    rfl

/-- The widgets in the order of completion are the forest in postorder. -/
theorem map_completionsAll (base : Address) (first : Nat) :
    (forest : List WidgetTree) → (completionsAll base first forest).map Prod.snd = postorderAll forest
  | [] => rfl
  | t :: rest => by
    rw [completionsAll, postorderAll, List.map_append, map_completions _ t, map_completionsAll base (first + 1) rest]

end

mutual

/-- Every widget is completed once. -/
theorem completions_perm (base : Address) : (t : WidgetTree) → (t.completions base).Perm (t.addressed base)
  | .node w children => by
    rw [WidgetTree.completions, WidgetTree.addressed]
    exact (List.perm_append_singleton _ _).trans ((completionsAll_perm base 0 children).cons _)

/-- Each widget completes once. -/
theorem completionsAll_perm (base : Address) (first : Nat) :
    (forest : List WidgetTree) → (completionsAll base first forest).Perm (addressedAll base first forest)
  | [] => .refl _
  | t :: rest => (completions_perm _ t).append (completionsAll_perm base (first + 1) rest)

end

mutual

/-- The widgets of a tree stand at its address or below it. -/
theorem address_of_mem_completions {base : Address} {p : Address × Widget} :
    (t : WidgetTree) → p ∈ t.completions base → ∃ rest, p.1 = base ++ rest
  | .node w children, h => by
    rw [WidgetTree.completions, List.mem_append, List.mem_singleton] at h
    rcases h with h | rfl
    · obtain ⟨i, rest, -, hp⟩ := address_of_mem_completionsAll children h
      exact ⟨i :: rest, hp⟩
    · exact ⟨[], (List.append_nil _).symm⟩

/-- The address of a widget of a forest starts with the position of its tree. -/
theorem address_of_mem_completionsAll {base : Address} {first : Nat} {p : Address × Widget} :
    (forest : List WidgetTree) → p ∈ completionsAll base first forest →
      ∃ i rest, first ≤ i ∧ p.1 = base ++ i :: rest
  | [], h => nomatch h
  | t :: more, h => by
    rw [completionsAll, List.mem_append] at h
    rcases h with h | h
    · obtain ⟨rest, hp⟩ := address_of_mem_completions t h
      exact ⟨first, rest, Nat.le_refl _, by simpa using hp⟩
    · obtain ⟨i, rest, hi, hp⟩ := address_of_mem_completionsAll more h
      exact ⟨i, rest, by omega, hp⟩

end

mutual

/-- The widgets of a tree are listed in the order in which they are complete. -/
theorem completions_pairwise (base : Address) :
    (t : WidgetTree) → (t.completions base).Pairwise fun p q => p.1.CompletesBefore q.1
  | .node w children => by
    rw [WidgetTree.completions, List.pairwise_append]
    refine ⟨completionsAll_pairwise base 0 children, List.pairwise_singleton _ _, ?_⟩
    intro p hp q hq
    obtain rfl := List.mem_singleton.mp hq
    obtain ⟨i, rest, -, hi⟩ := address_of_mem_completionsAll children hp
    exact .inl ⟨i, rest, hi⟩

/-- In the order of completion each widget completes before those behind it. -/
theorem completionsAll_pairwise (base : Address) (first : Nat) :
    (forest : List WidgetTree) → (completionsAll base first forest).Pairwise fun p q => p.1.CompletesBefore q.1
  | [] => .nil
  | t :: more => by
    rw [completionsAll, List.pairwise_append]
    refine ⟨completions_pairwise _ t, completionsAll_pairwise base (first + 1) more, ?_⟩
    intro p hp q hq
    obtain ⟨left, hleft⟩ := address_of_mem_completions t hp
    obtain ⟨j, right, hj, hright⟩ := address_of_mem_completionsAll more hq
    exact .inr ⟨base, first, j, left, right, by omega, by simpa using hleft, hright⟩

end

/-! ## Stores -/

/-- The entries that widgets make in a store, in order. -/
def entries (value : Widget → Option Members) (ws : List Widget) : Members :=
  ws.filterMap fun w => (value w).map fun members => (w.id, .object members)

/-- The stores of a collected forest are made of the entries of its widgets. -/
theorem stores_collect (forest : List WidgetTree) :
    (collect forest).state =
        (entries (·.state) (postorderAll forest)).foldl (fun store e => Members.insert e.1 e.2 store) [] ∧
      (collect forest).config =
        (entries (·.config) (postorderAll forest)).foldl (fun store e => Members.insert e.1 e.2 store) [] := by
  have aux : ∀ (ws : List Widget) (c : Collected),
      (ws.foldl Collected.add c).state = (entries (·.state) ws).foldl (fun s e => Members.insert e.1 e.2 s) c.state ∧
        (ws.foldl Collected.add c).config =
          (entries (·.config) ws).foldl (fun s e => Members.insert e.1 e.2 s) c.config := by
    intro ws
    induction ws with
    | nil => exact fun _ => ⟨rfl, rfl⟩
    | cons w rest ih =>
      intro c
      obtain ⟨hstate, hconfig⟩ := ih (c.add w)
      rw [List.foldl_cons, hstate, hconfig, entries, entries, entries, entries]
      constructor
      · rcases hs : w.state with _ | members <;> simp [hs, Collected.add, Collected.store]
      · rcases hc : w.config with _ | members <;> simp [hc, Collected.add, Collected.store]
  exact aux (postorderAll forest) {}

section Distinct

variable {value : Widget → Option Members} {ws : List Widget}

/-- The keys of the entries are the ids of the widgets that make one, in their order. -/
theorem keys_entries (value : Widget → Option Members) (ws : List Widget) :
    (entries value ws).map Prod.fst = (ws.filter fun w => (value w).isSome).map (·.id) := by
  induction ws with
  | nil => rfl
  | cons w rest ih =>
    rw [entries] at ih ⊢
    rcases hv : value w with _ | members <;> simp [hv, ih]

/-- If the ids are different, so are the keys of the entries. -/
theorem keys_entries_nodup (distinct : (ws.map (·.id)).Nodup) : ((entries value ws).map Prod.fst).Nodup := by
  rw [keys_entries]
  exact distinct.sublist (List.filter_sublist.map _)

/-- If the ids are different, the value of an id is that of its widget. -/
theorem get?_entries (distinct : (ws.map (·.id)).Nodup) {w : Widget} (mem : w ∈ ws) :
    Members.get? w.id (entries value ws) = (value w).map .object := by
  rcases hv : value w with _ | members
  · refine Members.get?_of_notMem fun h => ?_
    rw [keys_entries] at h
    obtain ⟨v, hmem, hid⟩ := List.mem_map.mp h
    obtain ⟨hv', hsome⟩ := List.mem_filter.mp hmem
    obtain rfl := List.inj_on_of_nodup_map distinct hv' mem hid
    rw [hv] at hsome
    exact absurd hsome Bool.false_ne_true
  · refine Members.get?_of_mem (keys_entries_nodup distinct) ?_
    exact List.mem_filterMap.mpr ⟨w, mem, by rw [hv]; rfl⟩

end Distinct

/-! ## The order of the ids -/

/-- In a list without repetitions, what stands further to the left has the smaller index. -/
theorem idxOf_lt_of_pairwise {order : List (Address × Widget)} (distinct : (order.map (·.2.id)).Nodup)
    (ordered : order.Pairwise fun p q => p.1.CompletesBefore q.1) {p q : Address × Widget} (hp : p ∈ order)
    (hq : q ∈ order) (below : p.1.Below q.1) :
    (order.map (·.2.id)).idxOf p.2.id < (order.map (·.2.id)).idxOf q.2.id := by
  obtain ⟨i, hi, rfl⟩ := List.getElem_of_mem hp
  obtain ⟨j, hj, rfl⟩ := List.getElem_of_mem hq
  have hindex : ∀ k (hk : k < order.length), (order.map (·.2.id)).idxOf order[k].2.id = k := by
    intro k hk
    have := distinct.idxOf_getElem k (by simpa using hk)
    simpa using this
  rw [hindex i hi, hindex j hj]
  have hne : i ≠ j := by
    rintro rfl
    exact below.ne rfl
  refine Nat.lt_of_le_of_ne (Nat.le_of_not_lt fun hlt => ?_) hne
  exact below.not_completesBefore (List.pairwise_iff_getElem.mp ordered j i hj hi hlt)

/-- **Collecting is a children-first flattening.** All widgets of a forest, each at its own address, stand in an order
in which one that is complete before another comes first. The text of the ids lists them in this order, and the stores
gather the states and the configurations in it. If the ids are different, each store has the widgets that have a value,
in this order, each with its own value; if they can also stand in a list, the list that is read back from the text has
the id of every widget once, and those below a widget before it. -/
theorem collected_children_first (forest : List WidgetTree) :
    ∃ order : List (Address × Widget), order.Perm (addressedAll [] 0 forest) ∧
      order.Pairwise (fun p q => p.1.CompletesBefore q.1) ∧
      (collect forest).idText = Text.joinWith "," (order.map (·.2.id)) ∧
      Members.Gathers (entries (·.state) (order.map (·.2))) (collect forest).state ∧
      Members.Gathers (entries (·.config) (order.map (·.2))) (collect forest).config ∧
      (((addressedAll [] 0 forest).map (·.2.id)).Nodup →
        (collect forest).state = entries (·.state) (order.map (·.2)) ∧
        (collect forest).config = entries (·.config) (order.map (·.2)) ∧
        (∀ p ∈ addressedAll [] 0 forest,
          Members.get? p.2.id (collect forest).state = p.2.state.map .object ∧
            Members.get? p.2.id (collect forest).config = p.2.config.map .object) ∧
        ((∀ p ∈ addressedAll [] 0 forest, Listable p.2.id) →
          (listedIds (collect forest).idText).Nodup ∧
          (listedIds (collect forest).idText).Perm ((addressedAll [] 0 forest).map (·.2.id)) ∧
          ∀ p ∈ addressedAll [] 0 forest, ∀ q ∈ addressedAll [] 0 forest, p.1.Below q.1 →
            (listedIds (collect forest).idText).idxOf p.2.id < (listedIds (collect forest).idText).idxOf q.2.id)) := by
  let order := completionsAll [] 0 forest
  have hwidgets : order.map (·.2) = postorderAll forest := map_completionsAll [] 0 forest
  have hids : order.map (·.2.id) = (postorderAll forest).map (·.id) := by rw [← hwidgets, List.map_map]; rfl
  have hperm : order.Perm (addressedAll [] 0 forest) := completionsAll_perm [] 0 forest
  have hordered := completionsAll_pairwise [] 0 forest
  obtain ⟨hstate, hconfig⟩ := stores_collect forest
  refine ⟨order, hperm, hordered, by rw [hids, Collected.idText, collect_ids], ?_, ?_, fun distinct => ?_⟩
  · rw [hwidgets, hstate]
    exact Members.gathers_foldl_insert _
  · rw [hwidgets, hconfig]
    exact Members.gathers_foldl_insert _
  -- from here on the ids differ, so inserting into a store is appending to it
  have hdistinct : (order.map (·.2.id)).Nodup := ((hperm.map _).nodup_iff).mpr distinct
  have hpost : ((postorderAll forest).map (·.id)).Nodup := hids ▸ hdistinct
  have hmem : ∀ p ∈ addressedAll [] 0 forest, p.2 ∈ postorderAll forest := fun p hp =>
    hwidgets ▸ List.mem_map_of_mem (hperm.mem_iff.mpr hp)
  rw [Members.foldl_insert_of_nodup (keys_entries_nodup hpost)] at hstate hconfig
  refine ⟨by rw [hwidgets, hstate], by rw [hwidgets, hconfig], fun p hp => ?_, fun listable => ?_⟩
  · rw [hstate, hconfig]
    exact ⟨get?_entries hpost (hmem p hp), get?_entries hpost (hmem p hp)⟩
  have hlisted : listedIds (collect forest).idText = order.map (·.2.id) := by
    rw [Collected.idText, collect_ids, ← hids]
    refine listedIds_joinWith fun id hid => ?_
    obtain ⟨p, hp, rfl⟩ := List.mem_map.mp hid
    exact listable p (hperm.mem_iff.mp hp)
  rw [hlisted]
  exact ⟨hdistinct, hperm.map _, fun p hp q hq below =>
    idxOf_lt_of_pairwise hdistinct hordered (hperm.mem_iff.mpr hp) (hperm.mem_iff.mpr hq) below⟩

/-- Two widgets inside another are listed before it and keep their own state and configuration. -/
theorem collected_children_first_nested :
    let forest : List WidgetTree :=
      [.node { id := "w0", state := some [("n", .null)] }
        [.node { id := "w1", state := some [] } [], .node { id := "w2", config := some [("n", .bool true)] } []]]
    let listed := listedIds (collect forest).idText
    listed.idxOf "w1" < listed.idxOf "w0" ∧ listed.idxOf "w2" < listed.idxOf "w0" ∧
      Members.get? "w0" (collect forest).state = some (.object [("n", .null)]) ∧
      Members.get? "w0" (collect forest).config = none := by
  intro forest listed
  obtain ⟨order, -, -, -, -, -, hdistinct⟩ := collected_children_first forest
  obtain ⟨-, -, hvalues, hlisted⟩ := hdistinct (by decide)
  obtain ⟨-, -, hbefore⟩ := hlisted (by simp [forest, addressedAll, WidgetTree.addressed, Listable])
  obtain ⟨root, first, second, hall⟩ : ∃ root first second, addressedAll [] 0 forest =
      [([0], root), ([0, 0], first), ([0, 1], second)] ∧ root.id = "w0" ∧ first.id = "w1" ∧ second.id = "w2" ∧
        root.state = some [("n", .null)] ∧ root.config = none :=
    ⟨_, _, _, rfl, rfl, rfl, rfl, rfl, rfl⟩
  obtain ⟨hall, hroot, hfirst, hsecond, hstate, hconfig⟩ := hall
  rw [hall] at hbefore hvalues
  have hfirstBefore := hbefore ([0, 0], first) (by simp) ([0], root) (by simp) ⟨0, [], rfl⟩
  have hsecondBefore := hbefore ([0, 1], second) (by simp) ([0], root) (by simp) ⟨1, [], rfl⟩
  obtain ⟨hrootState, hrootConfig⟩ := hvalues ([0], root) (by simp)
  simp only [hroot, hfirst, hsecond, hstate, hconfig] at hfirstBefore hsecondBefore hrootState hrootConfig
  exact ⟨hfirstBefore, hsecondBefore, hrootState, hrootConfig⟩

end WidgetTemplates.Page
