import Mathlib.Data.List.Basic
import Mathlib.Data.List.Nodup
import WidgetTemplates.Proofs.Compile.Placed
import WidgetTemplates.Proofs.Rendering.Numbering

/-!
# The ids of elements in a run

The ids that weaving has given to elements are unique in each widget instance, however often the loops of the
template are run (`written_ids_distinct`). A single id belongs to one element outside all loops, which is run once.
A repeated id is counted by the instance each time that its variable is declared, and every id with a count below
the present one has been taken. `Sound` is the invariant of a run that says so.
-/

namespace WidgetTemplates.Rendering

open Compile (CompileUnit Woven elementIdCall)
open Script (Expr Stmt)
open Template (Attribute Element Node Throughout)
open Page (Widget)

/-! ## The texts of ids -/

/-- An id that weaving has given, as it is in a run: that of an element outside all loops, or a repeated id with its
count. -/
inductive GeneratedId where
  | single (n : Nat)
  | repeated (n k : Nat)

namespace GeneratedId

/-- The text of an id in an instance. -/
def text (widgetId : String) : GeneratedId → String
  | single n => widgetId ++ "-" ++ toString n
  | repeated n k => widgetId ++ "-" ++ toString n ++ "[" ++ toString k ++ "]"

/-- No text is the id of the instance. -/
theorem text_ne (widgetId : String) (g : GeneratedId) : g.text widgetId ≠ widgetId := by
  cases g with
  | single n => exact Widget.behind_ne widgetId (toString n)
  | repeated n k =>
    have := Widget.behind_ne widgetId (toString n ++ ("[" ++ (toString k ++ "]")))
    simpa only [text, String.append_assoc] using this

/-- A number does not end like a repeated id. -/
theorem toString_ne_append_bracket (n : Nat) (front : String) : toString n ≠ front ++ "]" := by
  intro h
  have hlast := congrArg (fun s => s.toList.getLast?) h
  refine Text.getLast?_toString_ne n (hlast.trans ?_)
  simp

/-- In one instance the text determines the id. -/
theorem text_injective {widgetId : String} {g g' : GeneratedId} (h : g.text widgetId = g'.text widgetId) :
    g = g' := by
  have hbracket : ∀ n : Nat, '[' ∉ (toString n).toList := by
    intro n hmem
    exact absurd (Text.isDigit_of_mem_toString hmem) (by decide)
  cases g with
  | single n =>
    cases g' with
    | single n' =>
      rw [Text.toString_injective ((String.append_right_inj _).mp h)]
    | repeated n' k' =>
      simp only [text, String.append_assoc, String.append_right_inj] at h
      refine absurd h ?_
      simpa only [String.append_assoc] using toString_ne_append_bracket n (toString n' ++ "[" ++ toString k')
  | repeated n k =>
    cases g' with
    | single n' =>
      simp only [text, String.append_assoc, String.append_right_inj] at h
      refine absurd h.symm ?_
      simpa only [String.append_assoc] using toString_ne_append_bracket n' (toString n ++ "[" ++ toString k)
    | repeated n' k' =>
      simp only [text, String.append_assoc, String.append_right_inj] at h
      have hlist : (toString n).toList ++ '[' :: ((toString k).toList ++ [']']) =
          (toString n').toList ++ '[' :: ((toString k').toList ++ [']']) := by
        simpa using congrArg String.toList h
      have hrest : '[' ∉ (toString k).toList ++ [']'] := by
        rw [List.mem_append, not_or]
        exact ⟨hbracket k, by decide⟩
      -- the first bracket separates the number from its count
      obtain ⟨hn, -, hk⟩ := (List.append_cons_inj_of_notMem (hbracket n) hrest).mp hlist
      rw [Text.toString_injective (String.toList_injective hn),
        Text.toString_injective (String.toList_injective (List.append_cancel_right hk))]

end GeneratedId

/-! ## The invariant of a run -/

/-- An id has been taken in an instance: it is a single one and not among the numbers to come, or its count is
below the present one. -/
def GeneratedId.Taken (pending : List Nat) (i : Instance) : GeneratedId → Prop
  | single n => n ∉ pending
  | repeated n k => k < Widget.uses (toString n) i.widget.counters

/-- What is known of an id that has been written: the instance `i` and the id `g`, which has been taken there as long as
the instance is open. -/
structure Known (pending : List Nat) (s : Scene) (w : Written) (i : Instance) (g : GeneratedId) : Prop where
  owner : w.owner = some i
  text : w.text = g.text i.widget.id
  created : i.number < s.created
  taken : ∀ j ∈ s.opened, j.number = i.number → j.widget.id = i.widget.id ∧ g.Taken pending j

/-- The ids that a run has written are in order, `pending` being the numbers of the single ids to come, which are fresh.
The open instances have been created and have different numbers, and the ids of one instance differ from each other
(`distinct`). -/
structure Sound (pending : List Nat) (r : Run) : Prop where
  fresh : pending.Nodup
  numbers : (r.scene.opened.map Instance.number).Nodup
  created : ∀ i ∈ r.scene.opened, i.number < r.scene.created
  known : ∀ w ∈ r.written, ∃ i g, Known pending r.scene w i g
  distinct : r.written.Pairwise fun w w' =>
    w.owner.map Instance.number = w'.owner.map Instance.number → w.text ≠ w'.text

variable {pending : List Nat} {r r' : Run}

/-- An id stays taken. -/
theorem GeneratedId.Taken.ages {i j : Instance} {g : GeneratedId} (h : g.Taken pending i)
    (ages : Scene.Ages i j) : g.Taken pending j := by
  cases g with
  | single n => exact h
  | repeated n k => exact Nat.lt_of_lt_of_le h (ages.uses (toString n))

/-- As long as nothing is written and no instance is opened, the ids stay in order. -/
theorem Sound.grows (h : Sound pending r) (grows : Scene.Grows r.scene r'.scene)
    (written : r'.written = r.written) : Sound pending r' where
  fresh := h.fresh
  numbers := grows.numbers ▸ h.numbers
  created := by
    intro j hj
    obtain ⟨i, hi, hage⟩ := grows.origin hj
    rw [hage.number]
    exact Nat.lt_of_lt_of_le (h.created i hi) grows.created
  known := by
    intro w hw
    obtain ⟨i, g, hknown⟩ := h.known w (written ▸ hw)
    refine ⟨i, g, hknown.owner, hknown.text, Nat.lt_of_lt_of_le hknown.created grows.created, ?_⟩
    intro j hj hnumber
    obtain ⟨k, hk, hage⟩ := grows.origin hj
    obtain ⟨hid, htaken⟩ := hknown.taken k hk (hage.number.symm.trans hnumber)
    exact ⟨hage.id.trans hid, htaken.ages hage⟩
  distinct := written ▸ h.distinct

/-- Numbers that do not come any more can be left out. -/
theorem Sound.sublist {fewer : List Nat} (h : Sound pending r) (sub : fewer.Sublist pending) :
    Sound fewer r where
  fresh := h.fresh.sublist sub
  numbers := h.numbers
  created := h.created
  known := by
    intro w hw
    obtain ⟨i, g, hknown⟩ := h.known w hw
    refine ⟨i, g, hknown.owner, hknown.text, hknown.created, ?_⟩
    intro j hj hnumber
    obtain ⟨hid, htaken⟩ := hknown.taken j hj hnumber
    refine ⟨hid, ?_⟩
    cases g with
    | single n => exact fun hn => htaken (sub.mem hn)
    | repeated n k => exact htaken
  distinct := h.distinct

/-- Nothing has been written in an instance that is just being created. -/
theorem Sound.enter {feed : Nat → String} (h : Sound pending r) : Sound pending (r.on (·.enter feed)) where
  fresh := h.fresh
  numbers := by
    refine List.nodup_cons.mpr ⟨?_, h.numbers⟩
    intro hmem
    obtain ⟨i, hi, hnumber⟩ := List.mem_map.mp hmem
    exact absurd (h.created i hi) (by rw [hnumber]; exact Nat.lt_irrefl _)
  created := by
    intro i hi
    rcases List.mem_cons.mp hi with rfl | hi
    · exact Nat.lt_succ_self _
    · exact Nat.lt_succ_of_lt (h.created i hi)
  known := by
    intro w hw
    obtain ⟨i, g, hknown⟩ := h.known w hw
    refine ⟨i, g, hknown.owner, hknown.text, Nat.lt_succ_of_lt hknown.created, ?_⟩
    intro j hj hnumber
    rcases List.mem_cons.mp hj with rfl | hj
    · exact absurd (hnumber ▸ hknown.created) (Nat.lt_irrefl _)
    · exact hknown.taken j hj hnumber
  distinct := h.distinct

/-- Leaving an instance keeps the ids in order. -/
theorem Sound.leave (h : Sound pending r) : Sound pending (r.on Scene.leave) where
  fresh := h.fresh
  numbers := by
    refine h.numbers.sublist ?_
    exact (List.tail_sublist _).map _
  created := fun i hi => h.created i (List.mem_of_mem_tail hi)
  known := by
    intro w hw
    obtain ⟨i, g, hknown⟩ := h.known w hw
    exact ⟨i, g, hknown.owner, hknown.text, hknown.created, fun j hj => hknown.taken j (List.mem_of_mem_tail hj)⟩
  distinct := h.distinct

/-- An id that has not been taken in an open instance has not been written there. -/
theorem Sound.unwritten (h : Sound pending r) {i : Instance} (hi : i ∈ r.scene.opened) {g : GeneratedId}
    (free : ¬ g.Taken pending i) :
    ∀ w ∈ r.written, w.owner.map Instance.number = some i.number → w.text ≠ g.text i.widget.id := by
  intro w hw howner htext
  obtain ⟨j, g', hknown⟩ := h.known w hw
  rw [hknown.owner] at howner
  obtain ⟨hid, htaken⟩ := hknown.taken i hi (Option.some.inj howner).symm
  rw [hknown.text, ← hid] at htext
  obtain rfl := GeneratedId.text_injective htext
  exact free htaken

/-- The innermost instance writes an id that has been taken, but not written yet. -/
theorem Sound.write (h : Sound pending r) {i : Instance} {rest : List Instance}
    (opened : r.scene.opened = i :: rest) {g : GeneratedId} (taken : g.Taken pending i)
    (unwritten : ∀ w ∈ r.written, w.owner.map Instance.number = some i.number →
      w.text ≠ g.text i.widget.id) : Sound pending (r.write (g.text i.widget.id)) where
  fresh := h.fresh
  numbers := h.numbers
  created := h.created
  known := by
    intro w hw
    rcases List.mem_cons.mp hw with rfl | hw
    · have hi : i ∈ r.scene.opened := opened ▸ List.mem_cons_self
      refine ⟨i, g, by rw [opened]; rfl, rfl, h.created i hi, ?_⟩
      intro j hj hnumber
      -- open instances have different numbers, so this is the innermost one
      obtain rfl := List.inj_on_of_nodup_map h.numbers hj hi hnumber
      exact ⟨rfl, taken⟩
    · exact h.known w hw
  distinct := by
    refine List.pairwise_cons.mpr ⟨?_, h.distinct⟩
    intro w hw howner htext
    rw [opened] at howner
    exact unwritten w hw howner.symm htext.symm

/-! ## Elements -/

variable {input : Input}

/-- Attributes that weaving has not set keep the ids in order. -/
theorem Sound.attributes (h : Sound pending r) (as : List Attribute) :
    Sound pending (r.attributes input false as) :=
  h.grows (Run.grows_attributes false r as) (Run.written_attributes r as)

/-- A single id is written once. -/
theorem Sound.single {n : Nat} (h : Sound (n :: pending) r) (inside : r.scene.opened ≠ []) {as : List Attribute}
    (found : as.find? (·.name == "id") = some ⟨"id", some (elementIdCall (some (.str (toString n))))⟩) :
    Sound pending (r.attributes input true as) := by
  obtain ⟨t, rest, hgrows, -, hwritten, heq⟩ := @Run.attributes_generated input r _ _ found
  have hsound : Sound (n :: pending) t := h.grows hgrows hwritten
  obtain ⟨i, others, hopened⟩ := List.exists_cons_of_ne_nil (mt hgrows.opened_eq_nil.mp inside)
  have htext := @Scene.eval_fixed input.texts t.scene i others hopened _ (Widget.repeatedBase?_toString n)
  rw [heq, htext]
  -- the number is no longer to come, and the id has not been written while it was
  have hfree : ¬ (GeneratedId.single n).Taken (n :: pending) i := fun hn => hn List.mem_cons_self
  have hnew := hsound.unwritten (hopened ▸ List.mem_cons_self) hfree
  have hlater : Sound pending t := hsound.sublist (List.sublist_cons_self n pending)
  have htaken : (GeneratedId.single n).Taken pending i := (List.nodup_cons.mp h.fresh).1
  exact (hlater.write hopened htaken hnew).attributes rest

/-- A repeated id is counted when its variable is declared, and written once. -/
theorem Sound.repeated {n : Nat} (h : Sound pending r) (inside : r.scene.opened ≠ []) (calls : List Expr)
    {as : List Attribute}
    (found : as.find? (·.name == "id") = some ⟨"id", some (.ident ("__widgetId" ++ toString n))⟩) :
    Sound pending
      ((r.on (·.execAll input.texts (.var ("__widgetId" ++ toString n)
        (elementIdCall (some (.str (toString n ++ "[]")))) :: calls.map .expr))).attributes input true as) := by
  obtain ⟨i, others, hopened⟩ := List.exists_cons_of_ne_nil inside
  let g : GeneratedId := .repeated n (Widget.uses (toString n) i.widget.counters)
  let declaration : Stmt := .var ("__widgetId" ++ toString n) (elementIdCall (some (.str (toString n ++ "[]"))))
  -- the scene right after the declaration, in which the id is counted
  let s := r.scene.exec input.texts declaration
  obtain ⟨hcounted, hdeclared⟩ := @Scene.exec_repeated input.texts r.scene i others hopened
    ("__widgetId" ++ toString n) (toString n)
  -- the run right before the attribute, in which it still is
  let ready : Run := r.on (·.execAll input.texts (declaration :: calls.map .expr))
  obtain ⟨t, rest, hgrows, hvars, hwritten, heq⟩ := @Run.attributes_generated input ready _ _ found
  have hlater : Scene.Grows s t.scene := (s.grows_execAll (calls.map .expr)).trans hgrows
  have hvalue : t.scene.valueOf? ("__widgetId" ++ toString n) = some (g.text i.widget.id) := by
    have hkept : t.scene.vars = s.vars := hvars.trans (s.vars_execAll_calls calls)
    rw [Scene.valueOf?, hkept]
    exact hdeclared
  obtain ⟨j, others', htopened, hage⟩ := hlater.of_cons hcounted
  have hid : j.widget.id = i.widget.id := hage.id
  have hnumber : j.number = i.number := hage.number
  have htaken : g.Taken pending j := by
    have hcount := hage.uses (toString n)
    rw [Widget.uses_countUse_self] at hcount
    exact hcount
  have hnew : ∀ w ∈ t.written, w.owner.map Instance.number = some j.number → w.text ≠ g.text j.widget.id := by
    rw [hwritten, hid, hnumber]
    exact h.unwritten (hopened ▸ List.mem_cons_self) (Nat.lt_irrefl _)
  have hsound : Sound pending t := h.grows ((r.scene.grows_exec declaration).trans hlater) hwritten
  rw [heq, Scene.eval_ident hvalue, ← hid]
  exact (hsound.write htopened htaken hnew).attributes rest

/-- Opening an element writes its own id, if weaving has given it one. -/
theorem Sound.openElement {bound : Bool} {el : Element} {own : List Nat} (id : OwnNumbers bound el own)
    (h : Sound (own ++ pending) r) (lies : bound = true → r.scene.opened ≠ []) :
    Sound pending (r.openElement input el) := by
  have hbefore := @Scene.grows_execAll input.texts r.scene el.before
  have hready : Sound (own ++ pending) (r.on (·.execAll input.texts el.before)) := h.grows hbefore rfl
  have hless : Sound pending (r.on (·.execAll input.texts el.before)) :=
    hready.sublist (List.sublist_append_right own pending)
  rcases hw : el.widget with _ | b
  · rw [Run.openElement_plain r hw]
    rcases hg : hasGeneratedId el with _ | _
    · exact hless.attributes el.attributes
    · cases id with
      | foreign foreign => exact absurd foreign (by simp [hw, hg])
      | single n inside id => exact hready.single (mt hbefore.opened_eq_nil.mp (lies inside)) id
      | repeated n inside id front calls before =>
        have hfront := @Scene.grows_execAll input.texts r.scene front
        have hbehind : Sound pending (r.on (·.execAll input.texts front)) := h.grows hfront rfl
        have hdeclare := @Sound.repeated _ _ input n hbehind (mt hfront.opened_eq_nil.mp (lies inside)) calls _ id
        rw [before]
        simp only [Run.on, Scene.execAll_append]
        exact hdeclare
  · rw [Run.openElement_bound r hw]
    have htype : Sound pending ((r.on (·.execAll input.texts el.before)).on fun s =>
        (s.evalAll input.texts [b.helper, b.widgetType]).2) := hless.grows (Scene.grows_evalAll _ _) rfl
    exact htype.enter.attributes el.attributes

/-- Inside a widget, and inside an element that is the root of one, an instance is open. -/
theorem opened_openElement {bound : Bool} (el : Element) (lies : bound = true → r.scene.opened ≠ [])
    (inside : (bound || el.widget.isSome) = true) : (r.openElement input el).scene.opened ≠ [] := by
  have hbefore := @Scene.grows_execAll input.texts r.scene el.before
  rcases hw : el.widget with _ | b
  · rw [Run.openElement_plain r hw]
    have hbound : bound = true := by simpa [hw] using inside
    have hattributes := @Run.grows_attributes input (hasGeneratedId el)
      (r.on (·.execAll input.texts el.before)) el.attributes
    exact mt (hbefore.trans hattributes).opened_eq_nil.mp (lies hbound)
  · rw [Run.openElement_bound r hw]
    refine mt (Run.grows_attributes false _ el.attributes).opened_eq_nil.mp ?_
    exact List.cons_ne_nil _ _

/-- The end of an element keeps the ids in order. -/
theorem Sound.closeElement (h : Sound pending r) (el : Element) : Sound pending (r.closeElement input el) := by
  rcases hw : el.widget with _ | b
  · rw [Run.closeElement_plain r hw]
    exact h.grows (Scene.grows_execAll _ el.after) rfl
  · rw [Run.closeElement_bound r hw]
    exact h.leave.grows (Scene.grows_execAll _ el.after) rfl

/-! ## Forests -/

/-- A body that keeps the ids in order does so when it is run any number of times. -/
theorem Sound.repeat {body : Run → Run} (h : Sound pending r)
    (grows : ∀ r, Scene.Grows r.scene (body r).scene)
    (keeps : ∀ r', Scene.Grows r.scene r'.scene → Sound pending r' → Sound pending (body r')) (count : Nat) :
    Sound pending (count.repeat body r) := by
  induction count with
  | zero => exact h
  | succ count ih => exact keeps _ (Run.grows_repeat r body grows count) ih

/-- **A run keeps the ids in order.** Running a forest uses up the numbers of its single ids. -/
theorem Sound.nodes {bound : Bool} {nodes : List Node} {numbers : List Nat} (numbered : Numbered bound nodes numbers)
    (h : Sound (numbers ++ pending) r) (lies : bound = true → r.scene.opened ≠ []) :
    Sound pending (r.nodes input nodes) := by
  induction numbered generalizing r pending with
  | nil => exact h
  | @element bound el children rest own below after id within next ihWithin ihNext =>
    rw [List.append_assoc, List.append_assoc] at h
    -- the numbers below and after the element are still to come when it is opened
    have hopen : Sound (below ++ (after ++ pending)) (r.openElement input el) := h.openElement id lies
    have hchildren : Sound (after ++ pending)
        (if Template.isVoid el.tag then r.openElement input el
          else (r.openElement input el).nodes input children) := by
      split
      · exact hopen.sublist (List.sublist_append_right below _)
      · exact ihWithin hopen (opened_openElement el lies)
    have hgrows := @Run.grows_node input r (.element el children)
    exact ihNext (hchildren.closeElement el) fun hb => mt hgrows.opened_eq_nil.mp (lies hb)
  | @loop bound item source location body rest after within next ihWithin ihNext =>
    have henter : Sound (after ++ pending) (r.enterLoop input source) := h.grows (r.scene.grows_eval source) rfl
    have hbody : Sound (after ++ pending)
        ((input.counts r.entries).repeat (fun r => r.nodes input body) (r.enterLoop input source)) := by
      refine henter.repeat (fun r => r.grows_nodes body) ?_ (input.counts r.entries)
      intro r' hlater hsound
      have hopened := (r.scene.grows_eval source).trans hlater
      exact ihWithin hsound fun hb => mt hopened.opened_eq_nil.mp (lies hb)
    have hgrows := @Run.grows_node input r (.loop item source body location)
    exact ihNext hbody fun hb => mt hgrows.opened_eq_nil.mp (lies hb)
  | @leaf bound node rest after leaf next ih =>
    have hgrows := @Run.grows_node input r node
    refine ih (h.grows hgrows ?_) fun hb => mt hgrows.opened_eq_nil.mp (lies hb)
    cases node with
    | element => exact leaf.elim
    | loop => exact leaf.elim
    | text | expression | code => rfl

/-- An element of a forest is that of one of its turns, and lies where it is seen to lie. -/
theorem leaves_of_mem_turnsAll {u : CompileUnit} {nodes : List Node} (closed : u.widgets = [])
    (leaves : Throughout (fun o => ∀ el children, o.node = .element el children → LeavesIds o el) [] nodes)
    {t : Compile.Turn} (h : t ∈ Compile.turnsAll false u nodes) : ∃ o, LeavesIds o t.el := by
  have hplaced : t.placed ∈ Compile.placedAll u.opens nodes := by
    rw [Compile.placedAll_eq closed false]
    exact List.mem_map_of_mem h
  obtain ⟨o, ho, hel⟩ := List.mem_filterMap.mp hplaced
  rcases hnode : o.node with ⟨el, children⟩ | _ | _ | _ | _ <;> rw [Compile.placed?, hnode] at hel
  · have hsame : el = t.el := congrArg Compile.PlacedElement.el (Option.some.inj hel)
    exact ⟨o, hsame ▸ leaves o ho el children hnode⟩
  all_goals cases hel

/-- **Generated ids are unique in each instance.** Take a template that gives no ids, in which neither an `id` attribute
nor a statement before an element asks for one, and that has no place of a provided body below a loop. However often the
loops of the woven template are run, the ids that it writes to the elements that weaving has given one are written in an
instance, differ from the id of this instance, and differ from each other in each instance. These elements are
recognised rightly: an ordinary element that is no root is taken for one of them exactly if the rules have settled an id
for it. -/
theorem written_ids_distinct {u : CompileUnit} {nodes : List Node} (closed : u.widgets = [])
    (leaves : Throughout (fun o => ∀ el children, o.node = .element el children → LeavesIds o el) [] nodes)
    (input : Input) :
    let run := Run.nodes input {} (Compile.weave u nodes).1
    (run.written.Pairwise fun w w' =>
        w.owner.map Instance.number = w'.owner.map Instance.number → w.text ≠ w'.text) ∧
      (∀ w ∈ run.written, ∃ i, w.owner = some i ∧ w.text ≠ i.widget.id) ∧
      ∀ t ∈ Compile.turnsAll false u nodes, t.bound = false → t.el.custom = false →
        (hasGeneratedId t.woven = true ↔ t.site.assigned.isSome = true) := by
  intro run
  obtain ⟨numbers, hnumbered, hnumbers, -⟩ := numbered_woven (Compile.weaveForest_woven false u nodes) rfl leaves
  rw [closed] at hnumbered
  -- at the start nothing is open and nothing is written
  have hstart : Sound (numbers ++ []) {} := by
    refine ⟨by simpa using hnumbers.nodup, List.nodup_nil, ?_, ?_, .nil⟩
    · exact fun _ h => absurd h List.not_mem_nil
    · exact fun _ h => absurd h List.not_mem_nil
  have hsound : Sound [] run := hstart.nodes hnumbered nofun
  refine ⟨hsound.distinct, ?_, ?_⟩
  · intro w hw
    obtain ⟨i, g, hknown⟩ := hsound.known w hw
    exact ⟨i, hknown.owner, hknown.text ▸ g.text_ne i.widget.id⟩
  · intro t ht loose plain
    obtain ⟨o, hleaves⟩ := leaves_of_mem_turnsAll closed leaves ht
    exact hasGeneratedId_iff (t.bound_eq ▸ loose) plain hleaves.quiet hleaves.free hleaves.own

/-- A list that is run twice beside a single element. -/
theorem written_ids_distinct_of_list :
    let nodes : List Node :=
      [.element { tag := "ul", attributes := [⟨"w-bind", some (.str "./w")⟩] }
        [.loop "item" (.ident "items")
          [.element { tag := "li", attributes := [⟨"w-id", none⟩] } []] .start,
         .element { tag := "p", attributes := [⟨"w-id", none⟩] } []]]
    let run := Run.nodes ⟨fun _ => "w0", fun _ => 2⟩ {} (Compile.weave {} nodes).1
    run.written.map Written.text = ["w0-1", "w0-0[1]", "w0-0[0]"] ∧
      run.written.Pairwise fun w w' =>
        w.owner.map Instance.number = w'.owner.map Instance.number → w.text ≠ w'.text := by
  intro nodes
  have hleaves : Throughout (fun o => ∀ el children, o.node = .element el children → LeavesIds o el) [] nodes := by
    intro o ho el children hnode
    simp only [nodes, Template.occurrencesAll, Node.occurrences, List.append_nil, List.cons_append,
      List.nil_append, List.mem_cons, List.not_mem_nil, or_false] at ho
    rcases ho with rfl | rfl | rfl | rfl
    · obtain ⟨rfl, -⟩ := Node.element.inj hnode
      exact ⟨rfl, fun e he => absurd he (Option.not_mem_none e), fun _ h => absurd h.1 (by decide), nofun⟩
    · exact absurd hnode (by simp)
    · obtain ⟨rfl, -⟩ := Node.element.inj hnode
      exact ⟨rfl, fun e he => absurd he (Option.not_mem_none e), fun _ h => absurd h.1 (by decide), nofun⟩
    · obtain ⟨rfl, -⟩ := Node.element.inj hnode
      exact ⟨rfl, fun e he => absurd he (Option.not_mem_none e), fun _ h => absurd h.1 (by decide), nofun⟩
  exact ⟨by decide +kernel, (@written_ids_distinct {} nodes rfl hleaves ⟨fun _ => "w0", fun _ => 2⟩).1⟩

end WidgetTemplates.Rendering
