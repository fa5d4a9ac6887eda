import WidgetTemplates.Proofs.Rendering.Scene
import WidgetTemplates.Proofs.Template.Occurrence

/-!
# Running a woven template

What a render module does when it is called, as far as the ids of elements are concerned (`Run.nodes`). A loop runs
its body any number of times each time it is entered, and every wrapper creates a fresh instance. How often, and
under which id, is taken from outside like all that the template reads (`Input`), so a statement about every input
is one about every run.

The run keeps the ids that are written to the `id` attributes of elements that weaving has given one. These
attributes are recognised by their values (`hasGeneratedId`): they ask the widget at hand for the id of an element,
directly or by a variable that is declared before the element.
-/

namespace WidgetTemplates.Rendering

open Script (Expr Stmt)
open Template (Attribute Element Node)
open Page (Widget)

/-- What a run takes from outside: the texts that it reads, in order, and how often the body of a loop is run, for each
time that a loop is entered. -/
structure Input where
  texts : Nat → String
  counts : Nat → Nat

/-- An id that has been written, and the innermost instance that was open, as it was then. -/
structure Written where
  owner : Option Instance
  text : String

/-- The state of a run: its instances and variables, how many times a loop has been entered, and the ids that have been
written, the last one first. -/
structure Run where
  scene : Scene := {}
  entries : Nat := 0
  written : List Written := []

/-! ## Ids that weaving has given -/

/-- Whether an expression asks the widget at hand for the id of an element. -/
def isIdCall : Expr → Bool
  | .call callee _ => isWidgetMember "elId" callee
  | _ => false

/-- Whether a statement declares a variable of this name for the id of an element. -/
def declaresId (name : String) : Stmt → Bool
  | .var n init => n == name && isIdCall init
  | .expr _ => false

/-- Whether weaving has given an ordinary element its id. -/
def hasGeneratedId (el : Element) : Bool :=
  !el.custom && match el.value? "id" with
    | some (.ident name) => el.before.any (declaresId name)
    | some e => isIdCall e
    | none => false

/-! ## Instances -/

/-- Creates an instance and opens it. -/
def Scene.enter (feed : Nat → String) (s : Scene) : Scene :=
  { (s.read feed).2 with
    opened := ⟨s.created, { id := (s.read feed).1 }⟩ :: s.opened
    created := s.created + 1 }

/-- Closes the innermost instance. -/
def Scene.leave (s : Scene) : Scene := { s with opened := s.opened.tail }

/-! ## Nodes -/

namespace Run

/-- A run with its scene changed. -/
def on (r : Run) (f : Scene → Scene) : Run := { r with scene := f r.scene }

/-- Keeps an id that is written. -/
def write (r : Run) (text : String) : Run :=
  { r with written := ⟨r.scene.opened.head?, text⟩ :: r.written }

variable (input : Input)

/-- Writes attributes in order. `generated` tells whether the next `id` attribute is one that weaving has set. -/
def attributes (generated : Bool) (r : Run) : List Attribute → Run
  | [] => r
  | ⟨_, none⟩ :: rest => attributes generated r rest
  | ⟨name, some e⟩ :: rest =>
    let text := (r.scene.eval input.texts e).1
    let r := r.on fun s => (s.eval input.texts e).2
    if generated && name == "id" then attributes false (r.write text) rest
    else attributes generated r rest

/-- What is run before the children of an element. -/
def openElement (r : Run) (el : Element) : Run :=
  let r := r.on (·.execAll input.texts el.before)
  match el.widget with
  | none => r.attributes input (hasGeneratedId el) el.attributes
  | some b =>
    let r := r.on fun s => (s.evalAll input.texts [b.helper, b.widgetType]).2.enter input.texts
    r.attributes input false el.attributes

/-- What is run after the children of an element. -/
def closeElement (r : Run) (el : Element) : Run :=
  let r := r.on fun s => if el.widget.isSome then s.leave else s
  r.on (·.execAll input.texts el.after)

/-- A loop is entered. -/
def enterLoop (r : Run) (source : Expr) : Run :=
  { r with scene := (r.scene.eval input.texts source).2, entries := r.entries + 1 }

mutual

/-- Runs a node. Children of an element without content are passed over, as the module does. -/
def node (r : Run) : Node → Run
  | .element el children =>
    let r := r.openElement input el
    let r := if Template.isVoid el.tag then r else nodes r children
    r.closeElement input el
  | .text _ _ => r
  | .expression expr _ => r.on fun s => (s.eval input.texts expr).2
  | .loop _ source body _ =>
    (input.counts r.entries).repeat (fun r => nodes r body) (r.enterLoop input source)
  | .code stmt => r.on (·.exec input.texts stmt)

/-- Runs a forest. -/
def nodes (r : Run) : List Node → Run
  | [] => r
  | n :: rest => nodes (node r n) rest

end

end Run

/-! ## What a run leaves alone -/

/-- When a widget is left, the instances around it are open again. -/
theorem Scene.grows_leave {feed : Nat → String} {s s' : Scene} (h : Grows (s.enter feed) s') :
    Grows s s'.leave := by
  have hopened := h.opened
  rw [enter, List.forall₂_cons_left_iff] at hopened
  obtain ⟨j, rest, -, hrest, hs'⟩ := hopened
  refine ⟨?_, Nat.le_trans (Nat.le_succ _) h.created⟩
  rw [leave, hs']
  exact hrest

namespace Run

variable {input : Input}

/-- Writing attributes lets the scene grow. -/
theorem grows_attributes (generated : Bool) (r : Run) (as : List Attribute) :
    Scene.Grows r.scene (r.attributes input generated as).scene := by
  induction as generalizing r generated with
  | nil => exact .refl _
  | cons a rest ih =>
    rcases a with ⟨name, _ | e⟩
    · exact ih generated r
    · unfold attributes
      dsimp only
      split
      · refine Scene.Grows.trans ?_ (ih _ _)
        exact r.scene.grows_eval e
      · refine Scene.Grows.trans ?_ (ih _ _)
        exact r.scene.grows_eval e

/-- Attributes that weaving has not set are not kept. -/
theorem written_attributes (r : Run) (as : List Attribute) :
    (r.attributes input false as).written = r.written := by
  induction as generalizing r with
  | nil => rfl
  | cons a rest ih =>
    rcases a with ⟨name, _ | e⟩
    · exact ih r
    · exact ih (r.on _)

/-- The first `id` attribute, if weaving has set it, is the one that is kept. -/
theorem attributes_generated (r : Run) {as : List Attribute} {e : Expr}
    (found : as.find? (·.name == "id") = some ⟨"id", some e⟩) :
    ∃ (t : Run) (rest : List Attribute), Scene.Grows r.scene t.scene ∧ t.scene.vars = r.scene.vars ∧
      t.written = r.written ∧
      r.attributes input true as =
        (write { t with scene := (t.scene.eval input.texts e).2 } (t.scene.eval input.texts e).1).attributes
          input false rest := by
  induction as generalizing r with
  | nil => exact nomatch found
  | cons a rest ih =>
    rw [List.find?_cons] at found
    rcases a with ⟨name, _ | value⟩
    · rcases hname : name == "id" with _ | _
      · rw [hname] at found
        exact ih r found
      · rw [hname] at found
        exact nomatch found
    · rcases hname : name == "id" with _ | _
      · rw [hname] at found
        obtain ⟨t, rest', hgrows, hvars, hwritten, heq⟩ := ih (r.on fun s => (s.eval input.texts value).2) found
        refine ⟨t, rest', (r.scene.grows_eval value).trans hgrows, hvars.trans (r.scene.vars_eval value),
          hwritten, ?_⟩
        rw [attributes, hname]
        exact heq
      · rw [hname] at found
        -- this is the attribute that is kept
        obtain ⟨-, rfl⟩ : name = "id" ∧ value = e := by simpa using found
        refine ⟨r, rest, .refl _, rfl, rfl, ?_⟩
        rw [attributes, hname]
        rfl

section Elements

variable {el : Element} {b : Template.Binding} (r : Run)

/-- How an element without a widget starts. -/
theorem openElement_plain (h : el.widget = none) :
    r.openElement input el =
      (r.on (·.execAll input.texts el.before)).attributes input (hasGeneratedId el) el.attributes := by
  rw [openElement, h]

/-- How an element with a widget starts. -/
theorem openElement_bound (h : el.widget = some b) :
    r.openElement input el =
      ((r.on (·.execAll input.texts el.before)).on fun s =>
        (s.evalAll input.texts [b.helper, b.widgetType]).2.enter input.texts).attributes input false
          el.attributes := by
  rw [openElement, h]

/-- How an element without a widget ends. -/
theorem closeElement_plain (h : el.widget = none) :
    r.closeElement input el = r.on (·.execAll input.texts el.after) := by
  rw [closeElement, h]
  rfl

/-- How an element with a widget ends. -/
theorem closeElement_bound (h : el.widget = some b) :
    r.closeElement input el = (r.on Scene.leave).on (·.execAll input.texts el.after) := by
  rw [closeElement, h]
  rfl

/-- An element leaves the same instances open if what stands in it does. -/
theorem grows_element (inner : Run → Run) (hinner : ∀ r, Scene.Grows r.scene (inner r).scene) :
    Scene.Grows r.scene ((inner (r.openElement input el)).closeElement input el).scene := by
  have hbefore := @Scene.grows_execAll input.texts r.scene el.before
  let ready : Run := r.on (·.execAll input.texts el.before)
  rcases hw : el.widget with _ | b
  · rw [openElement_plain r hw, closeElement_plain _ hw]
    have hattributes := @grows_attributes input (hasGeneratedId el) ready el.attributes
    exact hbefore.trans ((hattributes.trans (hinner _)).trans (Scene.grows_execAll _ el.after))
  · rw [openElement_bound r hw, closeElement_bound _ hw]
    let entered : Run := ready.on fun s =>
      (s.evalAll input.texts [b.helper, b.widgetType]).2.enter input.texts
    have hattributes := @grows_attributes input false entered el.attributes
    have hwrapper := Scene.grows_leave (hattributes.trans (hinner _))
    have hopened := @Scene.grows_evalAll input.texts ready.scene [b.helper, b.widgetType]
    exact hbefore.trans ((hopened.trans hwrapper).trans (Scene.grows_execAll _ el.after))

end Elements

/-- A body that is run any number of times leaves the same instances open if it does so once. -/
theorem grows_repeat (r : Run) (body : Run → Run) (hbody : ∀ r, Scene.Grows r.scene (body r).scene)
    (count : Nat) : Scene.Grows r.scene (count.repeat body r).scene := by
  induction count with
  | zero => exact .refl _
  | succ count ih => exact ih.trans (hbody _)

mutual

/-- A node leaves the same instances open. -/
theorem grows_node (r : Run) : (node : Node) → Scene.Grows r.scene (r.node input node).scene
  | .element el children => by
    refine grows_element r (fun r => if Template.isVoid el.tag then r else r.nodes input children) ?_
    intro r
    split
    · exact .refl _
    · exact grows_nodes r children
  | .text _ _ => .refl _
  | .expression expr _ => r.scene.grows_eval expr
  | .loop _ source body _ =>
    (r.scene.grows_eval source).trans
      (grows_repeat (r.enterLoop input source) _ (fun r => grows_nodes r body) (input.counts r.entries))
  | .code stmt => r.scene.grows_exec stmt

/-- A forest leaves the same instances open. -/
theorem grows_nodes (r : Run) : (nodes : List Node) → Scene.Grows r.scene (r.nodes input nodes).scene
  | [] => .refl _
  | n :: rest => (r.grows_node n).trans (grows_nodes _ rest)

end

end Run

end WidgetTemplates.Rendering
