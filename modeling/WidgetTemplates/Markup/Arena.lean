import WidgetTemplates.Markup.Token

/-!
# The growing document

While a document is being built its nodes live in a table and refer to each other by number, because
building moves finished subtrees around. A node knows its parent and its children in order. The number 0
is the document itself. A template element keeps its content in a node of its own, which has no parent.
-/

namespace WidgetTemplates.Markup

/-- The vocabulary that an element belongs to: ordinary elements, vector graphics or formulas. -/
inductive Space where
  | html
  | svg
  | math
deriving DecidableEq, Repr

/-- The name of an element in its vocabulary. -/
structure Name where
  space : Space
  tag : String
deriving DecidableEq, Repr

/-- What a node is. A root is the document or the content of a template; a text is kept latest character first; an
element that is a template has the node of its content. -/
inductive Kind where
  | root
  | comment
  | text (reversed : List Char)
  | element (name : Name) (attrs : List (String × String)) (content : Option Nat)
deriving DecidableEq, Repr

/-- A node with its place in the tree: the node it is a child of, and its children in order. -/
structure Cell where
  kind : Kind
  parent : Option Nat
  children : Array Nat
deriving Repr

instance : Inhabited Cell := ⟨⟨.root, none, #[]⟩⟩

/-- The table of nodes. -/
abbrev Arena := Array Cell

namespace Arena

/-- The node of a number. -/
def cell (a : Arena) (i : Nat) : Cell := a[i]?.getD default

/-- Adds a node without a place; its number is the size of the table before. -/
def create (a : Arena) (kind : Kind) : Arena := a.push ⟨kind, none, #[]⟩

/-- Makes a node the last child of another. -/
def append (a : Arena) (parent child : Nat) : Arena :=
  (a.modify parent fun c => { c with children := c.children.push child }).modify child
    fun c => { c with parent := some parent }

/-- Takes a node away from its parent. -/
def detach (a : Arena) (child : Nat) : Arena :=
  match (a.cell child).parent with
  | none => a
  | some parent =>
    (a.modify parent fun c => { c with children := c.children.filter (· != child) }).modify child
      fun c => { c with parent := none }

/-- Makes a node the child of another at an index. -/
def insertAt (a : Arena) (parent index child : Nat) : Arena :=
  (a.modify parent fun c =>
    let before := c.children.toList.take index
    { c with children := (before ++ child :: c.children.toList.drop index).toArray }).modify child
      fun c => { c with parent := some parent }

/-- Moves all children of a node to the end of another's. -/
def adopt (a : Arena) (source target : Nat) : Arena :=
  let moved := (a.cell source).children
  let a := a.modify source fun c => { c with children := #[] }
  let a := a.modify target fun c => { c with children := c.children ++ moved }
  moved.foldl (fun a i => a.modify i fun c => { c with parent := some target }) a

/-- Adds a character to a text node; anything else is refused. -/
def extendText? (a : Arena) (i : Nat) (c : Char) : Option Arena :=
  match (a.cell i).kind with
  | .text reversed => some (a.modify i fun cell => { cell with kind := .text (c :: reversed) })
  | _ => none

/-- Adds a character after the children of a node, to the text that ends them if there is one. -/
def appendChar (a : Arena) (parent : Nat) (c : Char) : Arena :=
  match (a.cell parent).children.back?.bind fun last => a.extendText? last c with
  | some a => a
  | none => (a.create (.text [c])).append parent a.size

/-- The index of a node among the children of its parent. -/
def indexOf (a : Arena) (parent child : Nat) : Nat :=
  ((a.cell parent).children.toList.takeWhile (· != child)).length

/-- Puts a node before another. -/
def insertBefore (a : Arena) (parent sibling child : Nat) : Arena :=
  a.insertAt parent (a.indexOf parent sibling) child

/-- Puts a character before a node, at the end of the text there if there is one. -/
def insertCharBefore (a : Arena) (parent sibling : Nat) (c : Char) : Arena :=
  let index := a.indexOf parent sibling
  let previous := if index == 0 then none else (a.cell parent).children[index - 1]?
  match previous.bind fun last => a.extendText? last c with
  | some a => a
  | none => (a.create (.text [c])).insertAt parent index a.size

/-- The name of an element. -/
def name? (a : Arena) (i : Nat) : Option Name :=
  match (a.cell i).kind with
  | .element name _ _ => some name
  | _ => none

/-- Whether a node is an element with this name. -/
def isNamed (a : Arena) (name : Name) (i : Nat) : Bool := a.name? i == some name

/-- Whether a node is an ordinary element with one of these names. -/
def isOneOf (a : Arena) (tags : List String) (i : Nat) : Bool :=
  match a.name? i with
  | some ⟨.html, tag⟩ => tags.contains tag
  | _ => false

/-- Adds the attributes that an element does not have yet. -/
def addMissingAttrs (a : Arena) (i : Nat) (attrs : List (String × String)) : Arena :=
  a.modify i fun c =>
    match c.kind with
    | .element name old content =>
      let fresh := attrs.filter fun p => !(old.any (·.1 == p.1))
      { c with kind := .element name (old ++ fresh) content }
    | _ => c

end Arena

end WidgetTemplates.Markup
