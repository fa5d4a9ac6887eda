import WidgetTemplates.Markup.Builder

/-!
# Misnested formatting

What an end tag does in the body of a document. An ordinary end tag closes the innermost element of its
name unless a special element stands in between. The end tag of a formatting element that still encloses
a special element is settled by rebuilding: the formatting elements between the two are cloned around the
special element, which moves out of the formatting element, and the rest of its content is wrapped in a
clone of the formatting element.
-/

namespace WidgetTemplates.Markup.Build

/-- Whether an element stops the search for the start of an ordinary end tag. -/
def isSpecial (a : Arena) (i : Nat) : Bool := a.isOneOf specials i

/-- An end tag without a rule of its own. -/
def endOrdinary (name : String) : Build Unit := do
  let b ← get
  match b.opens.find? fun i => b.arena.isOneOf [name] i || isSpecial b.arena i with
  | some i =>
    if b.arena.isOneOf [name] i then
      impliedEndExcept name
      modify fun b => { b with opens := (b.opens.dropWhile (· != i)).drop 1 }
  | none => pure ()

/-- Where the clone of the formatting element is entered: in place of that element, or right after the entry of a
node. -/
inductive Bookmark where
  | replace
  | after (node : Nat)

/-- The state while the elements between the formatting element and the special one are cloned: how many have been
looked at, those that stay open (outermost first), the subtree that the next clone encloses, and where the clone of the
formatting element will be entered. -/
structure Cloning where
  count : Nat
  kept : List Nat
  last : Nat
  bookmark : Bookmark

/-- Handles one element between the special element `block` and the formatting element. An element that
is no formatting element, or that comes after three others, is no longer open. -/
def cloneBetween (block : Nat) (c : Cloning) (node : Nat) : Build Cloning := do
  let count := c.count + 1
  let entry := (← get).formatting.findSome? fun
    | .element n tag => if n == node then some tag else none
    | .marker => none
  -- at most three clones, however deep the nesting
  if 3 < count then
    unformat node
    return { c with count }
  else
    -- an element that is not on the list of formatting elements stays where it is and is closed
    match entry with
    | none => return { c with count }
    | some tag => do
      let clone ← createElement ⟨.html, tag.name⟩ tag.attrs
      modify fun b =>
        { b with formatting := b.formatting.map fun f =>
                   if isEntryOf node f then .element clone tag else f }
      edit fun a => (a.detach c.last).append clone c.last
      -- the formatting element itself is entered behind the first clone, or else in its own place
      let bookmark := if c.last == block then .after clone else c.bookmark
      return ⟨count, clone :: c.kept, clone, bookmark⟩

/-- The formatting elements with `entry` in the place of the node `old`: at its own entry, or right after
the entry of another node. Entries are listed latest first. -/
def enter (old : Nat) (entry : Formatting) (bookmark : Bookmark) (fs : List Formatting) :
    List Formatting :=
  match bookmark with
  | .replace => fs.map fun f => if isEntryOf old f then entry else f
  | .after node =>
    (fs.flatMap fun f => if isEntryOf node f then [entry, f] else [f]).filter
      fun f => !isEntryOf old f

/-- One round of settling the end tag `name`; tells whether another round follows. -/
def adoptOnce (name : String) : Build Bool := do
  let b ← get
  match (sinceMarker b.formatting).find? fun e => e.2.name == name with
  | none =>
    endOrdinary name
    return false
  | some (subject, tag) =>
    -- an element that is no longer open is only taken off the list
    if !b.opens.contains subject then
      unformat subject
      return false
    else if !(← inScope ordinaryScope (· == subject)) then return false
    else
      let inner := b.opens.takeWhile (· != subject)
      let outer := (b.opens.dropWhile (· != subject)).drop 1
      -- nothing special inside: the element ends like any other
      match inner.reverse.find? (isSpecial b.arena) with
      | none =>
        modify fun b => { b with opens := outer }
        unformat subject
        return false
      | some block =>
        let innermost := inner.takeWhile (· != block)
        let between := (inner.dropWhile (· != block)).drop 1
        -- what lies between the special element and the formatting element is cloned around the content
        let c ← between.foldlM (cloneBetween block) ⟨0, [], block, .replace⟩
        edit fun a => a.detach c.last
        let around := outer.head?.getD 0
        place (← spotFor around) c.last
        let clone ← createElement ⟨.html, tag.name⟩ tag.attrs
        -- the clone of the formatting element takes over the content of the special one
        edit fun a => (a.adopt block clone).append block clone
        modify fun b =>
          { b with formatting := enter subject (.element clone tag) c.bookmark b.formatting
                   opens := innermost ++ clone :: block :: (c.kept.reverse ++ outer) }
        return true

/-- At most `n` rounds. -/
def adoptRounds (name : String) : Nat → Build Unit
  | 0 => pure ()
  | n + 1 => do
    if ← adoptOnce name then adoptRounds name n

/-- The end tag of a formatting element. -/
def endFormatting (name : String) : Build Unit := do
  let b ← get
  match b.opens.head? with
  | some node =>
    if b.arena.isOneOf [name] node && !(b.formatting.any (isEntryOf node)) then pop
    else adoptRounds name 8
  | none => adoptRounds name 8

end WidgetTemplates.Markup.Build
