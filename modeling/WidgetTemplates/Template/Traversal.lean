import WidgetTemplates.Template.Node

/-!
# Walking a template

A walk meets the nodes of a forest from the outside to the inside and from the start to the end; it comes
back to elements and loops when it has met what is inside them. Generated statements are passed over, and
the inside of an element or loop whose tag or item is to be pruned is not entered.
-/

namespace WidgetTemplates.Template

open Script (Expr)

/-- What a walk meets. Elements and loops are met twice, before and after what they contain. -/
inductive Visit where
  | enter (tag : String)
  | leave (tag : String)
  | enterLoop (item : String)
  | leaveLoop (item : String)
  | text (value : String)
  | expression (expr : Expr)
deriving Repr

mutual

/-- What a walk through a node meets; `prune` tells which tags and items are not descended into. -/
def Node.visits (prune : String → Bool) : Node → List Visit
  | .element el children =>
    .enter el.tag :: (if prune el.tag then [] else visitsAll prune children) ++ [.leave el.tag]
  | .loop item _ body _ =>
    .enterLoop item :: (if prune item then [] else visitsAll prune body) ++ [.leaveLoop item]
  | .text value _ => [.text value]
  | .expression expr _ => [.expression expr]
  | .code _ => []

/-- What a walk through a forest meets. -/
def visitsAll (prune : String → Bool) : List Node → List Visit
  | [] => []
  | node :: rest => node.visits prune ++ visitsAll prune rest

end

mutual

/-- The number of nodes in a tree. -/
def Node.count : Node → Nat
  | .element _ children => countAll children + 1
  | .loop _ _ body _ => countAll body + 1
  | _ => 1

/-- The number of nodes in a forest. -/
def countAll : List Node → Nat
  | [] => 0
  | node :: rest => node.count + countAll rest

end

end WidgetTemplates.Template
