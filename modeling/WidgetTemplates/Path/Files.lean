import WidgetTemplates.Path.Basic

/-!
# The files that a template can see

What a template asks of the files around it is whether something exists at a path. `Files` is such a lookup, whatever it
answers. `Files.ofPaths` is the lookup below the current directory when the files there are listed: of a listing, a path
that is absolute or that leaves the current directory finds nothing.
-/

namespace WidgetTemplates.Path

/-- A lookup that says of each path whether something exists there. When none is given, nothing exists anywhere. -/
structure Files where
  exist : String → Bool := fun _ => false
deriving Inhabited

/-- Files and directories below the current directory, each as the names of its parts from there on. The current
directory itself is not listed. -/
structure Listing where
  files : List (List (List Char)) := []
  directories : List (List (List Char)) := []
deriving Inhabited

namespace Listing

/-- The parts of a path that name something. -/
def names (path : String) : List (List Char) :=
  (segments path.toList).filter fun s => s != [] && s != ['.']

/-- The proper beginnings of a list of names that are not empty, below the directory `above`. -/
def ancestors (above : List (List Char)) : List (List Char) → List (List (List Char))
  | [] | [_] => []
  | n :: rest => (above ++ [n]) :: ancestors (above ++ [n]) rest

/-- The files at the given paths. A path that ends in a slash names a directory; the directories on the
way to each of them exist too. -/
def ofPaths (paths : List String) : Listing :=
  paths.foldl
    (fun l path =>
      let ns := names path
      let l := { l with directories := l.directories ++ ancestors [] ns }
      if path.toList.getLast? == some '/' then { l with directories := ns :: l.directories }
      else { l with files := ns :: l.files })
    {}

/-- Whether a walk from the directory `here`, given innermost part first, arrives somewhere. -/
def arrives (l : Listing) (here : List (List Char)) : List (List Char) → Bool
  | [] => true
  | part :: rest =>
    if part == [] || part == ['.'] then arrives l here rest
    else if part == ['.', '.'] then
      match here with
      | [] => false
      | _ :: above => arrives l above rest
    else
      let there := (part :: here).reverse
      if l.directories.contains there then arrives l (part :: here) rest
      else l.files.contains there && rest.isEmpty

/-- Whether something is listed at a path. -/
def exist (l : Listing) (path : String) : Bool :=
  !path.isEmpty && !isAbsolute path && l.arrives [] (segments path.toList)

end Listing

/-- The lookup in a listing of paths. -/
def Files.ofPaths (paths : List String) : Files := ⟨(Listing.ofPaths paths).exist⟩

end WidgetTemplates.Path
