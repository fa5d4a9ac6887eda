import WidgetTemplates.Text.Search

/-!
# Paths

Paths are texts whose parts are separated by slashes. Repeated slashes and inner `.` parts do not count as
parts; the text of a path is kept as it was written.
-/

namespace WidgetTemplates.Path

/-- A path, last character first, without slashes and `.` parts at its end. The root stays. -/
def trimBack : List Char → List Char
  | ['/'] => ['/']
  | '/' :: rest => trimBack rest
  | '.' :: '/' :: rest => trimBack ('/' :: rest)
  | r => r

/-- The path of the directory that the last part of a path lies in. The root and the empty path have no
last part. -/
def parent? (path : String) : Option String :=
  match trimBack path.toList.reverse with
  | [] => none
  | ['/'] => none
  | r => some (String.ofList (trimBack (r.dropWhile (· != '/'))).reverse)

/-- Whether a path starts at the root. -/
def isAbsolute (path : String) : Bool := path.toList.head? == some '/'

/-- The path `path` seen from the directory `dir`. -/
def join (dir path : String) : String :=
  if isAbsolute path then path
  else if dir.isEmpty || dir.toList.getLast? == some '/' then dir ++ path
  else dir ++ "/" ++ path

/-- The texts between the slashes of a path. -/
def segments : List Char → List (List Char)
  | [] => [[]]
  | '/' :: rest => [] :: segments rest
  | c :: rest =>
    match segments rest with
    | s :: more => (c :: s) :: more
    | [] => [[c]]

end WidgetTemplates.Path
