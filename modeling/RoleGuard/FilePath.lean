/-!
# Paths

A path is what it starts from and a list of components.  Empty components and
single dots are dropped, double dots are kept: where a path leads is known to the
system only.
-/

namespace RoleGuard

/-- A path: what it starts from and its components. -/
structure FilePath where
  root : String
  components : List String
  deriving DecidableEq, Repr

namespace FilePath

/-- What a path starts from: two slashes mean something other than one, three
or more mean the same as one. -/
def rootOf : List Char → String
  | '/' :: '/' :: '/' :: _ => "/"
  | '/' :: '/' :: _ => "//"
  | '/' :: _ => "/"
  | _ => ""

/-- Text cut at every slash. -/
def cut (source : String) : List String :=
  source.splitOn "/"

/-- The path that a text names. -/
def ofText (source : String) : FilePath where
  root := rootOf source.toList
  components := (cut source).filter fun part => part != "" && part != "."

/-- A path as text; one without root and components is a dot. -/
def text (path : FilePath) : String :=
  let body := path.root ++ "/".intercalate path.components
  if body = "" then "." else body

/-- The last component, which names what the path leads to. -/
def name (path : FilePath) : String :=
  path.components.getLastD ""

/-- The root, if there is one, and the components. -/
def parts (path : FilePath) : List String :=
  if path.root = "" then path.components else path.root :: path.components

/-- The path without its last component. -/
def parent (path : FilePath) : FilePath :=
  { path with components := path.components.dropLast }

end FilePath

end RoleGuard
