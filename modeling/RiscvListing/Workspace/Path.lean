/-!
# Paths

A path is written as names with slashes between them. It is relative to a directory unless it starts
with a slash. A place is where a path leads: the names from the root on.

## Main definitions

* `Path.names` — the names in a path, without those that stay where they are.
* `Path.shown` — a path with nothing superfluous in it.
* `Path.name` — the last name of a path.
* `Place`, `Path.absolute`, `Place.text` — where a path leads, and a place as text.
-/

namespace RiscvListing

/-- The names that lead from the root to a file or a directory. -/
abbrev Place := List String

/-- A place as an absolute path. -/
def Place.text (place : Place) : String := "/" ++ "/".intercalate place

namespace Path

/-- The most bytes of a name. -/
def nameLimit : Nat := 255

/-- The parts of a path between its slashes, empty ones among them. -/
def parts (path : String) : List String := (path.toList.splitOn '/').map String.ofList

/-- Whether a part of a path leads nowhere else. -/
def isIdle (part : String) : Bool := part = "" ∨ part = "."

/-- The names in a path. -/
def names (path : String) : List String := (parts path).filter fun part => ¬ isIdle part

/-- Whether a path starts at the root. -/
def isAbsolute (path : String) : Bool := path.toList.head? = some '/'

/-- What stands in front of the names of a path: two slashes mean something else than one, and
three or more the same as one. -/
def root (path : String) : String :=
  match path.toList with
  | '/' :: '/' :: '/' :: _ => "/"
  | '/' :: '/' :: _ => "//"
  | '/' :: _ => "/"
  | _ => ""

/-- A path without doubled slashes and without parts that lead nowhere else. -/
def shown (path : String) : String :=
  let text := root path ++ "/".intercalate (names path)
  if text = "" then "." else text

/-- The last name of a path. -/
def name (path : String) : String := (names path).getLast?.getD ""

/-- The place behind a name: two points lead back. -/
def step (place : Place) (name : String) : Place :=
  if name = ".." then place.dropLast else place ++ [name]

/-- Where a path leads from a directory. -/
def absolute (directory : Place) (path : String) : Place :=
  (names path).foldl step (if isAbsolute path then [] else directory)

end Path

end RiscvListing
