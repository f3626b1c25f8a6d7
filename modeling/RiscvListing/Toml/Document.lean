import RiscvListing.Toml.Value

/-!
# TOML documents

A document is a list of statements: a key with its value, or the heading of a table or of a list of
tables, to which the keys after it belong. A table is opened by one heading only, a key is given
once, and what was written on one line cannot be added to later.

## Main definitions

* `Toml.Document` — the table built so far and what can no longer be changed.
* `Toml.Document.assign`, `Toml.Document.openTable`, `Toml.Document.appendTable` — the three
  statements.
* `Toml.parse` — the table of a document.
* `Toml.placeText` — a place in a document.
-/

namespace RiscvListing.Toml

/-- The table built so far. Paths name tables from the root on. -/
structure Document where
  /-- The table itself. -/
  root : Table := []
  /-- The path of the present heading. -/
  heading : List String := []
  /-- The tables that have been opened. -/
  opened : List (List String) := []
  /-- The tables that count as opened from the next heading on. -/
  pending : List (List String) := []
  /-- The keys whose values, and all below them, can no longer be changed. -/
  frozen : List (List String) := []

namespace Document

/-- Whether a key can no longer be changed. -/
def isFrozen (d : Document) (path : List String) : Bool := d.frozen.any (·.isPrefixOf path)

/-- The paths that lead to a key and have at least one of its own parts. -/
def waysTo (heading : List String) (path : List String) : List (List String) :=
  ((List.range path.length).drop 1).map fun count => heading ++ path.take count

/-- Gives a key below the present heading a value. The tables that the parts of the key lead
through must not have been opened. The characters `rest` follow. -/
def assign (d : Document) (path : List String) (value : Json) (rest : List Char) :
    Except Flaw Document := do
  let ways := waysTo d.heading path
  if let some way := ways.find? d.opened.contains then refuse (.redefined way) rest
  let parent := d.heading ++ path.dropLast
  if d.isFrozen parent then refuse (.immutable parent) rest
  let root ← expect (updateAt true (addNew (path.getLast?.getD "") value) parent d.root)
  return { d with
    root
    pending := ways ++ d.pending
    frozen := if isNested value then (d.heading ++ path) :: d.frozen else d.frozen }

/-- Counts the pending tables as opened. -/
def settle (d : Document) : Document := { d with opened := d.pending ++ d.opened, pending := [] }

/-- Opens a table. The characters `rest` follow. -/
def openTable (d : Document) (path : List String) (rest : List Char) : Except Flaw Document := do
  let d := d.settle
  if d.opened.contains path ∨ d.isFrozen path then refuse (.declaredTwice path) rest
  return { d with
    root := ← expect (updateAt true some path d.root)
    heading := path
    opened := path :: d.opened }

/-- Adds a table to the list at the end of a table's key. -/
def addTable (key : String) (table : Table) : Option Table :=
  match find? key table with
  | none => some (set key (.array [.object []]) table)
  | some (.array items) => some (set key (.array (items ++ [.object []])) table)
  | some _ => none

/-- Opens a further table of a list of tables. What was below the table before it is free again. The
characters `rest` follow. -/
def appendTable (d : Document) (path : List String) (rest : List Char) :
    Except Flaw Document := do
  let d := d.settle
  if d.isFrozen path then refuse (.immutable path) rest
  return { d with
    root := ← expect (updateAt true (addTable (path.getLast?.getD "")) path.dropLast d.root)
    heading := path
    opened := path :: d.opened.filter fun p => ¬ path.isPrefixOf p
    frozen := d.frozen.filter fun p => ¬ path.isPrefixOf p }

end Document

/-- A key with its value. -/
def assignment (d : Document) : Reader Document := fun chars => do
  match ← key chars with
  | (path, '=' :: rest) =>
    let (value, rest) ← value (skipBlanks rest)
    return (← d.assign path value rest, rest)
  | _ => malformed

/-- A heading, read at its first bracket. -/
def heading (d : Document) : Reader Document
  | '[' :: '[' :: rest => do
    let (path, rest) ← key (skipBlanks rest)
    let d ← d.appendTable path rest
    match rest with
    | ']' :: ']' :: rest => return (d, rest)
    | _ => malformed
  | '[' :: rest => do
    let (path, rest) ← key (skipBlanks rest)
    let d ← d.openTable path rest
    match rest with
    | ']' :: rest => return (d, rest)
    | _ => malformed
  | _ => malformed

/-- A statement, or nothing in front of a comment. -/
def statement (d : Document) : Reader Document
  | '#' :: rest => .ok (d, '#' :: rest)
  | '[' :: rest => heading d ('[' :: rest)
  | chars => assignment d chars

/-- The blanks and the comment behind a statement. -/
def skipRest (chars : List Char) : Except Flaw (List Char) :=
  match skipBlanks chars with
  | '#' :: rest => skipComment rest
  | rest => .ok rest

/-- The statements of a document, at most `fuel` lines of them. -/
def statementsUpTo : (fuel : Nat) → Document → List Char → Except Flaw Document
  | 0, _, _ => malformed
  | fuel + 1, d, chars =>
    match skipBlanks chars with
    | [] => .ok d
    | '\n' :: rest => statementsUpTo fuel d rest
    | chars => do
      let (d, rest) ← statement d chars
      match ← skipRest rest with
      | [] => .ok d
      | '\n' :: rest => statementsUpTo fuel d rest
      | _ => malformed

/-- Line ends of one kind. -/
def unifyNewlines : List Char → List Char
  | '\r' :: '\n' :: rest => '\n' :: unifyNewlines rest
  | c :: rest => c :: unifyNewlines rest
  | [] => []

/-- The place in a document where `left` characters are left to read. -/
def placeText (text : String) (left : Nat) : String :=
  let chars := unifyNewlines text.toList
  if left = 0 then "end of document"
  else
    let before := chars.take (chars.length - left)
    let line := before.count '\n' + 1
    let column := (before.reverse.takeWhile (· ≠ '\n')).length + 1
    s!"line {Numeral.decimal line}, column {Numeral.decimal column}"

/-- The table of a document. -/
def parse (text : String) : Except Flaw Table :=
  let chars := unifyNewlines text.toList
  (statementsUpTo (chars.length + 1) {} chars).map Document.root

end RiscvListing.Toml
