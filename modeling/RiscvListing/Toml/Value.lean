import RiscvListing.Toml.Scalar

/-!
# TOML keys and values

Keys, plain or with points between their parts, and values: scalars, arrays and tables written on
one line. Tables keep the order in which their keys were first given.

## Main definitions

* `Toml.Table` — a table with its keys in order.
* `Toml.updateAt` — a table changed at the end of a path of keys.
* `Toml.key` — a key as the list of its parts.
* `Toml.value` — a value.
-/

namespace RiscvListing.Toml

/-- A table: keys with their values, in order. -/
abbrev Table := List (String × Json)

/-- The value of a key. -/
def find? (key : String) (table : Table) : Option Json :=
  (table.find? (·.1 = key)).map Prod.snd

/-- Gives a key another value, or adds the key at the end. -/
def set (key : String) (value : Json) : Table → Table
  | [] => [(key, value)]
  | (k, old) :: rest => if k = key then (k, value) :: rest else (k, old) :: set key value rest

/-- Changes the table at the end of a path, making the tables on the way. A list on the way stands
for its last table where `throughLists` says so. Anything else on the way is in the way. -/
def updateAt (throughLists : Bool) (change : Table → Option Table) :
    (path : List String) → Table → Option Table
  | [], table => change table
  | key :: path, table => do
    match find? key table with
    | none => return set key (.object (← updateAt throughLists change path [])) table
    | some (.object inner) =>
      return set key (.object (← updateAt throughLists change path inner)) table
    | some (.array items) =>
      match throughLists, items.getLast? with
      | true, some (.object inner) =>
        let last := Json.object (← updateAt throughLists change path inner)
        return set key (.array (items.dropLast ++ [last])) table
      | _, _ => none
    | some _ => none

/-- Adds a key that the table does not have. -/
def addNew (key : String) (value : Json) (table : Table) : Option Table :=
  if (find? key table).isSome then none else some (set key value table)

/-- Whether a value is a table or a list. -/
def isNested : Json → Bool
  | .object _ | .array _ => true
  | _ => false

/-! ### Keys -/

/-- Whether a character may stand in a key without quotation marks. -/
def isKeyCharacter (c : Char) : Bool := c.isAlphanum ∨ c = '-' ∨ c = '_'

/-- A part of a key. -/
def keyPart : Reader String
  | '"' :: rest => basicText rest
  | '\'' :: rest => literalText rest
  | chars =>
    let part := chars.takeWhile isKeyCharacter
    if part.isEmpty then malformed else .ok (String.ofList part, chars.drop part.length)

/-- The parts of a key, at most `fuel` of them, and the blanks behind it. -/
def keyParts : (fuel : Nat) → Reader (List String)
  | 0, _ => malformed
  | fuel + 1, chars => do
    let (part, rest) ← keyPart chars
    match skipBlanks rest with
    | '.' :: rest =>
      let (parts, rest) ← keyParts fuel (skipBlanks rest)
      return (part :: parts, rest)
    | rest => return ([part], rest)

/-- A key with points between its parts, and the blanks behind it. -/
def key : Reader (List String) := fun chars => keyParts (chars.length + 1) chars

/-! ### Values -/

/-- Skips a comment up to the end of its line. -/
def skipComment : List Char → Except Flaw (List Char)
  | [] => .ok []
  | '\n' :: rest => .ok ('\n' :: rest)
  | c :: rest => if isControl c then malformed else skipComment rest

/-- Skips blanks, line ends and comments, at most `fuel` of them. -/
def skipLines : (fuel : Nat) → List Char → Except Flaw (List Char)
  | 0, chars => .ok chars
  | fuel + 1, chars =>
    match chars.dropWhile isSpace with
    | '#' :: rest => do skipLines fuel (← skipComment rest)
    | rest => .ok rest

/-- How deep values may be nested, where an array counts twice and a table thrice. -/
def nestingLimit : Nat := 985

/-- What is left of a depth behind a step down, if it is enough for one. -/
def descend (step depth : Nat) : Except Flaw Nat :=
  if step ≤ depth then .ok (depth - step) else .error .tooDeep

mutual

/-- A value for which `depth` is left, read in at most `fuel` steps. -/
def valueUpTo : (fuel depth : Nat) → Reader Json
  | 0, _, _ => malformed
  | _ + 1, _, '"' :: '"' :: '"' :: rest => (longBasicText rest).map fun (s, rest) => (.text s, rest)
  | _ + 1, _, '"' :: rest => (basicText rest).map fun (s, rest) => (.text s, rest)
  | _ + 1, _, '\'' :: '\'' :: '\'' :: rest =>
    (longLiteralText rest).map fun (s, rest) => (.text s, rest)
  | _ + 1, _, '\'' :: rest => (literalText rest).map fun (s, rest) => (.text s, rest)
  | _ + 1, _, 't' :: 'r' :: 'u' :: 'e' :: rest => .ok (.bool true, rest)
  | _ + 1, _, 'f' :: 'a' :: 'l' :: 's' :: 'e' :: rest => .ok (.bool false, rest)
  | fuel + 1, depth, '[' :: rest => do
    let (items, rest) ← itemsUpTo fuel (← descend 2 depth) rest
    return (.array items, rest)
  | fuel + 1, depth, '\x7b' :: rest => do
    let depth ← descend 3 depth
    match skipBlanks rest with
    | '\x7d' :: rest => return (.object [], rest)
    | rest =>
      let (table, rest) ← membersUpTo fuel depth [] [] rest
      return (.object table, rest)
  | _ + 1, _, chars => number chars

/-- The items of an array up to its closing bracket. -/
def itemsUpTo : (fuel depth : Nat) → Reader (List Json)
  | 0, _, _ => malformed
  | fuel + 1, depth, chars => do
    match ← skipLines chars.length chars with
    | ']' :: rest => return ([], rest)
    | chars =>
      let (item, rest) ← valueUpTo fuel depth chars
      match ← skipLines rest.length rest with
      | ',' :: rest =>
        let (items, rest) ← itemsUpTo fuel depth rest
        return (item :: items, rest)
      | ']' :: rest => return ([item], rest)
      | _ => malformed

/-- The members of a table written on one line, up to its closing brace, added to `table`. The keys
in `frozen` and all keys below them can no longer be changed. -/
def membersUpTo :
    (fuel depth : Nat) → (table : Table) → (frozen : List (List String)) → Reader Table
  | 0, _, _, _, _ => malformed
  | fuel + 1, depth, table, frozen, chars => do
    match ← key chars with
    | (path, '=' :: rest) =>
      let (value, rest) ← valueUpTo fuel depth (skipBlanks rest)
      if frozen.any (·.isPrefixOf path) then refuse (.immutable path) rest
      let key := path.getLast?.getD ""
      let nest ← expect (updateAt false some path.dropLast table)
      let table ← match updateAt false (addNew key value) path.dropLast nest with
        | some table => pure table
        | none => refuse (.repeated key) rest
      match skipBlanks rest with
      | '\x7d' :: rest => return (table, rest)
      | ',' :: rest =>
        let frozen := if isNested value then path :: frozen else frozen
        membersUpTo fuel depth table frozen (skipBlanks rest)
      | _ => malformed
    | _ => malformed

end

/-- A value. -/
def value : Reader Json := fun chars => valueUpTo (2 * chars.length + 2) nestingLimit chars

end RiscvListing.Toml
