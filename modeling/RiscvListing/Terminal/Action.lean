import RiscvListing.Number.Rounding
import RiscvListing.Terminal.Action.Token
import RiscvListing.Text.Blank
import RiscvListing.Text.WordCharacter

/-!
# Actions

What stands behind the equals sign of a tag that names an event: the name of an action, possibly
with values in parentheses, or values alone. A value is a number, a quoted text, a word, or a group
of values in parentheses or braces. There are no square brackets in a tag.

A number may have a sign, and a real number may be joined to an imaginary one. A set or a table is
no member of a set and no key of a table, and neither is a group that has one in it.

## Main definitions

* `Action.Term` — what is known about a value.
* `Action.isValue` — whether a text is a value, or several between commas.
* `Action.isAction` — whether a text is an action.
-/

namespace RiscvListing.Action

/-- What is known about a value. -/
inductive Term where
  /-- A number. -/
  | number (n : Number)
  /-- A number with a sign. -/
  | signed (n : Number)
  /-- Another value, which may be a member of a set or not. -/
  | value (isMember : Bool)
  /-- The word that makes a set, which is no value by itself. -/
  | maker
  deriving Repr, DecidableEq

namespace Term

/-- Whether a value may be a member of a set. -/
def isMember? : Term → Option Bool
  | number _ | signed _ => some true
  | value isMember => some isMember
  | maker => none

/-- Whether a term is a real number that an imaginary one can be joined to. -/
def isJoinable : Term → Bool
  | number (.whole n) | signed (.whole n) => (Number.double? n).isSome
  | number .real | signed .real => true
  | _ => false

end Term

mutual

/-- The value at the start of tokens, and what follows it: a number with a sign, two numbers joined
by one, or something else. At most `fuel` steps are made. -/
def sum : (fuel : Nat) → List Token → Option (Term × List Token)
  | 0, _ => none
  | fuel + 1, tokens => do
    let (left, rest) ← factor fuel tokens
    match rest with
    | .sign :: rest =>
      match ← factor fuel rest with
      | (.number .imaginary, rest) =>
        if left.isJoinable then return (.value true, rest) else none
      | _ => none
    | rest => return (left, rest)

/-- The value at the start of tokens, if it is not joined from two numbers. -/
def factor : (fuel : Nat) → List Token → Option (Term × List Token)
  | 0, _ => none
  | fuel + 1, .sign :: rest => do
    match ← factor fuel rest with
    | (.number n, rest) => return (.signed n, rest)
    | _ => none
  | fuel + 1, tokens => do
    let (term, rest) ← atom fuel tokens
    match term, rest with
    | .maker, .mark '(' :: .mark ')' :: rest => return (.value false, rest)
    | _, _ => return (term, rest)

/-- The value at the start of tokens, if it has no sign. -/
def atom : (fuel : Nat) → List Token → Option (Term × List Token)
  | 0, _ => none
  | fuel + 1, token :: rest =>
    match token with
    | .number n => some (.number n, rest)
    | .constant => some (.value true, rest)
    | .maker => some (.maker, rest)
    | .quoted ofBytes =>
      let more := rest.dropWhile (· = .quoted ofBytes)
      if more.head? = some (.quoted !ofBytes) then none else some (.value true, more)
    | .mark '(' =>
      match rest with
      | .mark ')' :: rest => some (.value true, rest)
      | rest => do
        let (term, rest) ← sum fuel rest
        match rest with
        | .mark ')' :: rest => return (term, rest)
        | .mark ',' :: rest =>
          let (areMembers, rest) ← values fuel ')' rest
          return (.value ((← term.isMember?) && areMembers), rest)
        | _ => none
    | .mark '\x7b' =>
      match rest with
      | .mark '\x7d' :: rest => some (.value false, rest)
      | rest => do
        let (term, rest) ← sum fuel rest
        if (← term.isMember?) = false then none
        match rest with
        | .mark ':' :: rest => return (.value false, ← pairs fuel rest)
        | .mark '\x7d' :: rest => return (.value false, rest)
        | .mark ',' :: rest =>
          let (areMembers, rest) ← values fuel '\x7d' rest
          if areMembers then return (.value false, rest) else none
        | _ => none
    | _ => none
  | _ + 1, [] => none

/-- Values between commas up to a closing bracket: whether all of them may be members of a set, and
what follows. -/
def values : (fuel : Nat) → (closing : Char) → List Token → Option (Bool × List Token)
  | 0, _, _ => none
  | fuel + 1, closing, tokens => do
    if tokens.head? = some (.mark closing) then return (true, tokens.tail)
    let (term, rest) ← sum fuel tokens
    let isMember ← term.isMember?
    match rest with
    | .mark ',' :: rest =>
      let (areMembers, rest) ← values fuel closing rest
      return (isMember && areMembers, rest)
    | .mark c :: rest => if c = closing then return (isMember, rest) else none
    | _ => none

/-- What follows a table, from behind its first colon on. -/
def pairs : (fuel : Nat) → List Token → Option (List Token)
  | 0, _ => none
  | fuel + 1, tokens => do
    let (term, rest) ← sum fuel tokens
    let _ ← term.isMember?
    match rest with
    | .mark '\x7d' :: rest => return rest
    | .mark ',' :: .mark '\x7d' :: rest => return rest
    | .mark ',' :: rest =>
      let (key, rest) ← sum fuel rest
      if (← key.isMember?) = false then none
      match rest with
      | .mark ':' :: rest => pairs fuel rest
      | _ => none
    | _ => none

end

/-- Whether tokens are a value, or several between commas. -/
def areValues (tokens : List Token) : Bool :=
  let fuel := 4 * tokens.length + 8
  match sum fuel tokens with
  | some (term, []) => term.isMember?.isSome
  | some (term, .mark ',' :: rest) =>
    term.isMember?.isSome ∧ (values fuel ')' (rest ++ [.mark ')'])).map Prod.snd = some []
  | _ => false

/-- Whether a text is a value, or several between commas. -/
def isValue (text : List Char) : Bool := (tokens? text).any areValues

/-- Whether a text is an action. A text on several lines has no name of an action. -/
def isAction (text : List Char) : Bool :=
  let text := Text.trim text
  let behind := text.dropWhile fun c => Text.isWordCharacter c ∨ c = '.'
  match behind with
  | [] => true
  | '(' :: rest =>
    if rest.getLast? = some ')' ∧ ¬ rest.contains '\n' then isValue behind else isValue text
  | _ => isValue text

end RiscvListing.Action
