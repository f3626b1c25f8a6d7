import RiscvListing.Terminal.Action
import RiscvListing.Terminal.Emoji
import RiscvListing.Terminal.Styled

/-!
# Markup

A tag is a word in square brackets that starts with a small letter or one of three signs. Tags open
and close styles and vanish from the text. A backslash in front of a tag makes it text. Between two
tags, names of emoji give way to the emoji. A tag that closes what is not open is a flaw, and so are
an event without an action, a colour without one of its amounts, and a style that is not known where
one is asked for.

## Main definitions

* `Markup.Piece`, `Markup.pieces` — a text as characters and tags.
* `Markup.Flaw` — what can be wrong with a text.
* `Markup.read` — the text without its tags, with its styles, unless there is a flaw in it.
* `Markup.escape` — a text in which no tag is left.
-/

namespace RiscvListing.Markup

/-- Whether a character can stand first in a tag. -/
def opensTag (c : Char) : Bool := ('a' ≤ c ∧ c ≤ 'z') ∨ c = '#' ∨ c = '/' ∨ c = '@'

/-- What is in the tag at the start of some characters, and what follows it. A tag ends at the first
closing bracket and has no other opening one. -/
def tag? : List Char → Option (List Char × List Char)
  | '[' :: c :: rest =>
    if opensTag c then
      let body := rest.takeWhile fun c => c ≠ ']' ∧ c ≠ '['
      match rest.drop body.length with
      | ']' :: rest => some (c :: body, rest)
      | _ => none
    else none
  | _ => none

/-- A part of a text. -/
inductive Piece where
  /-- Characters. -/
  | text (chars : List Char)
  /-- A tag. -/
  | tag (content : List Char)
  deriving Repr, DecidableEq

/-- Characters as a piece, unless there are none. -/
def textPiece (chars : List Char) : List Piece := if chars.isEmpty then [] else [.text chars]

/-- The pieces of a text in front of which there are the characters `held`, the last one first. At
most `fuel` steps are made. Of two backslashes in front of a tag one is left, and a single one makes
the tag text. Of backslashes in front of a bracket that starts no tag one is left out. -/
def piecesUpTo : (fuel : Nat) → (held : List Char) → List Char → List Piece
  | 0, held, _ => textPiece held.reverse
  | _ + 1, held, [] => textPiece held.reverse
  | fuel + 1, held, c :: rest =>
    let slashes := (c :: rest).takeWhile (· = '\\')
    let behind := (c :: rest).drop slashes.length
    match tag? behind with
    | some (content, rest) =>
      textPiece held.reverse ++ textPiece (List.replicate (slashes.length / 2) '\\') ++
        (if slashes.length % 2 = 1 then .text ('[' :: content ++ [']']) else .tag content) ::
        piecesUpTo fuel [] rest
    | none =>
      match slashes, behind with
      | [], _ => piecesUpTo fuel (c :: held) rest
      | _ :: more, '[' :: rest => piecesUpTo fuel ('[' :: more ++ held) rest
      | _, _ => piecesUpTo fuel (slashes ++ held) behind

/-- The pieces of a text. -/
def pieces (text : String) : List Piece := piecesUpTo (text.length + 1) [] text.toList

/-! ### Styles -/

/-- What is wrong with a text. -/
inductive Flaw where
  /-- A tag closes what is not open. -/
  | unopened
  /-- What stands behind the equals sign of an event is no action. -/
  | action
  /-- An amount is left out of a colour. -/
  | colour
  /-- A style is not known. -/
  | style
  deriving Repr, DecidableEq

/-- A style that is open. -/
structure Opened where
  /-- The name of the style. -/
  name : String
  /-- What stands behind the equals sign, empty if there is none. -/
  parameter : List Char
  /-- The position of the first character in the style. -/
  start : Nat
  deriving Repr, DecidableEq

/-- The stretch of a style that ends at a position. -/
def Opened.span (style : Opened) (stop : Nat) : Terminal.Span where
  start := style.start
  stop := stop
  style := style.name.toList ++ ' ' :: style.parameter

/-- The stretches of a style that is closed at a position. An event has to have an action, or
nothing, and has no style of its own. -/
def Opened.close (style : Opened) (stop : Nat) : Except Flaw (List Terminal.Span) :=
  if style.name.toList.head? = some '@' then
    if style.parameter ≠ [] ∧ ¬ Action.isAction style.parameter then .error .action else .ok []
  else .ok [style.span stop]

/-- The name of the style in a tag. -/
def nameOf (text : List Char) : Except Flaw String :=
  match Terminal.styleName? text with
  | some name => .ok name
  | none => .error .colour

/-- The innermost style of a name, and the others. -/
def take? (name : String) : List Opened → Option (Opened × List Opened)
  | [] => none
  | style :: rest =>
    if style.name = name then some (style, rest)
    else (take? name rest).map fun (found, rest) => (found, style :: rest)

/-- The style that a tag closes, and the others, the innermost first. A tag without a name closes
the innermost style. -/
def closed (name : List Char) (styles : List Opened) : Except Flaw (Opened × List Opened) := do
  let found ←
    if name.isEmpty then pure (styles.head?.map fun style => (style, styles.tail))
    else pure (take? (← nameOf name) styles)
  match found with
  | some found => return found
  | none => throw .unopened

/-- The characters and stretches of pieces from a position on, given the styles that are open, the
innermost first. What stands behind an equals sign in a tag is a parameter. -/
def readFrom : (position : Nat) → List Opened → List Piece → Except Flaw Terminal.Styled
  | position, styles, [] => .ok { spans := styles.map (·.span position) }
  | position, styles, .text chars :: rest => do
    let shown := Terminal.printed (Terminal.Emoji.replaced chars)
    let text ← readFrom (position + shown.length) styles rest
    return { text with chars := shown ++ text.chars }
  | position, styles, .tag content :: rest =>
    match content.takeWhile (· ≠ '=') with
    | '/' :: name => do
      let (style, styles) ← closed (Text.trim name) styles
      let spans ← style.close position
      let text ← readFrom position styles rest
      return { text with spans := spans ++ text.spans }
    | name => do
      let parameter := content.drop (name.length + 1)
      readFrom position ({ name := ← nameOf name, parameter, start := position } :: styles) rest

/-- What is printed of a text, with its styles, unless there is something wrong with its tags. -/
def read (text : String) : Except Flaw Terminal.Styled := readFrom 0 [] (pieces text)

/-- The characters of lines, unless there is something wrong with their styles. -/
def printed (lines : List Terminal.Styled) : Except Flaw (List (List Char)) :=
  if lines.any (·.isFlawed) then .error .colour else .ok (lines.map (·.chars))

/-! ### Escapes -/

/-- Characters in which every tag is preceded by a backslash. -/
def escapeUpTo : (fuel : Nat) → List Char → List Char
  | 0, _ => []
  | _ + 1, [] => []
  | fuel + 1, c :: rest =>
    let slashes := (c :: rest).takeWhile (· = '\\')
    let behind := (c :: rest).drop slashes.length
    match tag? behind with
    | some (content, rest) =>
      slashes ++ slashes ++ '\\' :: '[' :: content ++ ']' :: escapeUpTo fuel rest
    | none =>
      match slashes with
      | [] => c :: escapeUpTo fuel rest
      | _ => slashes ++ escapeUpTo fuel behind

/-- A text in which no tag is left. A single backslash at its end is doubled. -/
def escape (text : String) : String :=
  let chars := escapeUpTo (text.length + 1) text.toList
  match chars.reverse with
  | '\\' :: '\\' :: _ => String.ofList chars
  | '\\' :: _ => String.ofList (chars ++ ['\\'])
  | _ => String.ofList chars

end RiscvListing.Markup
