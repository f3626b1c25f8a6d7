import RiscvListing.Terminal.Colour
import RiscvListing.Text.Blank
import RiscvListing.Text.Case

/-!
# Styles

A style is given by words: attributes, colours of the letters and of the ground, and the target of a
link. Two texts that give the same style have one name in common, in which the words stand in a
fixed order. A text that gives no style is a name by itself.

## Main definitions

* `Terminal.Attribute` — the attributes of a style.
* `Terminal.Style`, `Terminal.Style.ofWords` — styles, and the style that words give.
* `Terminal.Style.name` — the name of a style.
* `Terminal.styleName?` — the name of what a text gives.
-/

namespace RiscvListing.Terminal

/-- The attributes of a style, in the order in which they are named. -/
inductive Attribute where
  | bold
  | dim
  | italic
  | underline
  | blink
  | fastBlink
  | reverse
  | conceal
  | strike
  | doubleUnderline
  | frame
  | encircle
  | overline
  deriving Repr, DecidableEq

namespace Attribute

/-- All attributes. -/
def all : List Attribute :=
  [bold, dim, italic, underline, blink, fastBlink, reverse, conceal, strike, doubleUnderline, frame,
   encircle, overline]

/-- The word for an attribute. -/
def word : Attribute → String
  | bold => "bold"
  | dim => "dim"
  | italic => "italic"
  | underline => "underline"
  | blink => "blink"
  | fastBlink => "blink2"
  | reverse => "reverse"
  | conceal => "conceal"
  | strike => "strike"
  | doubleUnderline => "underline2"
  | frame => "frame"
  | encircle => "encircle"
  | overline => "overline"

/-- The attribute of a word, which may be a short one. -/
def ofWord? : String → Option Attribute
  | "b" => some bold
  | "d" => some dim
  | "i" => some italic
  | "u" => some underline
  | "r" => some reverse
  | "c" => some conceal
  | "s" => some strike
  | "uu" => some doubleUnderline
  | "o" => some overline
  | text => all.find? (·.word = text)

end Attribute

/-- A style. -/
structure Style where
  /-- The attributes that are set or taken away, the last mentioned first. -/
  attributes : List (Attribute × Bool) := []
  /-- The colour of the letters. -/
  colour : Option String := none
  /-- The colour of the ground. -/
  ground : Option String := none
  /-- The target of a link. -/
  link : Option String := none
  deriving Repr, DecidableEq

namespace Style

/-- The name of a style. -/
def name (s : Style) : String :=
  let attributes := Attribute.all.filterMap fun a =>
    (s.attributes.lookup a).map fun set => if set then a.word else "not " ++ a.word
  let words := attributes ++ s.colour.toList ++ s.ground.toList.map ("on " ++ ·) ++
    s.link.toList.map ("link " ++ ·)
  if words.isEmpty then "none" else " ".intercalate words

/-- What words give. -/
inductive Reading where
  /-- A style. -/
  | style (s : Style)
  /-- No style. -/
  | other
  /-- A colour of which an amount is left out. -/
  | incomplete
  deriving Repr, DecidableEq

/-- The style that words give, added to one that is known already. -/
def ofWords (s : Style) : List (List Char) → Reading
  | [] => .style s
  | word :: rest =>
    let word := Text.lower word
    match String.ofList word, rest with
    | "on", [] | "not", [] | "link", [] => .other
    | "on", ground :: rest =>
      let ground := Text.lower ground
      match Terminal.colour ground with
      | .known => ofWords { s with ground := some (String.ofList ground) } rest
      | .unknown => .other
      | .incomplete => .incomplete
    | "not", taken :: rest =>
      match Attribute.ofWord? (String.ofList taken) with
      | some a => ofWords { s with attributes := (a, false) :: s.attributes } rest
      | none => .other
    | "link", target :: rest => ofWords { s with link := some (String.ofList target) } rest
    | text, rest =>
      match Attribute.ofWord? text with
      | some a => ofWords { s with attributes := (a, true) :: s.attributes } rest
      | none =>
        match Terminal.colour word with
        | .known => ofWords { s with colour := some text } rest
        | .unknown => .other
        | .incomplete => .incomplete

end Style

/-- The name of what a text gives, unless it gives a colour of which an amount is left out. -/
def styleName? (text : List Char) : Option String :=
  if String.ofList (Text.trim text) = "none" then some "none"
  else
    match Style.ofWords {} (Text.words text) with
    | .style s => some s.name
    | .other => some (String.ofList (Text.lower (Text.trim text)))
    | .incomplete => none

end RiscvListing.Terminal
