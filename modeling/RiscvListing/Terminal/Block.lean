import RiscvListing.Terminal.Table

/-!
# Blocks of terminal output

What is printed on a terminal of a given width: headings, notices, plain lines, tables and panels.

## Main definitions

* `Terminal.Notice` — the kinds of notices.
* `Terminal.Block` — what is printed.
* `Terminal.Block.render` — a block as text.
* `Terminal.print` — a block as text, or nothing on a quiet terminal.
-/

namespace RiscvListing.Terminal

/-- The kinds of notices. -/
inductive Notice where
  | success
  | warning
  | error
  | info
  deriving Repr, DecidableEq

/-- The label of a notice, as markup. -/
def Notice.label : Notice → String
  | success => "[rv.success][✔] SUCCESS:[/rv.success]"
  | warning => "[rv.warning][⚠] WARNING:[/rv.warning]"
  | error => "[rv.error][✘] ERROR:[/rv.error]"
  | info => "[rv.info][ℹ] INFO:[/rv.info]"

/-- What is printed on a terminal. -/
inductive Block where
  /-- A title in the middle of a rule, and an empty line. -/
  | heading (title : String)
  /-- A label and a message with markup. -/
  | notice (kind : Notice) (message : String)
  /-- A message without markup. -/
  | plain (message : String)
  /-- Empty lines. -/
  | blank (count : Int)
  /-- A rule. -/
  | divider
  /-- A table. -/
  | table (table : Table)
  /-- Lines of markup in a frame with a title. -/
  | panel (title : String) (content : String)
  deriving Repr, DecidableEq

namespace Block

/-- A text on lines of its own. -/
def message (width : Nat) (text : Styled) : Except Markup.Flaw String :=
  (Markup.printed (flow .fold none width text)).map joinLines

/-- A text without markup on lines of its own. -/
def plainMessage (width : Nat) (text : String) : String :=
  let chars := printed (Emoji.replaced text.toList)
  joinLines ((flow .fold none width { chars }).map (·.chars))

/-- A title on one line. -/
def titleLine (text : Styled) : Styled :=
  (text.withChars (text.chars.map fun c => if c = '\n' then ' ' else c)).expandTabs

/-- A rule with a title in its middle. A title that leaves no room for the rule is cut short. -/
def rule (width : Nat) (title : Styled) : Styled :=
  if width ≤ 4 then { chars := List.replicate width '─' } else
    let title := title.shorten .dots (width - 4)
    let side := (width - columns title.chars) / 2
    let left := title.indent side
    let left := left.withChars (List.replicate (side - 1) '─' ++ ' ' :: title.chars ++ [' '])
    left.withChars (left.chars ++ List.replicate (width - columns left.chars) '─')

/-- The lines of a panel: a frame of the whole width, an empty line above and below the content and
two blanks at both sides of it. A title for which there is no room is cut off. A panel that has room
for its frame alone has no lines in it. -/
def panelLines (width : Nat) (title : Styled) (content : Styled) :
    Except Markup.Flaw (List (List Char)) := do
  let inner := width - 2
  let row (line : List Char) : List Char := '│' :: fitLeft inner line ++ ['│']
  let title := title.shorten .fold (width - 4)
  let excess := width - 4 - columns title.chars
  let top ←
    if width ≤ 4 then pure ('╭' :: List.replicate inner '─' ++ ['╮'])
    else do
      let _ ← Markup.printed [title]
      pure ('╭' :: '─' :: List.replicate (excess / 2) '─' ++ title.chars ++
        List.replicate (excess - excess / 2) '─' ++ ['─', '╮'])
  let content ← Markup.printed (flow .fold none (inner - 4) content)
  let lines := if inner = 0 then [] else [] :: content.map (blanks 2 ++ ·) ++ [[]]
  return (top :: lines.map row ++
    ['╰' :: List.replicate inner '─' ++ ['╯']]).map (shorten .fold width)

/-- A block as text, unless there is a flaw in its markup. A terminal without a width shows nothing,
and only notices are looked at for flaws. -/
def render (width : Nat) : Block → Except Markup.Flaw String
  | heading title => do
    if width = 0 then return ""
    let title := titleLine (← Markup.read ("  " ++ title ++ "  "))
    return (← message width (rule width title)) ++ joinLines [[]]
  | notice kind text => do message width (← Markup.read (kind.label ++ " " ++ text))
  | plain text => return plainMessage width text
  | blank count => return if width = 0 then "" else joinLines (List.replicate count.toNat [])
  | divider => return if width = 0 then "" else joinLines [List.replicate width '─']
  | table t => do if width = 0 then return "" else return joinLines (← t.lines width)
  | panel title content => do
    if width = 0 then return ""
    let title := titleLine (← Markup.read title)
    let title := { chars := [' '] : Styled }.append (title.append { chars := [' '] })
    return joinLines (← panelLines width title (← Markup.read content))

end Block

/-- What a terminal prints for a block. A quiet one prints nothing, and a flaw is a flaw on
either. -/
def print (quiet : Bool) (width : Nat) (block : Block) : Except Markup.Flaw String :=
  (block.render width).map fun text => if quiet then "" else text

end RiscvListing.Terminal
