import RiscvListing.Terminal.Styled

/-!
# Lines of a given width

A text is broken into lines that fit into a number of columns. Lines are broken between words. A
word that is too long for a line is broken itself, or left to be cut short. Blanks behind a word do
not count when it is tried whether the word fits; those beyond the width are dropped from the end of
a line.

## Main definitions

* `Terminal.wordsOf` — the words of a line with the blanks around them.
* `Terminal.layOut` — words on lines.
* `Terminal.Justify` — where lines stand.
* `Terminal.flow` — the lines of a text.

## Main results

* `Terminal.flatten_chunks`, `Terminal.flatten_pieces` — breaking up loses no character.
-/

namespace RiscvListing.Terminal

/-! ### Words -/

/-- A line in parts, each of which starts where a word starts; blanks at the start of the line are a
part of their own. -/
def chunks : List Char → List (List Char)
  | [] => []
  | c :: rest =>
    match chunks rest with
    | [] => [[c]]
    | [] :: more => [c] :: more
    | (d :: word) :: more =>
      if Text.isBlank c ∧ ¬ Text.isBlank d then [c] :: (d :: word) :: more
      else (c :: d :: word) :: more

/-- The words of a line, each with the blanks behind it, and the first also with those in front of
it. -/
def wordsOf (line : List Char) : List (List Char) :=
  match chunks line with
  | first :: second :: more =>
    if first.all Text.isBlank then (first ++ second) :: more else first :: second :: more
  | parts => parts

@[simp] theorem flatten_chunks (line : List Char) : (chunks line).flatten = line := by
  induction line with
  | nil => rfl
  | cons c rest ih =>
    unfold chunks
    split
    · next h => simpa [h] using ih
    · next h => simpa [h] using ih
    · next h =>
      rw [h] at ih
      split <;> simpa using ih

@[simp] theorem flatten_wordsOf (line : List Char) : (wordsOf line).flatten = line := by
  conv => rhs; rw [← flatten_chunks line]
  unfold wordsOf
  split
  · next h => split <;> simp [h]
  · rfl

/-! ### Lines -/

/-- A word in pieces of at most `room` columns, and of at least one character. `taken` columns of
the first piece are taken already. -/
def piecesFrom (room : Nat) : (taken : Nat) → List Char → List (List Char)
  | _, [] => [[]]
  | taken, c :: rest =>
    match rest with
    | [] => [[c]]
    | d :: _ =>
      let taken := taken + width c
      if room < taken + width d then [c] :: piecesFrom room 0 rest
      else
        match piecesFrom room taken rest with
        | [] => [[c]]
        | piece :: more => (c :: piece) :: more

/-- A word in pieces of at most `room` columns. In front of a character that has no room by itself
there is an empty piece. -/
def pieces (room : Nat) (word : List Char) : List (List Char) :=
  if (word.head?.map width).any (room < ·) then [] :: piecesFrom room 0 word
  else piecesFrom room 0 word

@[simp] theorem flatten_piecesFrom (room taken : Nat) (word : List Char) :
    (piecesFrom room taken word).flatten = word := by
  induction word generalizing taken with
  | nil => rfl
  | cons c rest ih =>
    cases rest with
    | nil => rfl
    | cons d more =>
      rw [piecesFrom]
      have h := ih (taken + width c)
      split
      · rw [List.flatten_cons, ih, List.singleton_append]
      · split
        · next e => simp [e] at h
        · next e => simpa [e] using h

@[simp] theorem flatten_pieces (room : Nat) (word : List Char) :
    (pieces room word).flatten = word := by
  unfold pieces
  split <;> simp

/-- Words on lines of `room` columns. The first line holds `line` already, and `taken` columns of it
are taken. -/
def layOut (overflow : Overflow) (room : Nat) :
    (taken : Nat) → (line : List Char) → List (List Char) → List (List Char)
  | _, line, [] => [line]
  | taken, line, word :: rest =>
    let size := columns (Text.trimEnd word)
    if taken + size ≤ room then layOut overflow room (taken + columns word) (line ++ word) rest
    else
      let before := if line.isEmpty then [] else [line]
      if room < size ∧ overflow = .fold then
        let parts := if line.isEmpty then piecesFrom room 0 word else pieces room word
        let last := parts.getLast?.getD []
        before ++ parts.dropLast ++ layOut overflow room (columns last) last rest
      else before ++ layOut overflow room (columns word) word rest

/-- A line without blanks at its end, as far as it has more than `room` characters. -/
def dropExcess (room : Nat) (line : Styled) : Styled :=
  let kept := (Text.trimEnd line.chars).length
  line.crop (max kept (min room line.chars.length))

/-- A line that takes at most `room` columns. -/
def Styled.shorten (overflow : Overflow) (room : Nat) (line : Styled) : Styled :=
  line.withChars (Terminal.shorten overflow room line.chars)

/-! ### Places -/

/-- Where lines stand. -/
inductive Justify where
  | left
  | right
  | centre
  /-- At both sides, but for the last line. -/
  | full
  deriving Repr, DecidableEq

/-- The words of a line between single blanks. A blank at its end is left out. -/
def wordsBetween (line : Styled) : List Styled :=
  if ¬ line.chars.contains ' ' then [line]
  else
    let words := line.chars.splitOn ' '
    let words := if line.chars.getLast? = some ' ' then words.dropLast else words
    go 0 words
where
  /-- The given words, the first of which starts at a position. -/
  go : Nat → List (List Char) → List Styled
    | _, [] => []
    | first, word :: rest =>
      line.slice first (first + word.length) :: go (first + word.length + 1) rest

/-- Words with blanks between them, `least` at least, and one more in the last `more` places. -/
def spread (least more : Nat) : List Styled → Styled
  | [] => {}
  | [word] => word
  | word :: rest =>
    let count := if rest.length ≤ more then least + 1 else least
    (word.append { chars := blanks count }).append (spread least more rest)

/-- A line spread over `room` columns by blanks between its words. -/
def Styled.spread (room : Nat) (line : Styled) : Styled :=
  let words := wordsBetween line
  let gaps := words.length - 1
  let size := words.foldr (fun word count => columns word.chars + count) 0
  let excess := room - size - gaps
  Terminal.spread (1 + excess / gaps) (excess % gaps) words

/-- A line brought to a width. -/
def Justify.fit (overflow : Overflow) (room : Nat) (line : Styled) : Justify → Styled
  | left =>
    let line := line.shorten overflow room
    line.withChars (fitLeft room line.chars)
  | right =>
    let line := (line.withChars (Text.trimEnd line.chars)).shorten overflow room
    line.indent (room - columns line.chars)
  | centre =>
    let line := (line.withChars (Text.trimEnd line.chars)).shorten overflow room
    let line := line.indent ((room - columns line.chars) / 2)
    line.withChars (fitLeft room line.chars)
  | full => line

/-- The lines of a stretch of text, brought to a width. -/
def Justify.fitAll (overflow : Overflow) (room : Nat) (lines : List Styled) :
    Justify → List Styled
  | full => lines.dropLast.map (·.spread room) ++ lines.getLast?.toList
  | place => lines.map fun line => place.fit overflow room line

/-- The lines of a text in `room` columns, none if there is no room. Where no place is given, lines
are not filled up. -/
def flow (overflow : Overflow) (place : Option Justify) (room : Nat) (text : Styled) :
    List Styled :=
  if room = 0 then []
  else
    text.lines.flatMap fun line =>
      let line := line.expandTabs
      let sizes := (layOut overflow room 0 [] (wordsOf line.chars)).map List.length
      let lines := (line.divide sizes).map (dropExcess room)
      let lines := match place with
        | none => lines
        | some place => place.fitAll overflow room lines
      lines.map (·.shorten overflow room)

end RiscvListing.Terminal
