import RiscvListing.Label

/-!
# Settings

What can be set about a run.

## Main definitions

* `Settings` — how labels are written, how large an image may be, how many lines are shown and how
  a listing is encoded.
* `Settings.within` — settings where the room for labels in memory is bounded.
-/

namespace RiscvListing

/-- The settings of a run. -/
structure Settings where
  /-- How synthetic labels are written. -/
  labels : LabelStyle := {}
  /-- The largest size of an image; zero stands for no limit. -/
  sizeLimit : Int := 52428800
  /-- The number of lines of code shown in the terminal. Zero shows all lines, and a negative number
  all but that many of the last. -/
  shownRows : Int := 200
  /-- The name of the encoding of a listing. -/
  encoding : String := "utf-8"
  deriving Repr, DecidableEq

/-- The same settings where there is room in memory for labels whose numerals have `room` characters
only. -/
def Settings.within (settings : Settings) (room : Nat) : Settings :=
  { settings with labels.numbering := settings.labels.numbering.within room }

end RiscvListing
