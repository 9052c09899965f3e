import PageShell.Rain.Generator
import PageShell.Text.Basic

/-!
# Digital rain

In every column of a grid a drop falls by one row at each tick and leaves a
random glyph behind. A drop below the grid starts again at the top, sooner or
later, so the columns drift apart.

* `Rain.tick` — the glyphs of a tick, and the rain after it;
* `Rain.resize` — the rain on another grid.
-/

namespace PageShell

/-- The glyphs of the rain; those that come twice are twice as likely. -/
def rainGlyphs : Text :=
  "01010100110101ABCDEFGHIJKLMNOPQRSTUVWXYZ0123456789$+-*/=%\"'&_(),.;:?!\\|\x7b\x7d<>[]^~".toList

/-- The chance of a drop below the grid to start again, one in forty as a double, in parts of
`Generator.fractionParts`. -/
def restartChance : Nat := 230584300921369408

/-- The largest row that a drop can have; there it stays. -/
def lastRow : Nat := 65535

/-- A glyph of a tick. Columns count from 0 and rows from 1. -/
structure RainCell where
  column : Nat
  row : Nat
  glyph : Char
  deriving DecidableEq, Repr

/-- **The rain.** -/
structure Rain where
  /-- the row of the drop in each column -/
  drops : List Nat
  /-- the number of rows of the grid -/
  rows : Nat
  /-- the source of glyphs and restarts -/
  generator : Generator
  /-- whether it rains at all -/
  enabled : Bool
  deriving DecidableEq, Repr

namespace Rain

/-- The rain on another grid, where every drop starts at the top. -/
def resize (columns rows : Nat) (rain : Rain) : Rain :=
  { rain with drops := List.replicate columns 1, rows := rows }

/-- The rain on a grid, from a seed. -/
def start (columns rows : Nat) (seed : UInt64) : Rain :=
  ⟨List.replicate columns 1, rows, ⟨seed⟩, true⟩

/-- Switches the rain on or off. -/
def enable (on : Bool) (rain : Rain) : Rain :=
  { rain with enabled := on }

/-- A random glyph. -/
def drawGlyph (g : Generator) : Char × Generator :=
  (g.below rainGlyphs.length).map (rainGlyphs.getD · '0') id

/-- The row after a row: the next one, as far as rows go. -/
def nextRow (row : Nat) : Nat :=
  min (row + 1) lastRow

/-- Where a drop is after a tick: a row lower, or at the top if it was below the grid and starts
again. -/
def fall (rows drop : Nat) (g : Generator) : Nat × Generator :=
  if rows < drop then
    (g.chance restartChance).map (fun restarts => if restarts then 1 else nextRow drop) id
  else (nextRow drop, g)

/-- The glyphs and the new drops of the columns from `column` on. -/
def tickColumns (rows : Nat) :
    Nat → List Nat → Generator → List RainCell × List Nat × Generator
  | _, [], g => ([], [], g)
  | column, drop :: drops, g =>
    let glyph := drawGlyph g
    let landed := fall rows drop glyph.2
    let rest := tickColumns rows (column + 1) drops landed.2
    (⟨column, drop, glyph.1⟩ :: rest.1, landed.1 :: rest.2.1, rest.2.2)

/-- **A tick**: one glyph in each column, at its drop. Drops below the grid leave glyphs too. -/
def tick (rain : Rain) : List RainCell × Rain :=
  if rain.enabled then
    let (cells, drops, g) := tickColumns rain.rows 0 rain.drops rain.generator
    (cells, { rain with drops := drops, generator := g })
  else ([], rain)

end Rain

end PageShell
