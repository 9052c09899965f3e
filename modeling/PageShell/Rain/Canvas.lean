import PageShell.Rain.Drops

/-!
# The picture of the rain

The canvas keeps the glyphs of the last ticks. A glyph ages with every tick
and fades away, unless a newer one is painted over it.

* `Canvas.paint` — ages the picture and paints new glyphs;
* `Canvas.at?` — the glyph at a place.
-/

namespace PageShell

/-- The number of ticks for which a glyph is visible. -/
def trailLength : Nat := 12

/-- A painted glyph. -/
structure Mark where
  glyph : Char
  /-- the number of ticks since it was painted -/
  age : Nat
  deriving DecidableEq, Repr

/-- **The picture of the rain**: a grid of places, row by row. -/
structure Canvas where
  /-- the number of columns -/
  width : Nat
  /-- the number of rows -/
  rows : Nat
  /-- what is painted at each place -/
  marks : Vector (Option Mark) (rows * width)
  deriving DecidableEq

/-- The place of a row and a column lies inside the grid. -/
theorem Canvas.place_lt {row rows column width : Nat} (hr : row < rows) (hc : column < width) :
    row * width + column < rows * width :=
  calc row * width + column < row * width + width := Nat.add_lt_add_left hc _
    _ = (row + 1) * width := (Nat.succ_mul row width).symm
    _ ≤ rows * width := Nat.mul_le_mul_right width hr

namespace Canvas

/-- The empty picture. -/
def blank (width rows : Nat) : Canvas :=
  ⟨width, rows, Vector.replicate (rows * width) none⟩

/-- What is painted at a place; rows count from 0. Nothing is painted outside the grid. -/
def at? (c : Canvas) (column row : Nat) : Option Mark :=
  if h : row < c.rows ∧ column < c.width then
    c.marks.get ⟨row * c.width + column, place_lt h.1 h.2⟩
  else none

/-- A glyph one tick later, while it is visible. -/
def fade (m : Mark) : Option Mark :=
  if m.age + 1 < trailLength then some ⟨m.glyph, m.age + 1⟩ else none

/-- Ages every glyph by one tick. -/
def fadeAll (c : Canvas) : Canvas :=
  { c with marks := c.marks.map (·.bind fade) }

/-- Paints a cell, unless it lies outside the grid. -/
def paintCell (c : Canvas) (cell : RainCell) : Canvas :=
  if h : (1 ≤ cell.row ∧ cell.row - 1 < c.rows) ∧ cell.column < c.width then
    { c with
      marks := c.marks.set ((cell.row - 1) * c.width + cell.column) (some ⟨cell.glyph, 0⟩)
        (place_lt h.1.2 h.2) }
  else c

/-- **Ages the picture by one tick and paints the cells over it**, in order. -/
def paint (cells : List RainCell) (c : Canvas) : Canvas :=
  cells.foldl paintCell c.fadeAll

end Canvas

end PageShell
