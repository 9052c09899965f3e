import Mathlib.Data.List.Induction
import PageShell.Rain.Canvas

/-!
# The trail of the rain

Whatever is painted, and in whatever order, the picture shows the newest glyph
of each place and how many ticks ago it was painted there, as long as that is
less than twelve. A tick that paints a place several times counts with the last
one, and cells outside the grid paint nothing.

* `Canvas.at?_paintCell`, `Canvas.at?_paint` — what a cell and a tick change at a
  place;
* `Newest` — the newest glyph of a place, told by the cells alone;
* `Canvas.at?_paintAll_eq_some_iff` — **the picture shows just that**;
* `Canvas.Young` — no glyph of the picture gets older than eleven ticks;
* `Slots` — the picture in memory, as one row of slots with ages in bytes;
* `Slots.paintAll?_eq` — no index is outside these slots, and no age outgrows its
  byte;
* `Canvas.trail_of_frames` — **all of it**, for any ticks.
-/

namespace PageShell

/-! ### Cells at a place -/

/-- The cell lies at a place of the grid. Its rows count from 1, and those of the grid from 0. -/
def RainCell.LiesAt (column row : Nat) (cell : RainCell) : Prop :=
  cell.column = column ∧ cell.row = row + 1

instance (column row : Nat) (cell : RainCell) : Decidable (cell.LiesAt column row) :=
  inferInstanceAs (Decidable (_ ∧ _))

/-- The last of several cells at a place. -/
def lastCell? (column row : Nat) (cells : List RainCell) : Option RainCell :=
  cells.reverse.find? (·.LiesAt column row)

/-- **The newest glyph of a place** after several ticks: the last one that the latest tick with a
cell there painted, and the number of ticks since then. -/
def Newest (column row : Nat) (frames : List (List RainCell)) (m : Mark) : Prop :=
  ∃ earlier frame later, frames = earlier ++ frame :: later ∧ later.length = m.age ∧
    (∀ cells ∈ later, ∀ cell ∈ cells, ¬ cell.LiesAt column row) ∧
    ∃ before cell after, frame = before ++ cell :: after ∧ cell.LiesAt column row ∧
      cell.glyph = m.glyph ∧ ∀ other ∈ after, ¬ other.LiesAt column row

section Place

variable {column row : Nat} {cells : List RainCell} {frames : List (List RainCell)} {m : Mark}

theorem lastCell?_append_singleton (cell : RainCell) :
    lastCell? column row (cells ++ [cell]) =
      if cell.LiesAt column row then some cell else lastCell? column row cells := by
  rw [lastCell?, List.reverse_append, List.reverse_singleton, List.singleton_append,
    List.find?_cons, lastCell?]
  by_cases h : cell.LiesAt column row <;> simp [h]

theorem lastCell?_eq_some_iff {cell : RainCell} :
    lastCell? column row cells = some cell ↔
      ∃ before after, cells = before ++ cell :: after ∧ cell.LiesAt column row ∧
        ∀ other ∈ after, ¬ other.LiesAt column row := by
  rw [lastCell?, List.find?_eq_some_iff_append]
  constructor
  · rintro ⟨hcell, after, before, hsplit, hafter⟩
    refine ⟨before.reverse, after.reverse, ?_, by simpa using hcell, by simpa using hafter⟩
    rw [← List.reverse_reverse cells, hsplit]
    simp
  · rintro ⟨before, after, rfl, hcell, hafter⟩
    exact ⟨by simpa using hcell, after.reverse, before.reverse, by simp, by simpa using hafter⟩

theorem lastCell?_eq_none_iff :
    lastCell? column row cells = none ↔ ∀ cell ∈ cells, ¬ cell.LiesAt column row := by
  simp [lastCell?]

/-- The same, with the last cell of each tick. -/
theorem newest_iff :
    Newest column row frames m ↔
      ∃ earlier frame later, frames = earlier ++ frame :: later ∧ later.length = m.age ∧
        (∀ cells ∈ later, lastCell? column row cells = none) ∧
        ∃ cell, lastCell? column row frame = some cell ∧ cell.glyph = m.glyph := by
  simp only [Newest, lastCell?_eq_none_iff, lastCell?_eq_some_iff]
  constructor
  · rintro ⟨earlier, frame, later, hsplit, hage, hlater, before, cell, after, hframe, hcell,
      hglyph, hafter⟩
    exact ⟨earlier, frame, later, hsplit, hage, hlater, cell,
      ⟨before, after, hframe, hcell, hafter⟩, hglyph⟩
  · rintro ⟨earlier, frame, later, hsplit, hage, hlater, cell,
      ⟨before, after, hframe, hcell, hafter⟩, hglyph⟩
    exact ⟨earlier, frame, later, hsplit, hage, hlater, before, cell, after, hframe, hcell,
      hglyph, hafter⟩

theorem not_newest_nil : ¬ Newest column row [] m := by
  rintro ⟨earlier, frame, later, hsplit, -⟩
  simp at hsplit

/-- A tick of several ones is the latest, or comes before the latest. -/
theorem eq_latest_or {earlier later : List (List RainCell)} {frame : List RainCell}
    (h : frames ++ [cells] = earlier ++ frame :: later) :
    (later = [] ∧ frame = cells) ∨
      ∃ front, later = front ++ [cells] ∧ frames = earlier ++ frame :: front := by
  rcases List.eq_nil_or_concat later with rfl | ⟨front, last, rfl⟩
  · obtain ⟨-, hcells⟩ := List.append_inj' h rfl
    exact .inl ⟨rfl, (List.singleton_inj.1 hcells).symm⟩
  · rw [List.concat_eq_append, ← List.cons_append, ← List.append_assoc] at h
    obtain ⟨hfront, hcells⟩ := List.append_inj' h rfl
    obtain rfl := List.singleton_inj.1 hcells
    exact .inr ⟨front, List.concat_eq_append, hfront⟩

/-- **The latest tick decides**, if it has a cell at the place. -/
theorem newest_append_of_some {cell : RainCell} (h : lastCell? column row cells = some cell) :
    Newest column row (frames ++ [cells]) m ↔ m = ⟨cell.glyph, 0⟩ := by
  rw [newest_iff]
  constructor
  · rintro ⟨earlier, frame, later, hsplit, hage, hlater, cell', hcell', hglyph⟩
    rcases eq_latest_or hsplit with ⟨rfl, rfl⟩ | ⟨front, rfl, -⟩
    · obtain rfl := Option.some.inj (h.symm.trans hcell')
      rw [hglyph, ← List.length_nil, hage]
    · have hnone := hlater cells (by simp)
      rw [h] at hnone
      cases hnone
  · rintro rfl
    exact ⟨frames, cells, [], rfl, rfl, by simp, cell, h, rfl⟩

/-- **A tick without a cell at the place** makes older what was there. -/
theorem newest_append_of_none (h : lastCell? column row cells = none) :
    Newest column row (frames ++ [cells]) m ↔
      ∃ m', Newest column row frames m' ∧ m = ⟨m'.glyph, m'.age + 1⟩ := by
  simp only [newest_iff]
  constructor
  · rintro ⟨earlier, frame, later, hsplit, hage, hlater, cell, hcell, hglyph⟩
    rcases eq_latest_or hsplit with ⟨-, rfl⟩ | ⟨front, rfl, rfl⟩
    · rw [h] at hcell
      cases hcell
    · refine ⟨⟨cell.glyph, front.length⟩,
        ⟨earlier, frame, front, rfl, rfl, ?_, cell, hcell, rfl⟩, ?_⟩
      · exact fun other hother => hlater other (List.mem_append_left _ hother)
      · rw [List.length_append, List.length_singleton] at hage
        rw [hglyph, hage]
  · rintro ⟨m', ⟨earlier, frame, later, rfl, hage, hlater, hcell⟩, rfl⟩
    refine ⟨earlier, frame, later ++ [cells], by simp, by simp [hage], ?_, hcell⟩
    intro other hother
    rcases List.mem_append.1 hother with hother | hother
    · exact hlater other hother
    · rw [List.mem_singleton.1 hother, h]

end Place

namespace Canvas

/-! ### A place of the picture -/

/-- The picture after several ticks. -/
def paintAll (frames : List (List RainCell)) (c : Canvas) : Canvas :=
  frames.foldl (fun c cells => c.paint cells) c

/-- No two places of the grid have the same slot. -/
theorem place_inj {row row' column column' width : Nat} (hc : column < width)
    (hc' : column' < width) (h : row * width + column = row' * width + column') :
    column = column' ∧ row = row' := by
  have hcolumn : column = column' := by
    have hmod := congrArg (· % width) h
    simpa only [Nat.mul_add_mod', Nat.mod_eq_of_lt hc, Nat.mod_eq_of_lt hc'] using hmod
  subst hcolumn
  exact ⟨rfl, Nat.eq_of_mul_eq_mul_right (Nat.zero_lt_of_lt hc) (Nat.add_right_cancel h)⟩

section Grid

variable {c : Canvas} {column row : Nat}

/-- The slot of a place holds what is painted there. -/
theorem getElem?_place (hcolumn : column < c.width) (hrow : row < c.rows) :
    c.marks[row * c.width + column]? = some (c.at? column row) := by
  rw [at?, dif_pos ⟨hrow, hcolumn⟩]
  exact Vector.getElem?_eq_getElem (place_lt hrow hcolumn)

theorem at?_of_not_lt (h : ¬ (column < c.width ∧ row < c.rows)) : c.at? column row = none :=
  dif_neg fun hin => h ⟨hin.2, hin.1⟩

/-- A cell leaves the size of the grid alone. -/
theorem size_paintCell (c : Canvas) (cell : RainCell) :
    (c.paintCell cell).width = c.width ∧ (c.paintCell cell).rows = c.rows := by
  rw [paintCell]
  split
  · exact ⟨rfl, rfl⟩
  · exact ⟨rfl, rfl⟩

theorem size_paint (c : Canvas) (cells : List RainCell) :
    (c.paint cells).width = c.width ∧ (c.paint cells).rows = c.rows := by
  rw [paint]
  induction cells using List.reverseRecOn with
  | nil => exact ⟨rfl, rfl⟩
  | append_singleton cells cell ih =>
    rw [List.foldl_append]
    obtain ⟨hwidth, hrows⟩ := size_paintCell (cells.foldl paintCell c.fadeAll) cell
    exact ⟨hwidth.trans ih.1, hrows.trans ih.2⟩

theorem at?_blank (width rows : Nat) : (blank width rows).at? column row = none := by
  by_cases h : column < width ∧ row < rows
  · have hplace := getElem?_place (c := blank width rows) h.1 h.2
    rw [blank, Vector.getElem?_replicate, if_pos (place_lt h.2 h.1)] at hplace
    exact (Option.some.inj hplace).symm
  · exact at?_of_not_lt h

/-- Every glyph gets older. -/
theorem at?_fadeAll (c : Canvas) : c.fadeAll.at? column row = (c.at? column row).bind fade := by
  by_cases h : column < c.width ∧ row < c.rows
  · have hplace := getElem?_place (c := c.fadeAll) h.1 h.2
    rw [fadeAll, Vector.getElem?_map, getElem?_place h.1 h.2] at hplace
    exact (Option.some.inj hplace).symm
  · rw [at?_of_not_lt h, at?_of_not_lt (c := c.fadeAll) h]
    rfl

/-- **A cell changes its own place** and no other one. -/
theorem at?_paintCell (hcolumn : column < c.width) (hrow : row < c.rows) (cell : RainCell) :
    (c.paintCell cell).at? column row =
      if cell.LiesAt column row then some ⟨cell.glyph, 0⟩ else c.at? column row := by
  rw [paintCell]
  split
  · next hin =>
    obtain ⟨⟨hpos, -⟩, hwidth⟩ := hin
    have hslot : (cell.row - 1) * c.width + cell.column = row * c.width + column ↔
        cell.LiesAt column row := by
      constructor
      · intro h
        obtain ⟨rfl, hrow'⟩ := place_inj hwidth hcolumn h
        exact ⟨rfl, by omega⟩
      · rintro ⟨rfl, hcell⟩
        rw [hcell, Nat.add_sub_cancel]
    apply Option.some.inj
    rw [← getElem?_place (by exact hcolumn) (by exact hrow), Vector.getElem?_set,
      getElem?_place hcolumn hrow]
    simp only [hslot]
    split
    · rfl
    · rfl
  · next hout =>
    rw [if_neg]
    rintro ⟨rfl, hcell⟩
    exact hout ⟨⟨by omega, by omega⟩, hcolumn⟩

/-- **A tick shows its last cell** of a place, or else what was there, made older. -/
theorem at?_paint (hcolumn : column < c.width) (hrow : row < c.rows) (cells : List RainCell) :
    (c.paint cells).at? column row =
      match lastCell? column row cells with
      | some cell => some ⟨cell.glyph, 0⟩
      | none => (c.at? column row).bind fade := by
  induction cells using List.reverseRecOn with
  | nil => exact at?_fadeAll c
  | append_singleton cells cell ih =>
    rw [paint, List.foldl_append]
    change ((c.paint cells).paintCell cell).at? column row = _
    obtain ⟨hwidth, hrows⟩ := c.size_paint cells
    rw [at?_paintCell (hwidth ▸ hcolumn) (hrows ▸ hrow), ih, lastCell?_append_singleton]
    by_cases hlies : cell.LiesAt column row
    · rw [if_pos hlies, if_pos hlies]
    · rw [if_neg hlies, if_neg hlies]

end Grid

/-! ### Several ticks -/

section Frames

variable {width rows column row : Nat}

theorem paintAll_append_singleton (c : Canvas) (frames : List (List RainCell))
    (cells : List RainCell) : c.paintAll (frames ++ [cells]) = (c.paintAll frames).paint cells :=
  List.foldl_append

theorem size_paintAll (c : Canvas) (frames : List (List RainCell)) :
    (c.paintAll frames).width = c.width ∧ (c.paintAll frames).rows = c.rows := by
  induction frames using List.reverseRecOn with
  | nil => exact ⟨rfl, rfl⟩
  | append_singleton frames cells ih =>
    rw [paintAll_append_singleton]
    obtain ⟨hwidth, hrows⟩ := size_paint (c.paintAll frames) cells
    exact ⟨hwidth.trans ih.1, hrows.trans ih.2⟩

theorem fade_eq_some_iff {m m' : Mark} :
    fade m' = some m ↔ m'.age + 1 < trailLength ∧ m = ⟨m'.glyph, m'.age + 1⟩ := by
  rw [fade]
  split
  · next h => simp [h, eq_comm]
  · next h => simp [h]

/-- **A place of the grid shows its newest glyph** while that is young enough. -/
theorem at?_paintAll_eq_some_iff (hcolumn : column < width) (hrow : row < rows)
    {frames : List (List RainCell)} {m : Mark} :
    ((blank width rows).paintAll frames).at? column row = some m ↔
      m.age < trailLength ∧ Newest column row frames m := by
  induction frames using List.reverseRecOn generalizing m with
  | nil =>
    rw [paintAll, List.foldl_nil, at?_blank]
    exact iff_of_false nofun fun h => not_newest_nil h.2
  | append_singleton frames cells ih =>
    obtain ⟨hwidth, hrows⟩ := (blank width rows).size_paintAll frames
    rw [paintAll_append_singleton, at?_paint (hwidth ▸ hcolumn) (hrows ▸ hrow)]
    cases h : lastCell? column row cells with
    | some cell =>
      rw [newest_append_of_some h, Option.some.injEq, eq_comm]
      exact ⟨fun hm => ⟨hm ▸ Nat.zero_lt_succ 11, hm⟩, And.right⟩
    | none =>
      -- what is there was there before and is one tick older
      simp only [newest_append_of_none h, Option.bind_eq_some_iff, ih, fade_eq_some_iff]
      constructor
      · rintro ⟨m', ⟨-, hnewest⟩, hage, rfl⟩
        exact ⟨hage, m', hnewest, rfl⟩
      · rintro ⟨hage, m', hnewest, rfl⟩
        exact ⟨m', ⟨Nat.lt_of_succ_lt hage, hnewest⟩, hage, rfl⟩

end Frames

/-! ### Ages -/

/-- No glyph of the picture is older than it may be. -/
def Young (c : Canvas) : Prop :=
  ∀ m, some m ∈ c.marks.toList → m.age < trailLength

theorem young_blank (width rows : Nat) : (blank width rows).Young := by
  intro m hm
  rw [blank, Vector.toList_replicate] at hm
  cases List.eq_of_mem_replicate hm

theorem young_fadeAll (c : Canvas) : c.fadeAll.Young := by
  intro m hm
  rw [fadeAll, Vector.toList_map, List.mem_map] at hm
  obtain ⟨slot, -, hslot⟩ := hm
  obtain ⟨m', -, hm'⟩ := Option.bind_eq_some_iff.1 hslot
  obtain ⟨hage, rfl⟩ := fade_eq_some_iff.1 hm'
  exact hage

theorem Young.paintCell {c : Canvas} (h : c.Young) (cell : RainCell) :
    (c.paintCell cell).Young := by
  rw [Canvas.paintCell]
  split
  · intro m hm
    rw [Vector.toList_set] at hm
    rcases List.mem_or_eq_of_mem_set hm with hm | hm
    · exact h m hm
    · rw [Option.some.inj hm]
      exact Nat.zero_lt_succ 11
  · exact h

/-- **No tick leaves a glyph that is too old**, whatever the picture was. -/
theorem young_paint (c : Canvas) (cells : List RainCell) : (c.paint cells).Young := by
  rw [paint]
  induction cells using List.reverseRecOn with
  | nil => exact c.young_fadeAll
  | append_singleton cells cell ih =>
    rw [List.foldl_append]
    exact ih.paintCell cell

theorem young_paintAll (width rows : Nat) (frames : List (List RainCell)) :
    ((blank width rows).paintAll frames).Young := by
  rcases List.eq_nil_or_concat frames with rfl | ⟨frames, cells, rfl⟩
  · exact young_blank width rows
  · rw [List.concat_eq_append, paintAll_append_singleton]
    exact young_paint _ cells

end Canvas

/-! ### The picture in memory -/

/-- **The picture in memory**: the slots of its places, row by row, with the age of each glyph in a
byte. -/
structure Slots where
  /-- the number of columns -/
  width : Nat
  /-- the number of rows -/
  rows : Nat
  /-- the glyphs and their ages -/
  slots : List (Option (Char × UInt8))
  deriving DecidableEq, Repr

namespace Slots

/-- The empty picture. -/
def blank (width rows : Nat) : Slots :=
  ⟨width, rows, List.replicate (width * rows) none⟩

/-- What is in the slot of a place, if there is such a slot; outside the grid no slot is read. -/
def at? (s : Slots) (column row : Nat) : Option (Option (Char × UInt8)) :=
  if s.width ≤ column ∨ s.rows ≤ row then some none else s.slots[row * s.width + column]?

/-- A slot one tick later. It fails if the age outgrows its byte. -/
def fade? : Option (Char × UInt8) → Option (Option (Char × UInt8))
  | some (glyph, age) =>
    if age = 255 then none else some (if age + 1 < 12 then some (glyph, age + 1) else none)
  | none => some none

/-- Paints a cell, unless it lies outside the grid. It fails if the place has no slot. -/
def paintCell? (s : Slots) (cell : RainCell) : Option Slots :=
  if cell.row = 0 ∨ s.rows < cell.row ∨ s.width ≤ cell.column then some s
  else
    let i := (cell.row - 1) * s.width + cell.column
    if i < s.slots.length then some { s with slots := s.slots.set i (some (cell.glyph, 0)) }
    else none

/-- Ages the picture by one tick and paints the cells over it. -/
def paint? (s : Slots) (cells : List RainCell) : Option Slots := do
  let slots ← s.slots.mapM fade?
  cells.foldlM paintCell? { s with slots := slots }

/-- The picture after several ticks. -/
def paintAll? (s : Slots) (frames : List (List RainCell)) : Option Slots :=
  frames.foldlM paint? s

/-- A glyph with its age in a byte. -/
def ofMark (m : Mark) : Char × UInt8 :=
  (m.glyph, UInt8.ofNat m.age)

/-- The picture as it is kept in memory. -/
def ofCanvas (c : Canvas) : Slots :=
  ⟨c.width, c.rows, c.marks.toList.map (·.map ofMark)⟩

theorem ofCanvas_blank (width rows : Nat) : ofCanvas (.blank width rows) = blank width rows := by
  rw [ofCanvas, Canvas.blank, Vector.toList_replicate, List.map_replicate, blank,
    Nat.mul_comm width rows]
  rfl

/-- **Every place of the grid has a slot.** -/
theorem at?_ofCanvas (c : Canvas) (column row : Nat) :
    (ofCanvas c).at? column row = some ((c.at? column row).map ofMark) := by
  by_cases h : column < c.width ∧ row < c.rows
  · have hplace := Canvas.getElem?_place h.1 h.2
    rw [at?, if_neg (by simp only [ofCanvas]; omega), ofCanvas, List.getElem?_map,
      Vector.getElem?_toList, hplace]
    rfl
  · rw [Canvas.at?_of_not_lt h, at?, if_pos (by simp only [ofCanvas]; omega)]
    rfl

/-- **The age of a young glyph stays in its byte.** -/
theorem fade?_ofMark {m : Mark} (h : m.age < trailLength) :
    fade? (some (ofMark m)) = some ((Canvas.fade m).map ofMark) := by
  have hage : (UInt8.ofNat m.age).toNat = m.age :=
    UInt8.toNat_ofNat_of_lt (Nat.lt_trans h (by decide))
  have hmax : UInt8.ofNat m.age ≠ 255 := by
    intro heq
    rw [heq] at hage
    rw [← hage] at h
    exact absurd h (by decide)
  have hyoung : UInt8.ofNat m.age + 1 < 12 ↔ m.age + 1 < trailLength := by
    rw [UInt8.lt_iff_toNat_lt, UInt8.toNat_add, hage]
    change (m.age + 1) % 256 < 12 ↔ m.age + 1 < 12
    rw [Nat.mod_eq_of_lt (Nat.lt_trans (Nat.succ_lt_succ h) (by decide))]
  rw [ofMark, fade?, if_neg hmax, Canvas.fade]
  simp only [hyoung]
  split
  · rw [Option.map_some, ofMark, UInt8.ofNat_add]
    rfl
  · rfl

theorem mapM_fade? {marks : List (Option Mark)} (h : ∀ m, some m ∈ marks → m.age < trailLength) :
    (marks.map (·.map ofMark)).mapM fade? =
      some ((marks.map (·.bind Canvas.fade)).map (·.map ofMark)) := by
  induction marks with
  | nil => rfl
  | cons slot marks ih =>
    have hslot : fade? (slot.map ofMark) = some ((slot.bind Canvas.fade).map ofMark) := by
      cases slot with
      | none => rfl
      | some m => exact fade?_ofMark (h m List.mem_cons_self)
    rw [List.map_cons, List.mapM_cons, hslot, ih fun m hm => h m (List.mem_cons_of_mem _ hm)]
    rfl

/-- **The place of a cell has a slot**, if the cell is in the grid. -/
theorem paintCell?_ofCanvas (c : Canvas) (cell : RainCell) :
    (ofCanvas c).paintCell? cell = some (ofCanvas (c.paintCell cell)) := by
  rw [paintCell?, Canvas.paintCell]
  split
  · next hout =>
    rw [dif_neg (by simp only [ofCanvas] at hout; omega)]
  · next hin =>
    have hplace : (1 ≤ cell.row ∧ cell.row - 1 < c.rows) ∧ cell.column < c.width := by
      simp only [ofCanvas] at hin
      omega
    have hlt : (cell.row - 1) * c.width + cell.column < (ofCanvas c).slots.length := by
      rw [ofCanvas, List.length_map, Vector.length_toList]
      exact Canvas.place_lt hplace.1.2 hplace.2
    rw [dif_pos hplace]
    refine (if_pos hlt).trans ?_
    rw [ofCanvas, ofCanvas, Vector.toList_set, List.map_set]
    rfl

theorem paint?_ofCanvas {c : Canvas} (h : c.Young) (cells : List RainCell) :
    (ofCanvas c).paint? cells = some (ofCanvas (c.paint cells)) := by
  have hfade : (ofCanvas c).slots.mapM fade? = some (ofCanvas c.fadeAll).slots := by
    rw [ofCanvas, mapM_fade? h, ofCanvas, Canvas.fadeAll, Vector.toList_map]
  rw [paint?, hfade, Canvas.paint]
  change cells.foldlM paintCell? (ofCanvas c.fadeAll) = _
  generalize c.fadeAll = c
  induction cells generalizing c with
  | nil => rfl
  | cons cell cells ih =>
    rw [List.foldlM_cons, paintCell?_ofCanvas]
    exact ih (c.paintCell cell)

/-- **No index is outside the slots, and no age outgrows its byte.** -/
theorem paintAll?_eq (width rows : Nat) (frames : List (List RainCell)) :
    (blank width rows).paintAll? frames =
      some (ofCanvas ((Canvas.blank width rows).paintAll frames)) := by
  rw [paintAll?, ← ofCanvas_blank]
  induction frames using List.reverseRecOn with
  | nil => rfl
  | append_singleton frames cells ih =>
    rw [List.foldlM_append, ih, Canvas.paintAll_append_singleton, Option.bind_eq_bind,
      Option.bind_some, List.foldlM_cons, paint?_ofCanvas (Canvas.young_paintAll width rows frames)]
    rfl

end Slots

namespace Canvas

/-- **The picture shows the last twelve ticks**, whatever its size and whatever was painted. It has
a glyph of some age at a place exactly if the place is in the grid, the age is less than twelve, and
so many ticks ago was the latest one that painted the place, with this glyph for its last cell
there; everywhere else it has none, and so outside the grid. All ages are less than twelve at any
time. So they stay in their bytes when the picture is kept in memory, where all places have slots,
those that are painted and those that are looked at. -/
theorem trail_of_frames (width rows : Nat) (frames : List (List RainCell)) (column row : Nat) :
    let c := (blank width rows).paintAll frames
    (∀ glyph age, c.at? column row = some ⟨glyph, age⟩ ↔
      column < width ∧ row < rows ∧ age < 12 ∧ Newest column row frames ⟨glyph, age⟩) ∧
      (¬ (column < width ∧ row < rows) → c.at? column row = none) ∧
      (∀ m, some m ∈ c.marks.toList → m.age < 12) ∧
      (Slots.blank width rows).paintAll? frames = some (Slots.ofCanvas c) ∧
      (Slots.ofCanvas c).at? column row = some ((c.at? column row).map Slots.ofMark) := by
  intro c
  obtain ⟨hwidth, hrows⟩ : c.width = width ∧ c.rows = rows := size_paintAll _ frames
  have hout : ¬ (column < width ∧ row < rows) → c.at? column row = none := by
    rw [← hwidth, ← hrows]
    exact at?_of_not_lt
  refine ⟨fun glyph age => ?_, hout, young_paintAll width rows frames,
    Slots.paintAll?_eq width rows frames, Slots.at?_ofCanvas c column row⟩
  by_cases hin : column < width ∧ row < rows
  · rw [at?_paintAll_eq_some_iff hin.1 hin.2]
    exact ⟨fun h => ⟨hin.1, hin.2, h⟩, fun h => h.2.2⟩
  · rw [hout hin]
    exact iff_of_false nofun fun h => hin ⟨h.1, h.2.1⟩

-- a glyph is visible at its twelfth tick for the last time
example : ((blank 1 1).paintAll ([⟨0, 1, 'Q'⟩] :: List.replicate 11 [])).at? 0 0 = some ⟨'Q', 11⟩ ∧
    ((blank 1 1).paintAll ([⟨0, 1, 'Q'⟩] :: List.replicate 12 [])).at? 0 0 = none := by
  decide +kernel

end Canvas

end PageShell
