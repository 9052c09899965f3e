import Mathlib.Data.List.Chain
import Mathlib.Data.List.GetD
import Mathlib.Data.List.Induction
import PageShell.Rain.Drops

/-!
# How drops fall

Every column shows its drop in every tick of the rain. A drop that comes to the
first row goes through all the rows of the grid, one in each tick; and only from
below the grid it may come to the first row again. All that chance decides about
a drop is when it does so.

* `Generator.fst_below_lt` — a number below a bound is below the bound;
* `Rain.landing`, `Rain.descent` — where a drop goes, if it is known when it
  restarts;
* `Rain.Falls`, `Rain.falls_tickColumns` — what a tick does, column by column;
* `Rain.Fits`, `Rain.fits_run`, `Rain.enabled_run` — what holds of the rain after
  any calls;
* `Rain.frames_eq_descent` — **what a column shows** in any ticks;
* `Rain.RowByRow`, `Rain.rowByRow_descent` — the rows come in order, whatever is
  drawn;
* `Rain.rows_in_order` — **all of it**, for any calls.
-/

namespace PageShell

namespace Generator

/-! ### What is drawn -/

/-- A number has 64 bits. -/
theorem fst_next_lt (g : Generator) : g.next.1 < period := by
  rw [next]
  have hproduct : ∀ a b : UInt64, a.toNat * b.toNat < period * period :=
    fun a b => Nat.mul_lt_mul'' a.toNat_lt b.toNat_lt
  exact Nat.xor_lt_two_pow (n := 64) (Nat.mod_lt _ (Nat.two_pow_pos 64))
    (Nat.div_lt_of_lt_mul (hproduct _ _))

theorem fst_redraw_lt (accept : Nat → Bool) (tries : Nat) (g : Generator) :
    (redraw accept tries g).1 < period := by
  induction tries generalizing g with
  | zero => exact g.fst_next_lt
  | succ tries ih =>
    rw [redraw]
    dsimp only
    split
    · exact g.fst_next_lt
    · exact ih g.next.2

/-- **A number below a bound is below the bound**, so what it stands for exists. -/
theorem fst_below_lt {bound : Nat} (h : 0 < bound) (g : Generator) : (g.below bound).1 < bound := by
  rw [below]
  refine Nat.div_lt_of_lt_mul ?_
  exact Nat.mul_lt_mul_of_pos_right (fst_redraw_lt _ period g) h

end Generator

namespace Rain

/-! ### The way of a drop -/

/-- Where a drop lands in a tick, if it is known whether it restarts from below the grid. -/
def landing (rows drop : Nat) (restarts : Bool) : Nat :=
  if rows < drop ∧ restarts = true then 1 else nextRow drop

/-- **The rows of a drop** in ticks to come, if it is known in which of them it restarts from below
the grid. -/
def descent (rows : Nat) : Nat → List Bool → List Nat
  | _, [] => []
  | drop, restarts :: rest => drop :: descent rows (landing rows drop restarts) rest

/-- Which row may follow a row: from the grid the next one; from below it the first one, or another
one below it. -/
def Follows (rows above next : Nat) : Prop :=
  if above ≤ rows then next = above + 1 else next = 1 ∨ rows < next

/-- **Rows that come in order.** -/
structure RowByRow (rows : Nat) (path : List Nat) : Prop where
  /-- no row of the grid is skipped or repeated, and from below it no drop comes back to any but the
  first -/
  follows : path.IsChain (Follows rows)
  /-- from the first row on, all rows of the grid come in order -/
  inOrder : ∀ before after, path = before ++ 1 :: after →
    (1 :: after).take rows <+: List.range' 1 rows
  /-- the first row comes again from below the grid only -/
  restart : ∀ before above after, path = before ++ above :: 1 :: after → rows < above

theorem one_le_nextRow (row : Nat) : 1 ≤ nextRow row :=
  Nat.le_min.2 ⟨Nat.le_add_left 1 row, by decide⟩

theorem one_le_landing (rows drop : Nat) (restarts : Bool) : 1 ≤ landing rows drop restarts := by
  rw [landing]
  split
  · exact Nat.le_refl 1
  · exact one_le_nextRow drop

section Way

variable {rows drop : Nat}

/-- **Where a drop lands** is as it should be: the last row of all is below the grid, so a drop that
stays there stays below the grid. -/
theorem follows_landing (h : rows < lastRow) (restarts : Bool) :
    Follows rows drop (landing rows drop restarts) := by
  rw [Follows, landing]
  split
  · next hle =>
    rw [if_neg fun hlt => Nat.not_lt.2 hle hlt.1, nextRow, Nat.min_eq_left (by omega)]
  · next hlt =>
    split
    · exact .inl rfl
    · exact .inr (Nat.lt_min.2 ⟨by omega, h⟩)

theorem isChain_descent (h : rows < lastRow) (restarts : List Bool) :
    (descent rows drop restarts).IsChain (Follows rows) := by
  induction restarts generalizing drop with
  | nil => exact .nil
  | cons now later ih =>
    cases later with
    | nil => exact .singleton _
    | cons next rest => exact .cons_cons (follows_landing h now) ih

theorem one_le_of_mem_descent (h : 1 ≤ drop) {restarts : List Bool} {row : Nat}
    (hrow : row ∈ descent rows drop restarts) : 1 ≤ row := by
  induction restarts generalizing drop with
  | nil => cases hrow
  | cons now later ih =>
    rcases List.mem_cons.1 hrow with rfl | hrow
    · exact h
    · exact ih (one_le_landing rows drop now) hrow

/-- A way that is in some row of the grid, or just below it, goes through those from there on. -/
theorem take_prefix_range' {first : Nat} {after : List Nat}
    (h : (first :: after).IsChain (Follows rows)) {left : Nat} (hleft : first + left = rows + 1) :
    (first :: after).take left <+: List.range' first left := by
  induction left generalizing first after with
  | zero => exact List.nil_prefix
  | succ left ih =>
    rw [List.take_succ_cons, List.range'_succ, List.cons_prefix_cons]
    refine ⟨rfl, ?_⟩
    cases after with
    | nil =>
      rw [List.take_nil]
      exact List.nil_prefix
    | cons next rest =>
      obtain ⟨hnext, hrest⟩ := List.isChain_cons_cons.1 h
      rw [Follows, if_pos (by omega)] at hnext
      subst hnext
      exact ih hrest (by omega)

/-- **The rows come in order, whatever is drawn.** -/
theorem rowByRow_descent (h : rows < lastRow) (hdrop : 1 ≤ drop) (restarts : List Bool) :
    RowByRow rows (descent rows drop restarts) where
  follows := isChain_descent h restarts
  inOrder before after hpath := by
    have hchain : (descent rows drop restarts).IsChain (Follows rows) := isChain_descent h restarts
    rw [hpath] at hchain
    exact take_prefix_range' (List.isChain_append.1 hchain).2.1 (Nat.add_comm 1 rows)
  restart before above after hpath := by
    have hmem : above ∈ descent rows drop restarts := by
      rw [hpath]
      exact List.mem_append_right before List.mem_cons_self
    have habove : 1 ≤ above := one_le_of_mem_descent hdrop hmem
    have hchain : (descent rows drop restarts).IsChain (Follows rows) := isChain_descent h restarts
    rw [hpath] at hchain
    obtain ⟨hfirst, -⟩ := List.isChain_cons_cons.1 (List.isChain_append.1 hchain).2.1
    rw [Follows] at hfirst
    split at hfirst
    · omega
    · omega

end Way

/-! ### A tick -/

/-- **What a tick may do** in the columns from a first one on, whatever is drawn: each of them is
shown at the row of its drop, with one of the glyphs, and its drop lands. -/
inductive Falls (rows : Nat) : Nat → List Nat → List RainCell → List Nat → Prop where
  /-- there is no column left -/
  | nil (column : Nat) : Falls rows column [] [] []
  /-- a column comes before the others -/
  | cons {column : Nat} {drops drops' : List Nat} {cells : List RainCell} (drop : Nat)
      {glyph : Char} (restarts : Bool) (hglyph : glyph ∈ rainGlyphs)
      (h : Falls rows (column + 1) drops cells drops') :
      Falls rows column (drop :: drops) (⟨column, drop, glyph⟩ :: cells)
        (landing rows drop restarts :: drops')

/-- The rows at which several cells show a column. -/
def rowsIn (column : Nat) (cells : List RainCell) : List Nat :=
  (cells.filter (·.column = column)).map (·.row)

namespace Falls

variable {rows column : Nat} {drops drops' : List Nat} {cells : List RainCell}

theorem columns_eq (h : Falls rows column drops cells drops') :
    cells.map (·.column) = List.range' column drops.length := by
  induction h with
  | nil column => rfl
  | cons drop restarts hglyph h ih => rw [List.map_cons, ih, List.length_cons, List.range'_succ]

theorem rows_eq (h : Falls rows column drops cells drops') : cells.map (·.row) = drops := by
  induction h with
  | nil column => rfl
  | cons drop restarts hglyph h ih => rw [List.map_cons, ih]

theorem glyph_mem (h : Falls rows column drops cells drops') :
    ∀ cell ∈ cells, cell.glyph ∈ rainGlyphs := by
  induction h with
  | nil column => exact List.forall_mem_nil _
  | cons drop restarts hglyph h ih => exact List.forall_mem_cons.2 ⟨hglyph, ih⟩

theorem length_eq (h : Falls rows column drops cells drops') : drops'.length = drops.length := by
  induction h with
  | nil column => rfl
  | cons drop restarts hglyph h ih => rw [List.length_cons, ih, List.length_cons]

theorem one_le (h : Falls rows column drops cells drops') : ∀ drop ∈ drops', 1 ≤ drop := by
  induction h with
  | nil column => exact List.forall_mem_nil _
  | cons drop restarts hglyph h ih =>
    exact List.forall_mem_cons.2 ⟨one_le_landing rows drop restarts, ih⟩

/-- The drop of each column lands. -/
theorem exists_landing (h : Falls rows column drops cells drops') {i drop : Nat}
    (hi : drops[i]? = some drop) : ∃ restarts, drops'[i]? = some (landing rows drop restarts) := by
  induction h generalizing i with
  | nil column => cases hi
  | cons drop restarts hglyph h ih =>
    cases i with
    | zero =>
      obtain rfl := Option.some.inj hi
      exact ⟨restarts, rfl⟩
    | succ i => exact ih hi

/-- **Each column is shown once**, at its drop. -/
theorem rowsIn_eq (h : Falls rows column drops cells drops') (i : Nat) :
    rowsIn i cells = if i < column then [] else drops[i - column]?.toList := by
  induction h with
  | nil column => simp [rowsIn]
  | @cons column drops drops' cells drop glyph restarts hglyph h ih =>
    rw [rowsIn, List.filter_cons]
    rcases Nat.lt_trichotomy i column with hlt | rfl | hlt
    · rw [rowsIn, if_pos (by omega)] at ih
      rw [if_neg (by simpa using hlt.ne'), ih, if_pos hlt]
    · rw [rowsIn, if_pos (by omega)] at ih
      rw [if_pos (by simp), List.map_cons, ih, if_neg (by omega), Nat.sub_self]
      rfl
    · rw [rowsIn, if_neg (by omega)] at ih
      rw [if_neg (by simpa using hlt.ne), ih, if_neg (by omega),
        show i - column = i - (column + 1) + 1 by omega, List.getElem?_cons_succ]

end Falls

theorem length_rainGlyphs_pos : 0 < rainGlyphs.length := by
  decide +kernel

theorem fst_drawGlyph_mem (g : Generator) : (drawGlyph g).1 ∈ rainGlyphs := by
  have hlt : (g.below rainGlyphs.length).1 < rainGlyphs.length :=
    Generator.fst_below_lt length_rainGlyphs_pos g
  rw [drawGlyph, Prod.map_fst, List.getD_eq_getElem _ _ hlt]
  exact List.getElem_mem hlt

theorem exists_fst_fall (rows drop : Nat) (g : Generator) :
    ∃ restarts, (fall rows drop g).1 = landing rows drop restarts := by
  rw [fall]
  by_cases h : rows < drop
  · rw [if_pos h, Prod.map_fst]
    exact ⟨(g.chance restartChance).1, by simp only [landing, h, true_and]⟩
  · exact ⟨false, by rw [if_neg h, landing, if_neg fun hlt => h hlt.1]⟩

theorem falls_tickColumns (rows column : Nat) (drops : List Nat) (g : Generator) :
    Falls rows column drops (tickColumns rows column drops g).1
      (tickColumns rows column drops g).2.1 := by
  induction drops generalizing column g with
  | nil => exact .nil column
  | cons drop drops ih =>
    obtain ⟨restarts, hlands⟩ := exists_fst_fall rows drop (drawGlyph g).2
    rw [tickColumns, hlands]
    exact .cons drop restarts (fst_drawGlyph_mem g) (ih (column + 1) _)

/-- **A tick of rain that is switched on.** -/
theorem falls_tick {rain : Rain} (h : rain.enabled = true) :
    Falls rain.rows 0 rain.drops rain.tick.1 rain.tick.2.drops := by
  rw [tick, if_pos h]
  exact falls_tickColumns rain.rows 0 rain.drops rain.generator

theorem tick_of_disabled {rain : Rain} (h : rain.enabled = false) : rain.tick = ([], rain) := by
  rw [tick, h]
  rfl

/-- A tick leaves alone the size of the grid and the switch. -/
theorem rows_enabled_tick (rain : Rain) :
    rain.tick.2.rows = rain.rows ∧ rain.tick.2.enabled = rain.enabled := by
  rw [tick]
  split
  · exact ⟨rfl, rfl⟩
  · exact ⟨rfl, rfl⟩

/-! ### Calls -/

/-- **A call of the rain.** -/
inductive Call where
  /-- a tick -/
  | tick
  /-- another grid -/
  | resize (columns rows : Nat)
  /-- rain switched on or off -/
  | enable (on : Bool)
  deriving DecidableEq, Repr

/-- The rain after a call. -/
def call (rain : Rain) : Call → Rain
  | .tick => rain.tick.2
  | .resize columns rows => rain.resize columns rows
  | .enable on => rain.enable on

/-- What a tick shows, if the call is one and the rain is switched on. -/
def frame? (rain : Rain) : Call → Option (List RainCell)
  | .tick => if rain.enabled then some rain.tick.1 else none
  | .resize _ _ => none
  | .enable _ => none

/-- The rain after several calls. -/
def run (rain : Rain) (calls : List Call) : Rain :=
  calls.foldl call rain

/-- **What several calls show**, tick by tick. Ticks of rain that is switched off are left out. -/
def frames (rain : Rain) : List Call → List (List RainCell)
  | [] => []
  | c :: rest => (rain.frame? c).toList ++ frames (rain.call c) rest

/-- The grid that a call asks for. -/
def Call.grid? : Call → Option (Nat × Nat)
  | .tick => none
  | .resize columns rows => some (columns, rows)
  | .enable _ => none

/-- The grid after several calls: the one that was asked for last. -/
def gridAfter (grid : Nat × Nat) (calls : List Call) : Nat × Nat :=
  (calls.filterMap Call.grid?).getLast?.getD grid

/-- Whether a call asks for rain, or for none. -/
def Call.switch? : Call → Option Bool
  | .tick => none
  | .resize _ _ => none
  | .enable on => some on

/-- Whether it rains after several calls: as it was asked for last. -/
def enabledAfter (on : Bool) (calls : List Call) : Bool :=
  (calls.filterMap Call.switch?).getLast?.getD on

/-- **What was asked for last** is what the last call asks for, if it asks for anything. -/
theorem getD_getLast?_filterMap_append {α : Type} (asked : Call → Option α) (before : α)
    (calls : List Call) (c : Call) :
    ((calls ++ [c]).filterMap asked).getLast?.getD before =
      (asked c).getD ((calls.filterMap asked).getLast?.getD before) := by
  rw [List.filterMap_append, List.getLast?_append]
  cases hc : asked c <;> simp [hc]

/-- **What holds of the rain on a grid.** -/
structure Fits (grid : Nat × Nat) (rain : Rain) : Prop where
  /-- each column has one drop -/
  columns_eq : rain.drops.length = grid.1
  /-- the rows are those of the grid -/
  rows_eq : rain.rows = grid.2
  /-- rows count from 1 -/
  one_le : ∀ drop ∈ rain.drops, 1 ≤ drop

theorem fits_top (columns rows : Nat) (g : Generator) (on : Bool) :
    Fits (columns, rows) ⟨List.replicate columns 1, rows, g, on⟩ :=
  ⟨List.length_replicate, rfl, fun _ hdrop => Nat.le_of_eq (List.eq_of_mem_replicate hdrop).symm⟩

theorem Fits.call {grid : Nat × Nat} {rain : Rain} (h : Fits grid rain) (c : Call) :
    Fits (c.grid?.getD grid) (rain.call c) := by
  cases c with
  | tick =>
    cases hon : rain.enabled with
    | false =>
      rw [Rain.call, tick_of_disabled hon]
      exact h
    | true =>
      have hfalls := falls_tick hon
      exact ⟨hfalls.length_eq.trans h.columns_eq, rain.rows_enabled_tick.1.trans h.rows_eq,
        hfalls.one_le⟩
  | resize columns rows => exact fits_top columns rows rain.generator rain.enabled
  | enable on => exact ⟨h.columns_eq, h.rows_eq, h.one_le⟩

theorem fits_run (columns rows : Nat) (seed : UInt64) (calls : List Call) :
    Fits (gridAfter (columns, rows) calls) ((start columns rows seed).run calls) := by
  induction calls using List.reverseRecOn with
  | nil => exact fits_top columns rows ⟨seed⟩ true
  | append_singleton calls c ih =>
    rw [gridAfter, getD_getLast?_filterMap_append, run, List.foldl_append]
    exact ih.call c

theorem enabled_call (rain : Rain) (c : Call) :
    (rain.call c).enabled = c.switch?.getD rain.enabled := by
  cases c with
  | tick => exact rain.rows_enabled_tick.2
  | resize columns rows => rfl
  | enable on => rfl

/-- **It rains if that was asked for last**, and if nothing was asked for. -/
theorem enabled_run (columns rows : Nat) (seed : UInt64) (calls : List Call) :
    ((start columns rows seed).run calls).enabled = enabledAfter true calls := by
  induction calls using List.reverseRecOn with
  | nil => rfl
  | append_singleton calls c ih =>
    rw [enabledAfter, getD_getLast?_filterMap_append, run, List.foldl_append]
    exact (enabled_call _ c).trans (congrArg c.switch?.getD ih)

/-- **What a column shows** as long as the grid stays: the way of its drop, a row in each tick. -/
theorem frames_eq_descent {rain : Rain} {calls : List Call} (hgrid : ∀ c ∈ calls, c.grid? = none)
    {column drop : Nat} (hdrop : rain.drops[column]? = some drop) :
    ∃ restarts, (rain.frames calls).map (rowsIn column) =
      (descent rain.rows drop restarts).map ([·]) := by
  induction calls generalizing rain drop with
  | nil => exact ⟨[], rfl⟩
  | cons c calls ih =>
    obtain ⟨hc, hcalls⟩ := List.forall_mem_cons.1 hgrid
    cases c with
    | tick =>
      cases hon : rain.enabled with
      | false =>
        rw [frames, frame?, hon, call, tick_of_disabled hon]
        exact ih hcalls hdrop
      | true =>
        have hfalls := falls_tick hon
        obtain ⟨restarts, hland⟩ := hfalls.exists_landing hdrop
        obtain ⟨later, hlater⟩ := ih hcalls hland
        refine ⟨restarts :: later, ?_⟩
        rw [rain.rows_enabled_tick.1] at hlater
        rw [frames, frame?, if_pos hon, Option.toList_some, List.singleton_append, List.map_cons,
          hfalls.rowsIn_eq, if_neg (Nat.not_lt_zero column), Nat.sub_zero, hdrop, call, hlater]
        rfl
    | resize columns rows => cases hc
    | enable on =>
      change ∃ restarts, ((rain.enable on).frames calls).map (rowsIn column) =
        (descent (rain.enable on).rows drop restarts).map ([·])
      exact ih hcalls hdrop

/-- **How the rain falls**, for any seed and any calls. There is one drop in each column of the grid
that was asked for last, in the first row or below. A tick shows the columns from left to right,
each at the row of its drop and with one of the glyphs, for what is drawn always has its glyph; when
the rain is switched off, a tick shows nothing and changes nothing. The rain is on or off as it was
asked for last, and on at first. If the grid has less than 65535 rows, and as long as it stays,
every column shows one row in each tick, and they are the way of its drop: whatever is drawn, from
the first row on it comes through all rows of the grid in order, and it comes to the first row from
below the grid only. -/
theorem rows_in_order (columns rows : Nat) (seed : UInt64) (calls : List Call) :
    let rain := (start columns rows seed).run calls
    let grid := gridAfter (columns, rows) calls
    (rain.drops.length = grid.1 ∧ rain.rows = grid.2 ∧ ∀ drop ∈ rain.drops, 1 ≤ drop) ∧
      (rain.enabled = true →
        rain.tick.1.map (·.column) = List.range grid.1 ∧ rain.tick.1.map (·.row) = rain.drops ∧
        ∀ cell ∈ rain.tick.1, cell.glyph ∈ rainGlyphs) ∧
      (∀ g : Generator, (g.below rainGlyphs.length).1 < rainGlyphs.length) ∧
      (rain.enabled = false → rain.tick = ([], rain)) ∧
      rain.enabled = enabledAfter true calls ∧
      (grid.2 < 65535 → ∀ stretch, (∀ c ∈ stretch, c.grid? = none) →
        ∀ column drop, rain.drops[column]? = some drop →
          (∃ restarts, (rain.frames stretch).map (rowsIn column) =
            (descent grid.2 drop restarts).map ([·])) ∧
          ∀ restarts, RowByRow grid.2 (descent grid.2 drop restarts)) := by
  intro rain grid
  have hfits : Fits grid rain := fits_run columns rows seed calls
  refine ⟨⟨hfits.columns_eq, hfits.rows_eq, hfits.one_le⟩, fun hon => ?_, ?_, tick_of_disabled,
    enabled_run columns rows seed calls,
    fun hrows stretch hstretch column drop hdrop => ⟨?_, ?_⟩⟩
  · have hfalls := falls_tick hon
    refine ⟨?_, hfalls.rows_eq, hfalls.glyph_mem⟩
    rw [hfalls.columns_eq, hfits.columns_eq, List.range_eq_range']
  · exact fun g => Generator.fst_below_lt length_rainGlyphs_pos g
  · rw [← hfits.rows_eq]
    exact frames_eq_descent hstretch hdrop
  · exact rowByRow_descent hrows (hfits.one_le drop (List.mem_of_getElem? hdrop))

end Rain

end PageShell
