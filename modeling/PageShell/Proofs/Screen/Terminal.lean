import PageShell.Screen

/-!
# What a terminal shows

A terminal follows its instructions one by one. It has a pen, which prints the
next text and moves on behind it, and it keeps what was printed until it is
cleared.

* `Pen`, `Stroke` — where and how a text is printed;
* `Terminal.follow` — what an instruction does;
* `Terminal.Draws` — **what instructions print**, on any terminal;
* `Stroke.shown?` — the character in a cell.
-/

namespace PageShell

/-! ## Pens and strokes -/

/-- **The pen of a terminal**: where and how the next text is printed. -/
structure Pen where
  column : Nat
  row : Nat
  color : Color
  /-- whether the colours of text and ground are exchanged -/
  reversed : Bool
  italic : Bool
  deriving DecidableEq, Repr

namespace Pen

/-- A pen without attributes. -/
def plainAt (column row : Nat) (color : Color) : Pen :=
  ⟨column, row, color, false, false⟩

/-- The pen has no attributes; its colour does not matter. -/
def IsPlain (p : Pen) : Prop :=
  p.reversed = false ∧ p.italic = false

/-- The pen after all its colours and attributes were reset. -/
def reset (p : Pen) : Pen :=
  plainAt p.column p.row .standard

theorem isPlain_reset (p : Pen) : p.reset.IsPlain :=
  ⟨rfl, rfl⟩

end Pen

/-- **A text that was printed**, and the pen that printed it. -/
structure Stroke where
  pen : Pen
  text : Text
  deriving DecidableEq, Repr

namespace Stroke

/-- The first column behind the text. -/
def edge (s : Stroke) : Nat :=
  s.pen.column + s.text.length

/-- The character that a stroke prints in a cell. -/
def glyph? (s : Stroke) (column row : Nat) : Option Char :=
  if s.pen.row = row ∧ s.pen.column ≤ column then s.text[column - s.pen.column]? else none

/-- **The character in a cell** after several strokes: the last one that was printed there. -/
def shown? (strokes : List Stroke) (column row : Nat) : Option Char :=
  strokes.reverse.findSome? (·.glyph? column row)

variable {s : Stroke} {before after strokes : List Stroke} {column row : Nat}

theorem glyph?_of_row_ne (h : s.pen.row ≠ row) : s.glyph? column row = none :=
  if_neg fun hrow => h hrow.1

theorem isSome_glyph?_iff :
    (s.glyph? column row).isSome ↔ s.pen.row = row ∧ s.pen.column ≤ column ∧ column < s.edge := by
  rw [glyph?, edge]
  split
  · next h =>
    rw [isSome_getElem?]
    omega
  · next h =>
    simp only [Option.isSome_none, Bool.false_eq_true, false_iff]
    omega

/-- A cell shows a character exactly if some stroke covers it. -/
theorem isSome_shown?_iff :
    (shown? strokes column row).isSome ↔
      ∃ s ∈ strokes, s.pen.row = row ∧ s.pen.column ≤ column ∧ column < s.edge := by
  simp only [shown?, List.findSome?_isSome_iff, List.mem_reverse, isSome_glyph?_iff]

/-- What is printed later is seen first. -/
theorem shown?_append :
    shown? (before ++ after) column row =
      (shown? after column row).or (shown? before column row) := by
  rw [shown?, List.reverse_append, List.findSome?_append]
  rfl

/-- The last stroke is seen first. -/
theorem shown?_concat :
    shown? (before ++ [s]) column row = (s.glyph? column row).or (shown? before column row) := by
  rw [shown?_append, shown?, List.reverse_singleton, List.findSome?_singleton]

/-- Strokes in other rows do not show in a row. -/
theorem shown?_of_row_ne (h : ∀ s ∈ strokes, s.pen.row ≠ row) :
    shown? strokes column row = none := by
  rw [shown?, List.findSome?_eq_none_iff]
  intro s hs
  exact glyph?_of_row_ne (h s (List.mem_reverse.1 hs))

end Stroke

/-! ## Following instructions -/

/-- **A terminal**: its pen, and what was printed since it was cleared, oldest first. -/
structure Terminal where
  pen : Pen
  strokes : List Stroke
  deriving DecidableEq, Repr

namespace Terminal

/-- A terminal that shows nothing. -/
def blank : Terminal :=
  ⟨.plainAt 0 0 .standard, []⟩

/-- **What an instruction does.** A text is printed at the pen, which moves on behind it. The
sequence that resets the colour is the same as the one that resets the attributes: both are
gone. -/
def follow (t : Terminal) : Instruction → Terminal
  | .clear => { t with strokes := [] }
  | .resetColor => { t with pen := t.pen.reset }
  | .moveTo column row => { t with pen := { t.pen with column := column, row := row } }
  | .foreground color => { t with pen := { t.pen with color := color } }
  | .mode .reverse => { t with pen := { t.pen with reversed := true } }
  | .mode .noReverse => { t with pen := { t.pen with reversed := false } }
  | .mode .italic => { t with pen := { t.pen with italic := true } }
  | .mode .plain => { t with pen := t.pen.reset }
  | .print text =>
    ⟨{ t.pen with column := t.pen.column + text.length }, t.strokes ++ [⟨t.pen, text⟩]⟩

/-- The terminal after several instructions. -/
def followAll (t : Terminal) (is : List Instruction) : Terminal :=
  is.foldl follow t

@[simp] theorem followAll_nil (t : Terminal) : t.followAll [] = t := rfl

@[simp] theorem followAll_cons (t : Terminal) (i : Instruction) (is : List Instruction) :
    t.followAll (i :: is) = (t.follow i).followAll is := rfl

theorem followAll_append (t : Terminal) (is js : List Instruction) :
    t.followAll (is ++ js) = (t.followAll is).followAll js :=
  List.foldl_append

/-- **What instructions print**, wherever the pen is at first and whatever its colour. They keep
what was printed before, and they leave no attributes behind. -/
structure Draws (is : List Instruction) (drawn : List Stroke) : Prop where
  /-- the strokes are added to those before -/
  strokes_eq {t : Terminal} : t.pen.IsPlain → (t.followAll is).strokes = t.strokes ++ drawn
  /-- the pen has no attributes then -/
  isPlain {t : Terminal} : t.pen.IsPlain → (t.followAll is).pen.IsPlain

namespace Draws

variable {is js : List Instruction} {drawn more : List Stroke}

/-- It is enough to look at terminals whose pens have no attributes. -/
theorem of_plainAt (h : ∀ column row color before,
    let t := (⟨.plainAt column row color, before⟩ : Terminal).followAll is
    t.strokes = before ++ drawn ∧ t.pen.IsPlain) : Draws is drawn := by
  have hall : ∀ t : Terminal, t.pen.IsPlain →
      (t.followAll is).strokes = t.strokes ++ drawn ∧ (t.followAll is).pen.IsPlain := by
    rintro ⟨⟨column, row, color, _, _⟩, before⟩ ⟨rfl, rfl⟩
    exact h column row color before
  exact ⟨fun hplain => (hall _ hplain).1, fun hplain => (hall _ hplain).2⟩

theorem nil : Draws [] [] :=
  ⟨fun _ => (List.append_nil _).symm, id⟩

theorem append (h : Draws is drawn) (h' : Draws js more) : Draws (is ++ js) (drawn ++ more) where
  strokes_eq hplain := by
    rw [followAll_append, h'.strokes_eq (h.isPlain hplain), h.strokes_eq hplain, List.append_assoc]
  isPlain hplain := by
    rw [followAll_append]
    exact h'.isPlain (h.isPlain hplain)

theorem flatMap {α : Type} {f : α → List Instruction} {g : α → List Stroke}
    (h : ∀ x, Draws (f x) (g x)) (xs : List α) : Draws (xs.flatMap f) (xs.flatMap g) := by
  induction xs with
  | nil => exact nil
  | cons x rest ih => exact (h x).append ih

/-- To go elsewhere prints nothing. -/
theorem moveTo (column row : Nat) : Draws [.moveTo column row] [] :=
  ⟨fun _ => (List.append_nil _).symm, id⟩

/-- A text in a row of its own. -/
theorem line (column row : Nat) (color : Color) (text : Text) :
    Draws [.moveTo column row, .foreground color, .print text]
      [⟨.plainAt column row color, text⟩] :=
  of_plainAt fun _ _ _ _ => ⟨rfl, rfl, rfl⟩

end Draws

end Terminal

end PageShell
