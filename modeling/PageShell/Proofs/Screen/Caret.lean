import Mathlib.Order.Bounds.Defs
import PageShell.Proofs.Screen.Picture

/-!
# The caret on the screen

A line that is too long is scrolled, no further than the caret needs. So the
caret stands on the character before which it is, and on a screen that is wider
than the prompt it stands in the cell of this character.

* `InSight` — a part of a text with the caret in it;
* `inSight_inputWindow` — what is shown of the input is such a part;
* `Host.shown?_prompt` — what the row of the prompt shows;
* `Host.caret_on_character` — **where the caret comes to rest**.
-/

namespace PageShell

/-! ## A line that is too long -/

/-- **A part of a text with the caret in it**: `visible` are the characters that are in sight in
`room` columns, and the caret stands in a column of them. -/
structure InSight (text : Text) (caret room : Nat) (visible : Text) (column : Nat) : Prop where
  /-- the text is scrolled by the difference of the two -/
  column_le : column ≤ caret
  /-- the characters in sight follow each other in the text -/
  visible_eq : visible = (text.drop (caret - column)).take room
  /-- the caret has room -/
  column_lt : column < room
  /-- the caret stands on a character in sight, or right behind the last one -/
  column_le_length : column ≤ visible.length
  /-- the caret stands on the character before which it is -/
  getElem?_column : caret < text.length → visible[column]? = text[caret]?
  /-- the text is scrolled no further than the caret needs -/
  isLeast : IsLeast {offset | offset ≤ caret ∧ caret - offset < room} (caret - column)
  /-- the text is not scrolled at all if the caret has room without -/
  not_scrolled : caret + 1 ≤ room → caret - column = 0

/-- **What is shown of the input** is such a part, whatever the caret and the room. -/
theorem inSight_inputWindow (text : Text) (caret room : Nat) :
    InSight text (min caret text.length) (max room 1) (inputWindow text caret room).1
      (inputWindow text caret room).2 := by
  rw [inputWindow]
  dsimp only
  have hroom : 1 ≤ max room 1 := Nat.le_max_right room 1
  have hcaret : min caret text.length ≤ text.length := Nat.min_le_right caret text.length
  generalize max room 1 = room at hroom
  generalize min caret text.length = caret at hcaret
  -- the text is scrolled by this many characters
  have hscrolled : caret - (caret - (caret + 1 - room)) = caret + 1 - room := by omega
  constructor
  case column_le => exact Nat.sub_le _ _
  case visible_eq => rw [hscrolled]
  case column_lt => omega
  case column_le_length =>
    rw [List.length_take, List.length_drop]
    omega
  case getElem?_column =>
    intro hlt
    rw [List.getElem?_take_of_lt (by omega), List.getElem?_drop]
    congr 1
    omega
  case isLeast =>
    rw [hscrolled]
    refine ⟨⟨by omega, by omega⟩, ?_⟩
    rintro offset ⟨hle, hlt⟩
    omega
  case not_scrolled => omega

/-- With the caret behind the last character, the part ends before the caret. -/
theorem InSight.length_eq {text visible : Text} {caret room column : Nat}
    (h : InSight text caret room visible column) (hend : caret = text.length) :
    visible.length = column := by
  have hcolumn := h.column_le
  have hroom := h.column_lt
  rw [h.visible_eq, List.length_take, List.length_drop]
  omega

/-! ## The row of the prompt -/

namespace Host

open Stroke (shown? isSome_shown?_iff)

variable {width height promptRow : Nat} {h : Host}

/-- The row of the prompt shows what is printed there last; in a low screen something else may stand
behind it. -/
theorem shown?_promptRow (column : Nat) :
    shown? (h.picture width height) column (height - 2) =
      (shown? (h.promptStrokes width (height - 2)) column (height - 2)).or
        (shown? (h.aboveStrokes width) column (height - 2)) := by
  have hhelper : shown? (h.helperStrokes width (height - 2)) column (height - 2) = none := by
    refine Stroke.shown?_of_row_ne fun s hs => ?_
    rw [row_of_mem_helper hs]
    exact Nat.succ_ne_self _
  have houtput : shown? (h.outputStrokes width (height - 2)) column (height - 2) = none :=
    Stroke.shown?_of_row_ne fun s hs => Nat.ne_of_lt (row_of_mem_output hs).2
  rw [picture, Stroke.shown?_append, belowStrokes, Stroke.shown?_append, hhelper, Option.none_or,
    Stroke.shown?_append, houtput, Option.none_or]

/-- The row of the prompt is its own, if the screen is high enough for all the parts. -/
theorem shown?_promptRow_of_le (hrow : bandTop ≤ height - 2) (column : Nat) :
    shown? (h.picture width height) column (height - 2) =
      shown? (h.promptStrokes width (height - 2)) column (height - 2) := by
  have habove : shown? (h.aboveStrokes width) column (height - 2) = none :=
    Stroke.shown?_of_row_ne fun s hs => Nat.ne_of_lt (Nat.lt_of_lt_of_le (row_of_mem_above hs) hrow)
  rw [shown?_promptRow, habove, Option.or_none]

section Input

variable (hinput : h.scrollback.input ≠ []) (hwidth : h.settings.prompt.length < width)

include hinput hwidth

/-- On a screen that is wider than the prompt all of it is printed, and then the part of the input
in sight. -/
theorem promptStrokes_of_lt :
    h.promptStrokes width promptRow =
      [⟨.plainAt 0 promptRow h.theme.palette.1, h.settings.prompt⟩,
        ⟨.plainAt h.settings.prompt.length promptRow h.theme.palette.1,
          (h.visibleInput width).1⟩] := by
  have hprompt : h.settings.prompt.take width = h.settings.prompt :=
    List.take_of_length_le (Nat.le_of_lt hwidth)
  have hempty : h.scrollback.input.isEmpty = false := by simpa using hinput
  simp only [promptStrokes, entry, hprompt, hempty]
  rfl

/-- The row of the prompt is filled up to the end of what is in sight. -/
theorem isSome_shown?_prompt (promptRow column : Nat) :
    (shown? (h.promptStrokes width promptRow) column promptRow).isSome ↔
      column < h.settings.prompt.length + (h.visibleInput width).1.length := by
  rw [promptStrokes_of_lt hinput hwidth, isSome_shown?_iff]
  simp only [List.mem_cons, List.not_mem_nil, or_false, exists_eq_or_imp, exists_eq_left,
    Stroke.edge, Pen.plainAt, true_and]
  omega

/-- The columns of what is in sight show its characters. -/
theorem shown?_prompt (promptRow : Nat) {i : Nat} (hi : i < (h.visibleInput width).1.length) :
    shown? (h.promptStrokes width promptRow) (h.settings.prompt.length + i) promptRow =
      some (h.visibleInput width).1[i] := by
  have hglyph : Stroke.glyph?
      ⟨.plainAt h.settings.prompt.length promptRow h.theme.palette.1, (h.visibleInput width).1⟩
      (h.settings.prompt.length + i) promptRow = some (h.visibleInput width).1[i] := by
    rw [Stroke.glyph?, if_pos ⟨rfl, Nat.le_add_right _ _⟩, ← List.getElem?_eq_getElem hi]
    exact congrArg ((h.visibleInput width).1[·]?) (Nat.add_sub_cancel_left _ i)
  rw [promptStrokes_of_lt hinput hwidth, ← List.singleton_append, Stroke.shown?_concat, hglyph,
    Option.some_or]

/-- The caret comes to rest behind the prompt, in the column that it has in what is in sight. -/
theorem caretColumn_of_lt :
    h.caretColumn width = h.settings.prompt.length + (h.visibleInput width).2 ∧
      h.caretColumn width < width := by
  have hempty : h.scrollback.input.isEmpty = false := by simpa using hinput
  have hprompt : h.settings.prompt.take width = h.settings.prompt :=
    List.take_of_length_le (Nat.le_of_lt hwidth)
  have hroom : (h.visibleInput width).2 < max (h.inputRoom width) 1 :=
    (inSight_inputWindow _ _ _).column_lt
  rw [inputRoom_eq] at hroom
  rw [caretColumn, hempty, hprompt, if_neg Bool.false_ne_true]
  omega

end Input

/-- **Where the caret comes to rest.** A part of the input is shown that follows it character by
character, is no longer than there is room, and has the caret in it, with the least scrolling. If
there is input, and the screen is wider than the prompt, the caret is left in the row of the prompt,
in the column that it has in this part, counted from the end of the prompt, which is on the screen.
This is the cell that shows the character before which the caret is. Where there is no such
character it is the first cell behind what the line of the prompt prints, and the first one in its
row that shows nothing at all, if this row belongs to the prompt alone. -/
theorem caret_on_character :
    (∀ (text : Text) (caret room : Nat),
      InSight text (min caret text.length) (max room 1) (inputWindow text caret room).1
        (inputWindow text caret room).2) ∧
      ∀ (width height : UInt16) (h : Host) (t : Terminal),
        let input := h.scrollback.input
        let caret := min h.scrollback.caret input.length
        let prompt := h.settings.prompt
        let promptRow := height.toNat - 2
        let window := inputWindow input h.scrollback.caret (width.toNat - prompt.length)
        let drawn := t.followAll (h.draw width height)
        let promptLine := Terminal.blank.followAll (h.drawPrompt width.toNat promptRow)
        input ≠ [] → prompt.length < width.toNat →
        drawn.pen.row = promptRow ∧ drawn.pen.column = prompt.length + window.2 ∧
          drawn.pen.column < width.toNat ∧
          (∀ hlt : caret < input.length,
            shown? drawn.strokes drawn.pen.column promptRow = some input[caret]) ∧
          (caret = input.length →
            (∀ column, (shown? promptLine.strokes column promptRow).isSome ↔
              column < drawn.pen.column) ∧
            (bandTop ≤ promptRow → ∀ column, (shown? drawn.strokes column promptRow).isSome ↔
              column < drawn.pen.column)) := by
  refine ⟨inSight_inputWindow, ?_⟩
  intro width height h t input caret prompt promptRow window drawn promptLine hinput hwidth
  have hwindow : h.visibleInput width.toNat = window := by rw [visibleInput, inputRoom_eq]
  have hin : InSight input caret (max (width.toNat - prompt.length) 1) window.1 window.2 :=
    inSight_inputWindow _ _ _
  obtain ⟨hcolumn, hrow⟩ := h.pen_draw t width height
  obtain ⟨hcaret, hedge⟩ := caretColumn_of_lt hinput hwidth
  rw [hwindow] at hcaret
  refine ⟨hrow, hcolumn.trans hcaret, hcolumn ▸ hedge, fun hlt => ?_, fun hend => ?_⟩
  · -- the caret stands in a column of what is in sight
    have hchar := hin.getElem?_column hlt
    rw [List.getElem?_eq_getElem hlt] at hchar
    obtain ⟨hsight, hchar⟩ := List.getElem?_eq_some_iff.1 hchar
    have hprompt := shown?_prompt hinput hwidth promptRow (hwindow ▸ hsight)
    simp only [hwindow] at hprompt
    rw [strokes_draw, shown?_promptRow, hcolumn, hcaret, hprompt, Option.some_or, hchar]
  · -- the caret stands right behind what is in sight
    have hlength : prompt.length + (h.visibleInput width.toNat).1.length = drawn.pen.column := by
      rw [hwindow, hin.length_eq hend, ← hcaret, hcolumn]
    have hfilled := isSome_shown?_prompt hinput hwidth promptRow
    refine ⟨fun column => ?_, fun hown column => ?_⟩
    · have hline : promptLine.strokes = h.promptStrokes width.toNat promptRow :=
        (h.draws_prompt width.toNat promptRow).strokes_eq ⟨rfl, rfl⟩
      rw [hline, hfilled, hlength]
    · rw [strokes_draw, shown?_promptRow_of_le hown, hfilled, hlength]

/-- In three columns the input is scrolled until the caret is in the last one of them. -/
theorem caret_on_character_of_cd :
    let h := { start .default .home 16 (.file .absent) 0 with
      scrollback := ⟨[], 0, 500, "cd certs".toList, 4⟩ }
    h.scrollback.input ≠ [] ∧ h.settings.prompt.length < 16 ∧
      (Terminal.blank.followAll (h.draw 16 24)).pen.row = 22 ∧
      (Terminal.blank.followAll (h.draw 16 24)).pen.column = 15 ∧
      shown? (Terminal.blank.followAll (h.draw 16 24)).strokes 15 22 = some 'e' := by
  intro h
  have hinput : h.scrollback.input ≠ [] := by decide +kernel
  have hwidth : h.settings.prompt.length < 16 := by decide +kernel
  obtain ⟨hrow, hcolumn, -, hcell, -⟩ := caret_on_character.2 16 24 h .blank hinput hwidth
  replace hcell := hcell (by decide +kernel)
  have hheight : (24 : UInt16).toNat - 2 = 22 := by decide
  have hwindow : h.settings.prompt.length + (inputWindow h.scrollback.input h.scrollback.caret
      ((16 : UInt16).toNat - h.settings.prompt.length)).2 = 15 := by decide +kernel
  have hchar : h.scrollback.input[min h.scrollback.caret h.scrollback.input.length]? =
      some 'e' := by decide +kernel
  rw [hheight] at hrow hcell
  rw [hwindow] at hcolumn
  rw [hcolumn, ← List.getElem?_eq_getElem, hchar] at hcell
  exact ⟨hinput, hwidth, hrow, hcolumn, hcell⟩

end Host

end PageShell
