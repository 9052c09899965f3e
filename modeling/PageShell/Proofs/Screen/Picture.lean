import PageShell.Proofs.Screen.Terminal

/-!
# The picture of the shell

What the shell prints when it is drawn, part by part, with the place and the
colour of every text. The picture does not depend on what the terminal showed
before, nor on where its pen was.

* `Host.statusStrokes`, `Host.rainStrokes`, `Host.outputStrokes`,
  `Host.promptStrokes`, `Host.helperStrokes` — the parts;
* `Host.strokes_draw` — **drawing prints the parts**, and nothing else;
* `Host.pen_draw` — where the caret comes to rest.
-/

namespace PageShell

/-- The colour of output in a style. -/
def LineStyle.color (foreground : Color) : LineStyle → Color
  | normal => foreground
  | error => .red

/-- The lines that a block is shown as, with their styles: a submitted line stands after the
prompt. -/
def Block.styledLines (prompt : Text) : Block → List (Text × LineStyle)
  | echo line => [(prompt ++ line, .normal)]
  | output style lines => lines.map (·, style)

theorem Block.shown_eq (prompt : Text) (foreground : Color) (b : Block) :
    b.shown prompt foreground =
      (b.styledLines prompt).map fun (line, style) => (line, style.color foreground) := by
  cases b with
  | echo line => rfl
  | output style lines =>
    rw [styledLines, List.map_map]
    cases style <;> rfl

namespace Host

open Terminal (Draws)

variable (width promptRow : Nat) (h : Host)

/-! ## The status line -/

/-- The status line, in the first row: clock and page, the button, and the hint. -/
def statusStrokes : List Stroke :=
  let status := h.statusText.take width
  let statusLength := h.statusText.length % 65536
  let button := '[' :: h.theme.buttonLabel ++ [']']
  let label := button.take (width - statusLength)
  let hint := ("  F2: ".toList ++ h.theme.buttonHint).take (width - (statusLength + button.length))
  [ ⟨.plainAt 0 0 h.theme.palette.2, status⟩,
    ⟨⟨status.length, 0, h.theme.palette.1, h.theme.isPressed, false⟩, label⟩,
    ⟨.plainAt (status.length + label.length) 0 h.theme.palette.2, hint⟩ ]

theorem draws_status : Draws (h.drawStatus width) (h.statusStrokes width) := by
  refine .of_plainAt fun column row color before => ⟨?_, rfl, rfl⟩
  cases hpressed : h.theme.isPressed <;>
    simp [drawStatus, statusStrokes, Terminal.follow, Pen.reset, Pen.plainAt, hpressed]

/-! ## The rain -/

/-- The glyph at a place of the rain, if one is painted there. -/
def markStrokes (canvas : Canvas) (row column : Nat) : List Stroke :=
  match canvas.at? column row with
  | none => []
  | some mark => [⟨.plainAt column (row + 1) (rainColor mark.age), [mark.glyph]⟩]

/-- The rain, below the status line. -/
def rainStrokes : List Stroke :=
  match h.theme with
  | .professional => []
  | .hacker =>
    (List.range rainRows).flatMap fun row =>
      (List.range width).flatMap fun column => markStrokes h.canvas row column

theorem draws_mark (canvas : Canvas) (row column : Nat) :
    Draws (drawMark canvas row column) (markStrokes canvas row column) := by
  rw [drawMark, markStrokes]
  cases canvas.at? column row with
  | none => exact .nil
  | some mark => exact .line column (row + 1) (rainColor mark.age) [mark.glyph]

theorem draws_rain : Draws (h.drawRain width) (h.rainStrokes width) := by
  rw [drawRain, rainStrokes]
  cases h.theme with
  | professional => exact .nil
  | hacker =>
    refine .flatMap (fun row => ?_) (List.range rainRows)
    exact .flatMap (fun column => draws_mark h.canvas row column) (List.range width)

/-! ## The output -/

/-- **The lines of output**, oldest first, with their styles. -/
def output : List (Text × LineStyle) :=
  h.scrollback.blocks.flatMap (·.styledLines h.settings.prompt)

/-- The colour of output. While the page fades all of it stands aside. -/
def outputColor (style : LineStyle) : Color :=
  if h.timer.fading then h.theme.palette.2 else style.color h.theme.palette.1

theorem outputLines_eq :
    h.outputLines = h.output.map fun (line, style) => (line, h.outputColor style) := by
  have hlines : h.scrollback.blocks.flatMap (·.shown h.settings.prompt h.theme.palette.1) =
      h.output.map fun (line, style) => (line, style.color h.theme.palette.1) := by
    rw [output, List.map_flatMap]
    exact congrArg (List.flatMap · _) (funext (Block.shown_eq _ _))
  rw [outputLines]
  dsimp only
  rw [hlines]
  unfold outputColor
  split
  · rw [List.map_map]
    rfl
  · rfl

/-- The newest lines of output, as many as there are rows for, each in its row and cut to the
width. -/
def outputStrokes : List Stroke :=
  ((h.output.drop (h.output.length - (promptRow - bandTop))).zipIdx bandTop).map
    fun ((line, style), row) => ⟨.plainAt 0 row (h.outputColor style), line.take width⟩

theorem draws_lines (row : Nat) (lines : List (Text × LineStyle)) :
    Draws (drawLines width row (lines.map fun (line, style) => (line, h.outputColor style)))
      ((lines.zipIdx row).map fun ((line, style), row) =>
        ⟨.plainAt 0 row (h.outputColor style), line.take width⟩) := by
  induction lines generalizing row with
  | nil => exact .nil
  | cons line rest ih => exact (Draws.line 0 row _ _).append (ih (row + 1))

theorem draws_output : Draws (h.drawOutput width promptRow) (h.outputStrokes width promptRow) := by
  rw [drawOutput, outputLines_eq]
  dsimp only
  rw [List.length_map, ← List.map_drop]
  exact draws_lines width h bandTop _

/-! ## The prompt and the hint under it -/

/-- The prompt leaves what is left of the width. -/
theorem inputRoom_eq : h.inputRoom width = width - h.settings.prompt.length := by
  rw [inputRoom, List.length_take]
  omega

/-- The text after the prompt: the part of the input in sight, or of the placeholder. -/
def entry : Text :=
  if h.scrollback.input.isEmpty then (inputWindow h.settings.placeholder 0 (h.inputRoom width)).1
  else (h.visibleInput width).1

/-- The prompt, and the text after it. The placeholder stands aside. -/
def promptStrokes : List Stroke :=
  let prompt := h.settings.prompt.take width
  let pen : Pen :=
    if h.scrollback.input.isEmpty then ⟨prompt.length, promptRow, h.theme.palette.2, false, true⟩
    else .plainAt prompt.length promptRow h.theme.palette.1
  [⟨.plainAt 0 promptRow h.theme.palette.1, prompt⟩, ⟨pen, h.entry width⟩]

theorem exists_promptStrokes_eq :
    ∃ pen : Pen, pen.row = promptRow ∧ pen.column = (h.settings.prompt.take width).length ∧
      h.promptStrokes width promptRow =
        [⟨.plainAt 0 promptRow h.theme.palette.1, h.settings.prompt.take width⟩,
          ⟨pen, h.entry width⟩] := by
  rw [promptStrokes]
  split
  · exact ⟨_, rfl, rfl, rfl⟩
  · exact ⟨_, rfl, rfl, rfl⟩

theorem draws_prompt : Draws (h.drawPrompt width promptRow) (h.promptStrokes width promptRow) := by
  refine .of_plainAt fun column row color before => ?_
  cases hempty : h.scrollback.input.isEmpty <;>
    simp [drawPrompt, promptStrokes, entry, Terminal.follow, Pen.plainAt, Pen.reset, Pen.IsPlain,
      hempty]

/-- The hint under the prompt. -/
def helperStrokes : List Stroke :=
  [⟨.plainAt 0 (promptRow + 1) h.theme.palette.2, h.settings.helper.take width⟩]

theorem draws_helper : Draws (h.drawHelper width promptRow) (h.helperStrokes width promptRow) :=
  .of_plainAt fun _ _ _ _ => ⟨rfl, rfl, rfl⟩

/-! ## The whole picture -/

/-- The parts above the output. -/
def aboveStrokes : List Stroke :=
  h.statusStrokes width ++ h.rainStrokes width

/-- The parts below the output. -/
def belowStrokes : List Stroke :=
  h.promptStrokes width promptRow ++ h.helperStrokes width promptRow

/-- **The picture of the shell** on a screen of some size. -/
def picture (width height : Nat) : List Stroke :=
  h.aboveStrokes width ++ h.outputStrokes width (height - 2) ++ h.belowStrokes width (height - 2)

/-- **Drawing prints the picture**, and wipes what was there before. -/
theorem strokes_draw (t : Terminal) (width height : UInt16) :
    (t.followAll (h.draw width height)).strokes = h.picture width.toNat height.toNat := by
  have hparts := (h.draws_status width.toNat).append <| (h.draws_rain width.toNat).append <|
    (h.draws_output width.toNat (height.toNat - 2)).append <|
    (h.draws_prompt width.toNat (height.toNat - 2)).append <|
    (h.draws_helper width.toNat (height.toNat - 2)).append <|
    .moveTo (h.caretColumn width.toNat) (height.toNat - 2)
  have hwiped : (t.followAll [.clear, .resetColor]).strokes = [] := rfl
  have hplain : (t.followAll [.clear, .resetColor]).pen.IsPlain := t.pen.isPlain_reset
  have hdrawn := hparts.strokes_eq hplain
  rw [← Terminal.followAll_append, hwiped, List.nil_append, List.append_nil] at hdrawn
  simpa only [draw, picture, aboveStrokes, belowStrokes, List.append_assoc] using hdrawn

section Rows

variable {width promptRow : Nat} {h : Host} {s : Stroke}

theorem row_of_mem_status (hs : s ∈ h.statusStrokes width) : s.pen.row = 0 := by
  simp only [statusStrokes, List.mem_cons, List.not_mem_nil, or_false] at hs
  obtain rfl | rfl | rfl := hs <;> rfl

/-- A glyph of the rain stands in a column of the screen, below the status line and above the
output. -/
theorem exists_of_mem_rain (hs : s ∈ h.rainStrokes width) :
    ∃ column row glyph color, column < width ∧ row + 1 < bandTop ∧
      s = ⟨.plainAt column (row + 1) color, [glyph]⟩ := by
  rw [rainStrokes] at hs
  cases htheme : h.theme with
  | professional => simp [htheme] at hs
  | hacker =>
    simp only [htheme, List.mem_flatMap, List.mem_range] at hs
    obtain ⟨row, hrow, column, hcolumn, hmark⟩ := hs
    rw [markStrokes] at hmark
    split at hmark
    · cases hmark
    · next mark _ =>
      obtain rfl := List.mem_singleton.1 hmark
      exact ⟨column, row, mark.glyph, rainColor mark.age, hcolumn, Nat.add_lt_add_right hrow 1, rfl⟩

/-- The parts above the output keep to their rows. -/
theorem row_of_mem_above (hs : s ∈ h.aboveStrokes width) : s.pen.row < bandTop := by
  rcases List.mem_append.1 hs with hs | hs
  · rw [row_of_mem_status hs]
    exact Nat.succ_pos _
  · obtain ⟨column, row, glyph, color, -, hrow, rfl⟩ := exists_of_mem_rain hs
    exact hrow

/-- A line of output stands below the rain and above the prompt. -/
theorem row_of_mem_output (hs : s ∈ h.outputStrokes width promptRow) :
    bandTop ≤ s.pen.row ∧ s.pen.row < promptRow := by
  obtain ⟨⟨⟨line, style⟩, row⟩, hmem, rfl⟩ := List.mem_map.1 hs
  have hle := List.le_snd_of_mem_zipIdx hmem
  have hlt := List.snd_lt_of_mem_zipIdx hmem
  rw [List.length_drop] at hlt
  simp only [Pen.plainAt] at hle hlt ⊢
  omega

theorem row_of_mem_prompt (hs : s ∈ h.promptStrokes width promptRow) : s.pen.row = promptRow := by
  obtain ⟨pen, hrow, -, heq⟩ := h.exists_promptStrokes_eq width promptRow
  simp only [heq, List.mem_cons, List.not_mem_nil, or_false] at hs
  obtain rfl | rfl := hs
  · rfl
  · exact hrow

theorem row_of_mem_helper (hs : s ∈ h.helperStrokes width promptRow) :
    s.pen.row = promptRow + 1 := by
  obtain rfl := List.mem_singleton.1 hs
  rfl

/-- The parts below the output keep to their rows. -/
theorem row_of_mem_below (hs : s ∈ h.belowStrokes width promptRow) :
    s.pen.row = promptRow ∨ s.pen.row = promptRow + 1 :=
  (List.mem_append.1 hs).imp row_of_mem_prompt row_of_mem_helper

end Rows

/-- The caret comes to rest in the row of the prompt. -/
theorem pen_draw (t : Terminal) (width height : UInt16) :
    (t.followAll (h.draw width height)).pen.column = h.caretColumn width.toNat ∧
      (t.followAll (h.draw width height)).pen.row = height.toNat - 2 := by
  rw [draw, Terminal.followAll_append]
  exact ⟨rfl, rfl⟩

end Host

end PageShell
