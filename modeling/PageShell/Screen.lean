import PageShell.Host

/-!
# The screen

The shell is drawn on a grid of characters. From top to bottom there are the
status line, the band of rain, the newest output, the prompt and a hint.

* `Instruction`, `Instruction.render` — what a screen can do, and the control
  sequence for it;
* `inputWindow` — the part of a line that is visible around the caret;
* `Host.draw` — the instructions that draw the shell;
* `Host.screen` — the text of these instructions.
-/

namespace PageShell

/-! ### Instructions -/

/-- A colour of the foreground. -/
inductive Color where
  | green
  | darkGreen
  | white
  | darkGrey
  | red
  /-- the screen's own colour -/
  | standard
  deriving DecidableEq, Repr

/-- The parameters of the control sequence that selects a colour. -/
def Color.code : Color → Text
  | green => "38;5;10".toList
  | darkGreen => "38;5;2".toList
  | white => "38;5;15".toList
  | darkGrey => "38;5;8".toList
  | red => "38;5;9".toList
  | standard => "39".toList

/-- An attribute of what is printed. -/
inductive Attribute where
  | reverse
  | noReverse
  | italic
  | plain
  deriving DecidableEq, Repr

/-- The parameter of the control sequence that sets an attribute. -/
def Attribute.code : Attribute → Text
  | reverse => "7".toList
  | noReverse => "27".toList
  | italic => "3".toList
  | plain => "0".toList

/-- **An instruction to the screen.** Columns and rows count from 0. -/
inductive Instruction where
  /-- clear the screen -/
  | clear
  /-- go back to the screen's own colours -/
  | resetColor
  /-- go to a place -/
  | moveTo (column row : Nat)
  /-- print in a colour from now on -/
  | foreground (color : Color)
  /-- print with an attribute from now on -/
  | mode (a : Attribute)
  /-- print a text -/
  | print (text : Text)
  deriving DecidableEq, Repr

namespace Instruction

/-- A control sequence with its parameters and its final letter. -/
def control (parameters : Text) (final : Char) : Text :=
  '\x1b' :: '[' :: parameters ++ [final]

/-- The characters that give an instruction to a terminal. -/
def render : Instruction → Text
  | clear => control ['2'] 'J'
  | resetColor => control ['0'] 'm'
  | moveTo column row => control (Text.ofNat (row + 1) ++ ';' :: Text.ofNat (column + 1)) 'H'
  | foreground color => control color.code 'm'
  | mode a => control a.code 'm'
  | print text => text

end Instruction

/-! ### Parts of the picture -/

/-- The number of rows above the scrollback: the status line and the rain. -/
def bandTop : Nat := rainRows + 1

/-- The colours of a theme: for what is said, and for what stands aside. -/
def Theme.palette : Theme → Color × Color
  | .hacker => (.green, .darkGreen)
  | .professional => (.standard, .darkGrey)

/-- The colour of a glyph of the rain at an age. -/
def rainColor (age : Nat) : Color :=
  if age = 0 then .white else if age ≤ 3 then .green else .darkGreen

/-- **The part of a line that fits into `room` columns** with the caret in sight, and the caret's
column in it. The line is scrolled no further than the caret needs. There is always room for one
character. -/
def inputWindow (line : Text) (caret room : Nat) : Text × Nat :=
  let room := max room 1
  let caret := min caret line.length
  let start := caret + 1 - room
  ((line.drop start).take room, caret - start)

/-- The lines of a block, with the colour of each. -/
def Block.shown (prompt : Text) (foreground : Color) : Block → List (Text × Color)
  | .echo line => [(prompt ++ line, foreground)]
  | .output style lines =>
    let color := match style with
      | .normal => foreground
      | .error => .red
    lines.map (·, color)

namespace Host

/-- The text of the status line before the button. -/
def statusText (h : Host) : Text :=
  h.clockText ++ "  /".toList ++ h.page.name ++ "  ".toList

/-- The status line: clock and page, the button for the theme, and a hint. The width of its first
part is counted in 16 bits. -/
def drawStatus (width : Nat) (h : Host) : List Instruction :=
  let (foreground, dim) := h.theme.palette
  let button := '[' :: h.theme.buttonLabel ++ [']']
  let hint := "  F2: ".toList ++ h.theme.buttonHint
  let statusLength := h.statusText.length % 65536
  [ .moveTo 0 0,
    .foreground dim,
    .print (h.statusText.take width),
    .foreground foreground,
    .mode (if h.theme.isPressed then .reverse else .noReverse),
    .print (button.take (width - statusLength)),
    .mode .plain,
    .foreground dim,
    .print (hint.take (width - (statusLength + button.length))) ]

/-- The glyph at a place of the rain, if one is painted there. -/
def drawMark (canvas : Canvas) (row column : Nat) : List Instruction :=
  match canvas.at? column row with
  | none => []
  | some mark =>
    [.moveTo column (row + 1), .foreground (rainColor mark.age), .print [mark.glyph]]

/-- The rain, row by row; the light theme has none. -/
def drawRain (width : Nat) (h : Host) : List Instruction :=
  match h.theme with
  | .professional => []
  | .hacker =>
    (List.range rainRows).flatMap fun row =>
      (List.range width).flatMap fun column => drawMark h.canvas row column

/-- The lines of output with their colours; while the page fades they all stand aside. -/
def outputLines (h : Host) : List (Text × Color) :=
  let (foreground, dim) := h.theme.palette
  let lines := h.scrollback.blocks.flatMap (·.shown h.settings.prompt foreground)
  if h.timer.fading then lines.map fun (line, _) => (line, dim) else lines

/-- One line of output in its row. -/
def drawLine (width row : Nat) (line : Text × Color) : List Instruction :=
  [.moveTo 0 row, .foreground line.2, .print (line.1.take width)]

/-- Lines of output from a row on, one in each row. -/
def drawLines (width : Nat) : Nat → List (Text × Color) → List Instruction
  | _, [] => []
  | row, line :: rest => drawLine width row line ++ drawLines width (row + 1) rest

/-- The newest output, as much of it as fits between the rain and the prompt. -/
def drawOutput (width promptRow : Nat) (h : Host) : List Instruction :=
  let lines := h.outputLines
  drawLines width bandTop (lines.drop (lines.length - (promptRow - bandTop)))

/-- The columns that the prompt leaves for the input. -/
def inputRoom (width : Nat) (h : Host) : Nat :=
  width - (h.settings.prompt.take width).length

/-- The part of the input in sight, and the column of the caret in it. -/
def visibleInput (width : Nat) (h : Host) : Text × Nat :=
  inputWindow h.scrollback.input h.scrollback.caret (h.inputRoom width)

/-- The prompt and the input after it, or the placeholder where there is no input. -/
def drawPrompt (width promptRow : Nat) (h : Host) : List Instruction :=
  let (foreground, dim) := h.theme.palette
  [ .moveTo 0 promptRow, .foreground foreground, .print (h.settings.prompt.take width) ] ++
  if h.scrollback.input.isEmpty then
    [ .foreground dim,
      .mode .italic,
      .print (inputWindow h.settings.placeholder 0 (h.inputRoom width)).1,
      .mode .plain ]
  else [ .foreground foreground, .print (h.visibleInput width).1 ]

/-- The column of the caret on the screen, which is never past the right edge. -/
def caretColumn (width : Nat) (h : Host) : Nat :=
  let inInput := if h.scrollback.input.isEmpty then 0 else (h.visibleInput width).2
  min ((h.settings.prompt.take width).length + inInput) (width - 1)

/-- The hint under the prompt. -/
def drawHelper (width promptRow : Nat) (h : Host) : List Instruction :=
  [ .moveTo 0 (promptRow + 1),
    .foreground h.theme.palette.2,
    .print (h.settings.helper.take width),
    .resetColor ]

/-- **The instructions that draw the shell** on a screen of some size, down to the place where the
caret comes to rest. The prompt stands in the second-last row. -/
def draw (width height : UInt16) (h : Host) : List Instruction :=
  let promptRow := height.toNat - 2
  [.clear, .resetColor] ++ h.drawStatus width.toNat ++ h.drawRain width.toNat ++
  h.drawOutput width.toNat promptRow ++ h.drawPrompt width.toNat promptRow ++
  h.drawHelper width.toNat promptRow ++ [.moveTo (h.caretColumn width.toNat) promptRow]

/-- The text that draws the shell on a terminal. -/
def screen (width height : UInt16) (h : Host) : Text :=
  (h.draw width height).flatMap Instruction.render

end Host

end PageShell
