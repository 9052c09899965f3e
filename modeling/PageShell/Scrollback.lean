import PageShell.Text.Basic

/-!
# The scrollback

The scrollback holds the output of a session in blocks, and the input line
under it. Whole blocks go, oldest first, when there are more lines than
allowed; the newest block always stays.

* `Display` — what a session asks of the place where it is shown;
* `Scrollback.apply` — what becomes of the scrollback then;
* `Scrollback.shed` — which blocks stay.
-/

namespace PageShell

/-- The style of output. -/
inductive LineStyle where
  | normal
  | error
  deriving DecidableEq, Repr

/-- **A request to the display.** -/
inductive Display where
  /-- show a submitted line after the prompt -/
  | echo (line : Text)
  /-- add lines of output -/
  | append (lines : List Text) (style : LineStyle)
  /-- forget all output -/
  | clear
  /-- show this input, with the caret before the character of this number -/
  | input (line : Text) (caret : Nat)
  deriving DecidableEq, Repr

/-- A block of the scrollback. -/
inductive Block where
  /-- a submitted line -/
  | echo (line : Text)
  /-- lines of output -/
  | output (style : LineStyle) (lines : List Text)
  deriving DecidableEq, Repr

/-- The number of lines of a block. -/
def Block.height : Block → Nat
  | echo _ => 1
  | output _ lines => lines.length

/-- **The scrollback** and the input line under it. -/
structure Scrollback where
  /-- the kept blocks, oldest first -/
  blocks : List Block
  /-- the number of lines in the kept blocks -/
  lineCount : Nat
  /-- the number of lines from which on blocks go -/
  limit : Nat
  /-- the input line -/
  input : Text
  /-- the place of the caret in the input line -/
  caret : Nat
  deriving DecidableEq, Repr

namespace Scrollback

/-- The empty scrollback for a number of lines, at least one. -/
def empty (maxLines : Nat) : Scrollback :=
  ⟨[], 0, max maxLines 1, [], 0⟩

/-- Drops blocks from the front until the lines are within the limit or one block is left. The
number of lines is carried along. -/
def shed (limit : Nat) : List Block → Nat → List Block × Nat
  | b :: c :: rest, count =>
    if limit < count then shed limit (c :: rest) (count - b.height) else (b :: c :: rest, count)
  | blocks, count => (blocks, count)

/-- Adds a block at the end and drops what is too much. -/
def push (b : Block) (s : Scrollback) : Scrollback :=
  let (blocks, count) := shed s.limit (s.blocks ++ [b]) (s.lineCount + b.height)
  { s with blocks := blocks, lineCount := count }

/-- The scrollback after a request. -/
def apply (s : Scrollback) : Display → Scrollback
  | .echo line => s.push (.echo line)
  | .append lines style => s.push (.output style lines)
  | .clear => { s with blocks := [], lineCount := 0 }
  | .input line caret => { s with input := line, caret := min caret line.length }

/-- The scrollback after several requests. -/
def applyAll (s : Scrollback) (requests : List Display) : Scrollback :=
  requests.foldl apply s

/-- The last block with output, as its style and its lines. -/
def lastOutput? (s : Scrollback) : Option (LineStyle × List Text) :=
  s.blocks.reverse.findSome? fun
    | .output style lines => some (style, lines)
    | .echo _ => none

end Scrollback

end PageShell
