import PageShell.Text.Blank
import PageShell.Text.Lower

/-!
# Command lines

A submitted line is refused, blank, or a command line: a name and arguments.

* `CommandLine.read` — what a line is;
* `Text.words` — the words of a line, split at spaces;
* `Refusal.message` — what the visitor is told of a refused line.
-/

namespace PageShell

/-- The longest line that is accepted, and the longest that can be typed, in characters. -/
def maxCommandLength : Nat := 200

/-- Why a line is refused. -/
inductive Refusal where
  /-- it has too many characters -/
  | tooLong
  /-- it has characters other than printable ASCII -/
  | unprintable
  deriving DecidableEq, Repr

/-- What the visitor is told of a refused line. -/
def Refusal.message : Refusal → Text
  | tooLong => "Input too long. Keep commands below 200 characters.".toList
  | unprintable => "Unsupported control characters detected in input.".toList

/-- Whether a character is printable ASCII, the space included. -/
def isPrintable (c : Char) : Bool :=
  0x20 ≤ c.toNat && c.toNat ≤ 0x7E

/-- The words of a text: its longest stretches without spaces, in order. -/
def Text.words : Text → List Text
  | [] => []
  | [c] => if c = ' ' then [] else [[c]]
  | c :: d :: cs =>
    if c = ' ' then words (d :: cs)
    else if d = ' ' then [c] :: words (d :: cs)
    else (words (d :: cs)).modifyHead (c :: ·)

/-- An accepted line. -/
structure CommandLine where
  /-- the line without the blanks around it -/
  text : Text
  /-- the first word, in small letters -/
  name : Text
  /-- the other words -/
  args : List Text
  deriving DecidableEq, Repr

namespace CommandLine

/-- The first argument; the empty text when there is none. -/
def firstArg (c : CommandLine) : Text :=
  c.args.headD []

/-- The command line of a text that is not refused. -/
def ofText (text : Text) : CommandLine where
  text := text
  name := ((Text.words text).headD []).lowerAscii
  args := (Text.words text).tail

/-- **What a line is**: nothing if it is blank, else refused or a command line. The length is
judged before the characters, and both without the blanks around the line. -/
def read (line : Text) : Except Refusal (Option CommandLine) :=
  let text := line.trim
  if text.isEmpty then .ok none
  else if maxCommandLength < text.length then .error .tooLong
  else if !text.all isPrintable then .error .unprintable
  else .ok (some (ofText text))

end CommandLine

end PageShell
