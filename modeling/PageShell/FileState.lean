import PageShell.Fault

/-!
# Files, as far as their content matters

A path holds nothing, a text, bytes that are no text, or a directory.

* `FileState.read` — the text of a file, where there is a file;
* `FileState.write` — the state after writing a text.
-/

namespace PageShell

/-- What stands at a path. -/
inductive FileState where
  /-- nothing -/
  | absent
  /-- a file that holds a text in UTF-8 -/
  | text (content : Text)
  /-- a file with other bytes -/
  | bytes (content : List UInt8)
  /-- a directory -/
  | directory
  deriving DecidableEq, Repr

namespace FileState

/-- The text of the file, or nothing where no file stands. -/
def read : FileState → Except Fault (Option Text)
  | absent => .ok none
  | text content => .ok (some content)
  | bytes _ => .error .notUtf8
  | directory => .ok none

/-- What stands at the path after a text was written there. -/
def write (content : Text) : FileState → Except Fault FileState
  | directory => .error .isDirectory
  | _ => .ok (.text content)

end FileState

end PageShell
