import PageShell.Text.Basic

/-!
# History

The history keeps the latest submitted lines, newest first, and a cursor that
moves among them while the visitor browses.

* `History.record` — adds a line and stops browsing;
* `History.older`, `History.newer` — move the cursor and recall a line.
-/

namespace PageShell

/-- The number of lines that a history keeps. -/
def maxHistory : Nat := 100

/-- **The history of a session.** -/
structure History where
  /-- the kept lines, newest first -/
  entries : List Text
  /-- the place of the recalled line, while the visitor browses -/
  cursor : Option Nat
  deriving DecidableEq, Repr

namespace History

/-- The history of a new session. -/
def empty : History :=
  ⟨[], none⟩

/-- Adds a line at the front. The oldest line goes when there are too many, and browsing ends. -/
def record (line : Text) (h : History) : History :=
  ⟨(line :: h.entries).take maxHistory, none⟩

/-- The place that a step back leads to: the newest line at first, the oldest at last. -/
def olderPlace (h : History) : Nat :=
  match h.cursor with
  | none => 0
  | some i => min (i + 1) (h.entries.length - 1)

/-- Steps back to an older line. Nothing is recalled from an empty history. -/
def older (h : History) : Option Text × History :=
  if h.entries.isEmpty then (none, h)
  else (h.entries[h.olderPlace]?, { h with cursor := some h.olderPlace })

/-- Steps forth to a newer line. Past the newest one the input is empty and browsing ends. -/
def newer (h : History) : Text × History :=
  match h.cursor with
  | some (i + 1) => (h.entries[i]?.getD [], { h with cursor := some i })
  | _ => ([], { h with cursor := none })

end History

end PageShell
