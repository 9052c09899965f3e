import PageShell.Text.Basic

/-!
# Commands

The shell knows six commands.

* `Builtin.ofName?` — the command of exactly this name;
* `Builtin.helpLines` — what `help` prints.
-/

namespace PageShell

/-- A command of the shell. -/
inductive Builtin where
  | help
  | ls
  | cd
  | whoami
  | date
  | clear
  deriving DecidableEq, Repr

namespace Builtin

/-- Every command, in the order of help and completion. -/
def all : List Builtin :=
  [help, ls, cd, whoami, date, clear]

/-- The name of a command, as typed. -/
def name : Builtin → Text
  | help => "help".toList
  | ls => "ls".toList
  | cd => "cd".toList
  | whoami => "whoami".toList
  | date => "date".toList
  | clear => "clear".toList

/-- How a command is used. -/
def usage : Builtin → Text
  | cd => "cd <dir>".toList
  | b => b.name

/-- What a command does. -/
def summary : Builtin → Text
  | help => "Show command list".toList
  | ls => "List site directories".toList
  | cd => "Navigate to page (home/about/projects/certs/contact)".toList
  | whoami => "Show current user".toList
  | date => "Show local date and time".toList
  | clear => "Clear terminal output".toList

/-- The command of exactly this name. -/
def ofName? (n : Text) : Option Builtin :=
  all.find? (·.name == n)

/-- A name belongs to one command at most, and every command has one. -/
theorem ofName?_eq_some_iff {n : Text} {b : Builtin} : ofName? n = some b ↔ n = b.name := by
  constructor
  · intro h
    have hb := List.find?_some h
    exact (by simpa using hb : b.name = n).symm
  · rintro rfl
    cases b <;> rfl

/-- What `help` prints: a line for each command, between a heading and a tip. -/
def helpLines : List Text :=
  ["Available commands:".toList] ++
  all.map (fun b => "  ".toList ++ b.usage.padEnd 15 ++ b.summary) ++
  ["Tips: Use TAB for autocomplete and arrows for command history.".toList]

end Builtin

end PageShell
