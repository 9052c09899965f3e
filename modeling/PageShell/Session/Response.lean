import PageShell.Builtin
import PageShell.Clock
import PageShell.CommandLine
import PageShell.Fault
import PageShell.Registry
import PageShell.Scrollback
import PageShell.Target
import PageShell.Travel

/-!
# Responses to submitted lines

The response to a line says how it went, what is shown and where the visitor
is taken. It depends on the line, on the place it is submitted from, and on
the clock, and on nothing else.

* `Outcome` — how a submission went;
* `Place` — where it is submitted from;
* `Place.respond` — the response to a line.
-/

namespace PageShell

/-- Why a command that was understood could not be carried out. -/
inductive CommandError where
  /-- no command has this name -/
  | unknownCommand (name : Text)
  /-- `cd` leads nowhere with this argument -/
  | unknownDirectory (argument : Text)
  deriving DecidableEq, Repr

/-- What the visitor is told of a command that failed. -/
def CommandError.message : CommandError → Text
  | unknownCommand name => "bash: ".toList ++ name ++ ": command not found. Type 'help'.".toList
  | unknownDirectory argument => "cd: ".toList ++ argument ++ ": No such directory".toList

/-- **How a submission went.** -/
inductive Outcome where
  /-- the line was blank -/
  | empty
  /-- the line was refused -/
  | rejected (reason : Refusal)
  /-- the command failed -/
  | failed (error : CommandError)
  /-- the command ran -/
  | ran (command : Builtin)
  /-- the visitor is on the way to a page -/
  | navigating (destination : Page)
  deriving DecidableEq, Repr

/-- The answer to a submitted line. -/
structure Response where
  /-- how it went -/
  outcome : Outcome
  /-- what is shown -/
  display : List Display
  /-- where the visitor is taken -/
  travel : List Travel

namespace Response

/-- A command that ran and shows these lines. -/
def shows (command : Builtin) (lines : List Text) : Response :=
  ⟨.ran command, [.append lines .normal], []⟩

/-- A command that failed. -/
def fails (error : CommandError) : Response :=
  ⟨.failed error, [.append [error.message] .error], []⟩

end Response

/-- The answer of the clock: a reading, or a fault. -/
abbrev ClockAnswer := Except Fault Clock.Reading

/-- **Where a line is submitted from.** -/
structure Place where
  /-- the files of the pages -/
  registry : Registry
  /-- the page that the visitor is on -/
  page : Page
  /-- how long it takes to leave the page, in milliseconds -/
  delay : Nat

namespace Place

/-- The response to `cd`. Who is at a page already stays there. -/
def changePage (place : Place) (argument : Text) : Response :=
  match (Target.ofText argument).page? with
  | none => .fails (.unknownDirectory argument)
  | some p =>
    if p = place.page then .shows .cd ["Already at /".toList ++ p.name]
    else
      { outcome := .navigating p
        display := [.append ["Navigating to /".toList ++ p.name ++ "...".toList] .normal]
        travel := [.fadeOut, .schedule (place.registry.destination p) place.delay] }

/-- The response to a command. A clock that cannot answer is no failure of `date`. -/
def run (place : Place) (clock : ClockAnswer) (line : CommandLine) : Builtin → Response
  | .help => .shows .help Builtin.helpLines
  | .ls => .shows .ls Registry.listing
  | .whoami => .shows .whoami ["root (Administrator Access)".toList]
  | .date =>
    match clock with
    | .ok reading => .shows .date [reading.dateLine]
    | .error fault => ⟨.ran .date, [.append ["date: ".toList ++ fault.message] .error], []⟩
  | .clear => ⟨.ran .clear, [.clear], []⟩
  | .cd => place.changePage line.firstArg

/-- **The response to a line.** -/
def respond (place : Place) (clock : ClockAnswer) (line : Text) : Response :=
  match CommandLine.read line with
  | .error reason => ⟨.rejected reason, [.append [reason.message] .error], []⟩
  | .ok none => ⟨.empty, [], []⟩
  | .ok (some command) =>
    match Builtin.ofName? command.name with
    | none => .fails (.unknownCommand command.name)
    | some builtin => place.run clock command builtin

end Place

end PageShell
