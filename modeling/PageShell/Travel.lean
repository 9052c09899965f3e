import PageShell.Text.Basic

/-!
# Travel between pages

A page change is asked for first and happens later, when its delay is over. A
timer holds the changes that are under way. The one that comes due first is
carried out, and the others are forgotten together with the page that asked
for them.

* `Travel` — what a session asks of the one who changes pages;
* `Timer.apply`, `Timer.poll` — what the timer does with it;
* `Timer.earliest?` — which change goes first.
-/

namespace PageShell

/-- **A request to change the page.** -/
inductive Travel where
  /-- let the page fade -/
  | fadeOut
  /-- load the page of a file after a delay -/
  | schedule (destination : Text) (delay : Nat)
  deriving DecidableEq, Repr

/-- A page change under way. -/
structure Departure where
  /-- when it is due -/
  deadline : Nat
  /-- the file of the page to load -/
  destination : Text
  deriving DecidableEq, Repr

/-- **The timer of page changes.** Points in time are numbers of milliseconds. -/
structure Timer where
  /-- the changes under way, in the order they were asked for -/
  pending : List Departure
  /-- whether the page is fading -/
  fading : Bool
  deriving DecidableEq, Repr

/-- The departure with the earliest deadline; of several the one that was asked for first. -/
def Timer.earliest? : List Departure → Option Departure
  | [] => none
  | d :: rest =>
    match earliest? rest with
    | none => some d
    | some e => if e.deadline < d.deadline then some e else some d

namespace Timer

/-- The timer of a page that nobody leaves. -/
def idle : Timer :=
  ⟨[], false⟩

/-- Asks for a page after a delay, from a point in time on. -/
def schedule (now : Nat) (destination : Text) (delay : Nat) (t : Timer) : Timer :=
  { t with pending := t.pending ++ [⟨now + delay, destination⟩] }

/-- Lets the page fade. -/
def fadeOut (t : Timer) : Timer :=
  { t with fading := true }

/-- The timer after a request at a point in time. -/
def apply (now : Nat) (t : Timer) : Travel → Timer
  | .fadeOut => t.fadeOut
  | .schedule destination delay => t.schedule now destination delay

/-- The timer after several requests at a point in time. -/
def applyAll (now : Nat) (t : Timer) (requests : List Travel) : Timer :=
  requests.foldl (apply now) t

/-- **The file whose page is due** at a point in time, if any, and the timer from then on. -/
def poll (now : Nat) (t : Timer) : Option Text × Timer :=
  match earliest? (t.pending.filter (·.deadline ≤ now)) with
  | none => (none, t)
  | some d => (some d.destination, idle)

end Timer

end PageShell
