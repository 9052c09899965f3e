import PageShell.Completion
import PageShell.History
import PageShell.Keyboard
import PageShell.Session.Response

/-!
# Sessions

A session is the prompt of one page: the line being typed with its caret, and
the history. It answers each key with a *turn*, which holds the next session
and the requests to the display and the timer, in order.

* `Session.press` — the turn of a key;
* `Session.submit` — the turn of a submitted line;
* `Session.complete`, `Session.recallOlder`, `Session.recallNewer` — the turns
  of Tab and of the vertical arrows.
-/

namespace PageShell

/-- Whether a session waits for keys or carries out a command. -/
inductive Phase where
  | idle
  | executing
  deriving DecidableEq, Repr

/-- **The prompt of one page.** -/
structure Session where
  /-- the page, its neighbours, and how long it takes to get there -/
  place : Place
  /-- the submitted lines -/
  history : History
  /-- the line being typed -/
  line : Text
  /-- the place of the caret in it, counted in characters -/
  caret : Nat
  /-- whether a command is being carried out -/
  phase : Phase

/-- **What follows from a key**: the next session, and requests in order. -/
structure Turn where
  /-- the session from then on -/
  session : Session
  /-- how a submission went, if there was one -/
  outcome : Option Outcome
  /-- the requests to the display -/
  display : List Display
  /-- the requests to the timer of page changes -/
  travel : List Travel

namespace Session

/-- The session of a page that was just loaded. -/
def start (place : Place) : Session :=
  ⟨place, .empty, [], 0, .idle⟩

/-- The page of the session. -/
def page (s : Session) : Page :=
  s.place.page

/-- A turn in which nothing happens. -/
def still (s : Session) : Turn :=
  ⟨s, none, [], []⟩

/-! ### The input line -/

/-- The session with another line, and its caret at a place inside. -/
def withLine (line : Text) (caret : Nat) (s : Session) : Session :=
  { s with line := line, caret := min caret line.length }

/-- The turn in which the line is replaced and shown. -/
def setLine (line : Text) (caret : Nat) (s : Session) : Turn :=
  let s' := s.withLine line caret
  ⟨s', none, [.input s'.line s'.caret], []⟩

/-- The turn in which the caret goes to a place, or to the end where there is no such place. -/
def moveCaret (caret : Nat) (s : Session) : Turn :=
  s.setLine s.line caret

/-- Types a character before the caret, unless the line is full. -/
def insert (c : Char) (s : Session) : Turn :=
  if maxCommandLength ≤ s.line.length then s.still
  else s.setLine (s.line.take s.caret ++ c :: s.line.drop s.caret) (s.caret + 1)

/-- Deletes the character before the caret. -/
def backspace (s : Session) : Turn :=
  if s.caret = 0 then s.still else s.setLine (s.line.eraseIdx (s.caret - 1)) (s.caret - 1)

/-- Deletes the character at the caret. -/
def delete (s : Session) : Turn :=
  if s.line.length ≤ s.caret then s.still else s.setLine (s.line.eraseIdx s.caret) s.caret

/-! ### Tab and the vertical arrows -/

/-- Completes the word at the caret, or shows how it could go on. -/
def complete (s : Session) : Turn :=
  match Completion.ofLine s.line s.caret with
  | .unchanged => s.still
  | .replaced line caret => s.setLine line caret
  | .suggestions candidates =>
    ⟨s, none, [.append ["Suggestions: ".toList ++ List.intercalate "  ".toList candidates] .normal],
      []⟩

/-- Puts an older line into the input. -/
def recallOlder (s : Session) : Turn :=
  match s.history.older with
  | (none, _) => s.still
  | (some line, history) => { s with history := history }.setLine line line.length

/-- Puts a newer line into the input, or empties it. -/
def recallNewer (s : Session) : Turn :=
  let (line, history) := s.history.newer
  { s with history := history }.setLine line line.length

/-! ### Submission -/

/-- **The turn of a submitted line.** The input is emptied. A line that is not blank is shown and
recorded, and then responded to; so refused and unknown lines are in the history too. -/
def submit (clock : ClockAnswer) (line : Text) (s : Session) : Turn :=
  let cleared := s.setLine [] 0
  let text := line.trim
  if text.isEmpty then { cleared with outcome := some .empty }
  else
    let busy := { cleared.session with
      history := cleared.session.history.record text
      phase := .executing }
    let response := busy.place.respond clock text
    { session := { busy with phase := .idle }
      outcome := some response.outcome
      display := cleared.display ++ .echo text :: response.display
      travel := response.travel }

/-- **The turn of a key.** The keys for the theme and for leaving are not the session's. -/
def press (clock : ClockAnswer) (key : Key) (s : Session) : Turn :=
  match key with
  | .enter => s.submit clock s.line
  | .tab => s.complete
  | .up => s.recallOlder
  | .down => s.recallNewer
  | .left => s.moveCaret (s.caret - 1)
  | .right => s.moveCaret (s.caret + 1)
  | .lineStart => s.moveCaret 0
  | .lineEnd => s.moveCaret s.line.length
  | .backspace => s.backspace
  | .delete => s.delete
  | .char c => s.insert c
  | .toggleTheme => s.still
  | .quit => s.still

end Session

end PageShell
