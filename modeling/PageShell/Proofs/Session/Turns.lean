import PageShell.Proofs.Session.Run

/-!
# Whole runs as turns

What a session answers to several events is a turn again: the session after
them, the latest outcome, and all their requests in order. A console shows
nothing but these requests.

* `Turn.andThen` — one turn after another;
* `Session.answerAll` — the turn of several events;
* `Session.run` — the session after several events;
* `Console.run_eq` — a console's run follows that turn, so what consoles keep
  to holds of every session that is reached.
-/

namespace PageShell

namespace Turn

/-- **One turn after another.** -/
def andThen (first next : Turn) : Turn where
  session := next.session
  outcome := next.outcome.or first.outcome
  display := first.display ++ next.display
  travel := first.travel ++ next.travel

variable (t : Turn)

theorem andThen_assoc (u v : Turn) : (t.andThen u).andThen v = t.andThen (u.andThen v) := by
  simp [andThen, Option.or_assoc]

/-- Nothing changes if nothing happens first. -/
theorem still_andThen (s : Session) : s.still.andThen t = t := by
  simp [andThen, Session.still]

/-- Nothing changes if nothing happens afterwards. -/
theorem andThen_still : t.andThen t.session.still = t := by
  simp [andThen, Session.still]

end Turn

namespace Session

/-- **The turn of several events.** -/
def answerAll (s : Session) : List Event → Turn
  | [] => s.still
  | e :: rest => (s.answer e).andThen ((s.answer e).session.answerAll rest)

/-- **The session after several events.** -/
def run (s : Session) (events : List Event) : Session :=
  (s.answerAll events).session

variable (s : Session)

@[simp] theorem run_nil : s.run [] = s := rfl

@[simp] theorem run_cons (e : Event) (rest : List Event) :
    s.run (e :: rest) = (s.answer e).session.run rest := rfl

theorem answerAll_append (first rest : List Event) :
    s.answerAll (first ++ rest) = (s.answerAll first).andThen ((s.run first).answerAll rest) := by
  induction first generalizing s with
  | nil => exact (Turn.still_andThen _ s).symm
  | cons e first ih =>
    rw [List.cons_append, answerAll, ih, ← Turn.andThen_assoc]
    rfl

theorem answerAll_singleton (e : Event) : s.answerAll [e] = s.answer e :=
  (s.answer e).andThen_still

theorem run_append (first rest : List Event) : s.run (first ++ rest) = (s.run first).run rest := by
  rw [run, answerAll_append]
  rfl

end Session

/-! ## Sessions that are reached -/

/-- **A console's run follows the turn of all its events.** -/
theorem Console.run_eq (c : Console) (events : List Session.Event) :
    c.run events = c.follow (c.session.answerAll events) := by
  induction events generalizing c with
  | nil => rfl
  | cons e rest ih =>
    calc c.run (e :: rest)
        = (c.step e).follow ((c.step e).session.answerAll rest) := ih (c.step e)
      _ = c.follow (c.session.answerAll (e :: rest)) := by
        simp [follow, step, Session.answerAll, Turn.andThen, Scrollback.applyAll]

namespace Session

variable (place : Place) (events : List Event)

/-- A session that is reached is part of a faithful console. -/
theorem faithful_run :
    (Console.follow ((start place).answerAll events) (Console.start place 1)).Faithful :=
  Console.run_eq (Console.start place 1) events ▸ Console.faithful_run place 1 events

theorem caret_run_le : ((start place).run events).caret ≤ ((start place).run events).line.length :=
  (faithful_run place events).caret_le

theorem place_run : ((start place).run events).place = place := by
  have h := Console.place_run (Console.start place 1) events
  rw [Console.run_eq] at h
  exact h

end Session

end PageShell
