import PageShell.Proofs.Scrollback
import PageShell.Proofs.Session.Length
import PageShell.Proofs.Session.Turns

/-!
# A typed line is a submitted line

A line can be typed key by key and entered, or handed over as a whole. Both
ways lead to the same session, output and page changes, as long as the typed
line is not longer than a line can get; of a longer one, the beginning counts.

* `Turn.Quiet` — a turn that changes nothing but the input;
* `Session.quiet_typing` — typing is quiet;
* `Session.run_typing` — what is typed stands in the line, up to the limit;
* `Session.typed_as_submitted` — **typing and Enter do what a submission of the
  beginning does.**
-/

namespace PageShell

/-! ## Quiet turns -/

/-- **A turn that changes nothing but the input.** -/
structure Turn.Quiet (t : Turn) : Prop where
  /-- nothing is submitted -/
  outcome_eq : t.outcome = none
  /-- only the input is shown anew -/
  display : ∀ d ∈ t.display, d.IsInput
  /-- nobody is taken anywhere -/
  travel_eq : t.travel = []

namespace Turn.Quiet

theorem still (s : Session) : s.still.Quiet :=
  ⟨rfl, nofun, rfl⟩

theorem setLine (line : Text) (caret : Nat) (s : Session) : (s.setLine line caret).Quiet where
  outcome_eq := rfl
  display _ hd := ⟨_, _, List.mem_singleton.1 hd⟩
  travel_eq := rfl

theorem insert (c : Char) (s : Session) : (s.insert c).Quiet := by
  rw [Session.insert]
  split
  · exact still s
  · exact setLine _ _ s

theorem andThen {t u : Turn} (ht : t.Quiet) (hu : u.Quiet) : (t.andThen u).Quiet where
  outcome_eq := by rw [Turn.andThen, ht.outcome_eq, hu.outcome_eq, Option.or_none]
  display d hd := (List.mem_append.1 hd).elim (ht.display d) (hu.display d)
  travel_eq := by rw [Turn.andThen, ht.travel_eq, hu.travel_eq, List.append_nil]

end Turn.Quiet

/-! ## Typing -/

namespace Session

/-- A run of keys. -/
theorem run_press (s : Session) (keys : List (ClockAnswer × Key)) :
    s.run (keys.map fun k => .press k.1 k.2) = s.pressAll keys := by
  induction keys generalizing s with
  | nil => rfl
  | cons k rest ih => exact ih _

/-- What happens while a text is typed. -/
def typing (clock : ClockAnswer) (t : Text) : List Event :=
  t.map fun c => .press clock (.char c)

theorem quiet_typing (clock : ClockAnswer) (t : Text) (s : Session) :
    (s.answerAll (typing clock t)).Quiet := by
  induction t generalizing s with
  | nil => exact .still s
  | cons c cs ih => exact (Turn.Quiet.insert c s).andThen (ih _)

/-- **What is typed into an empty line stands there**, up to the limit. -/
theorem run_typing (clock : ClockAnswer) (t : Text) {s : Session} (hline : s.line = [])
    (hcaret : s.caret = 0) :
    s.run (typing clock t) =
      s.withLine (t.take maxCommandLength) (t.take maxCommandLength).length := by
  have hrun := s.run_press (t.map (clock, .char ·))
  rw [pressAll_chars clock (by rw [hcaret, hline]; rfl), List.map_map, hline] at hrun
  exact hrun

/-- A submission empties the input first. -/
theorem exists_display_submit (clock : ClockAnswer) (line : Text) (s : Session) :
    ∃ rest, (s.submit clock line).display = .input [] 0 :: rest := by
  cases hb : line.isBlank with
  | true => exact ⟨[], by rw [submit_of_isBlank clock s hb]; rfl⟩
  | false => exact ⟨_, by rw [submit_of_not_isBlank clock s hb]⟩

/-- **Typing a text and Enter do what a submission of its beginning does.** In any session that is
reached and has an empty line, the first two hundred characters of what is typed stand in the line,
with the caret behind them. Enter then has the outcome that they have when they are submitted as a
whole; it leaves the same session behind, the same output on every display, and the same page
changes. -/
theorem typed_as_submitted (place : Place) (events : List Event)
    (hline : ((start place).run events).line = []) (t : Text) (clock : ClockAnswer)
    (shown : Scrollback) :
    let s := (start place).run events
    let typed := s.run (typing clock t)
    let whole := s.answerAll (typing clock t ++ [.press clock .enter])
    let direct := s.submit clock (t.take 200)
    typed.line = t.take 200 ∧ typed.caret = (t.take 200).length ∧
      whole.outcome = direct.outcome ∧ whole.session = direct.session ∧
      shown.applyAll whole.display = shown.applyAll direct.display ∧
      whole.travel = direct.travel := by
  intro s typed whole direct
  have hcaret : s.caret = 0 := by
    have hle := caret_run_le place events
    rw [hline] at hle
    exact Nat.le_zero.1 hle
  have htyped : typed = s.withLine (t.take 200) (t.take 200).length :=
    run_typing clock t hline hcaret
  have hquiet := quiet_typing clock t s
  -- Enter overwrites what was typed, and nothing else of the session was changed
  have hwhole : whole = (s.answerAll (typing clock t)).andThen direct := by
    show s.answerAll _ = _
    rw [answerAll_append, answerAll_singleton]
    show Turn.andThen _ (typed.submit clock typed.line) = _
    rw [htyped]
    rfl
  refine ⟨by rw [htyped]; rfl, by rw [htyped]; exact Nat.min_self _, ?_⟩
  obtain ⟨rest, hdisplay⟩ := exists_display_submit clock (t.take 200) s
  rw [hwhole]
  refine ⟨?_, rfl, ?_, ?_⟩
  · rw [Turn.andThen, hquiet.outcome_eq, Option.or_none]
  · rw [Turn.andThen, Scrollback.applyAll, List.foldl_append, hdisplay]
    exact congrArg (List.foldl Scrollback.apply · rest)
      (Scrollback.applyAll_isInput hquiet.display [] 0 shown)
  · rw [Turn.andThen, hquiet.travel_eq, List.nil_append]

/-- Of two hundred and one letters that are not ASCII, the last one is not typed. The rest is
refused for the letters and not for its length. -/
theorem typed_as_submitted_at_limit :
    let clock : ClockAnswer := .error (.platform [])
    let place : Place := ⟨.ofSettings .default, .home, 280⟩
    let events : List Event := [.submit clock "ls".toList, .press clock .up, .press clock .down]
    let t : Text := List.replicate 201 'é'
    let s := (start place).run events
    s.line = [] ∧ (s.run (typing clock t)).line = List.replicate 200 'é' ∧
      (s.answerAll (typing clock t ++ [.press clock .enter])).outcome =
        some (.rejected .unprintable) := by
  intro clock place events t s
  have hline : s.line = [] := by decide +kernel
  have htake : t.take 200 = List.replicate 200 'é' := by decide +kernel
  obtain ⟨htyped, -, houtcome, -⟩ :=
    typed_as_submitted place events hline t clock (.empty 500)
  refine ⟨hline, htyped.trans htake, houtcome.trans ?_⟩
  rw [htake]
  decide +kernel

end Session

end PageShell
