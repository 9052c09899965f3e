import PageShell.Proofs.Completion
import PageShell.Proofs.Session.Turns

/-!
# Tab, pressed again

A completion ends in a space, and behind a space there is nothing left to
complete. So all that Tab does to a line it does at once; pressed again, it may
only show what could come next.

* `Session.complete_of_replaced`, `Session.session_complete_of_ne` — when Tab
  changes a session, and when it does not;
* `Session.session_complete_complete` — the second Tab changes nothing;
* `Session.ShowsCompletion` — what Tab shows, one request at most;
* `Session.tab_settles` — **any number of Tabs does what one does.**
-/

namespace PageShell

namespace Session

variable (s : Session)

/-- Tab puts the completed line there, with the caret behind it. -/
theorem complete_of_replaced {l : Text} {place : Nat}
    (h : Completion.ofLine s.line s.caret = .replaced l place) :
    s.complete = ⟨{ s with line := l, caret := place }, none, [.input l place], []⟩ := by
  obtain ⟨-, -, -, -, -, -, -, -, -, rfl⟩ := Completion.ofLine_eq_replaced h
  rw [complete, h]
  dsimp only
  rw [setLine, withLine, Nat.min_self]

/-- It changes nothing if the line is not replaced. -/
theorem session_complete_of_ne
    (h : ∀ l place, Completion.ofLine s.line s.caret ≠ .replaced l place) :
    s.complete.session = s := by
  rw [complete]
  split
  · rfl
  · next l place hreplaced => exact absurd hreplaced (h l place)
  · rfl

/-- **The second Tab changes nothing.** -/
theorem session_complete_complete : s.complete.session.complete.session = s.complete.session := by
  by_cases h : ∃ l place, Completion.ofLine s.line s.caret = .replaced l place
  · obtain ⟨l, place, hreplaced⟩ := h
    rw [s.complete_of_replaced hreplaced]
    exact session_complete_of_ne _ (Completion.ofLine_of_replaced hreplaced)
  · have hsame := s.session_complete_of_ne fun l place hreplaced => h ⟨l, place, hreplaced⟩
    rw [hsame, hsame]

/-- **Any number of Tabs leaves the session as one leaves it.** -/
theorem run_replicate_tab (clock : ClockAnswer) (n : Nat) :
    s.run (List.replicate (n + 1) (.press clock .tab)) = s.complete.session := by
  induction n generalizing s with
  | zero => rfl
  | succ n ih =>
    rw [List.replicate_succ, run_cons]
    exact (ih s.complete.session).trans s.session_complete_complete

/-- **What Tab shows**: nothing, the completed line, or one line of candidates. -/
inductive ShowsCompletion (turn : Turn) : Completion → Prop where
  /-- nothing is shown if there is nothing to complete -/
  | unchanged (hdisplay : turn.display = []) : ShowsCompletion turn .unchanged
  /-- the input is set to the completed line -/
  | replaced {l : Text} {place : Nat} (hline : turn.session.line = l)
      (hcaret : turn.session.caret = place) (hdisplay : turn.display = [.input l place]) :
      ShowsCompletion turn (.replaced l place)
  /-- the candidates are added to the output, in one line -/
  | suggestions {candidates : List Text}
      (hdisplay : turn.display =
        [.append ["Suggestions: ".toList ++ List.intercalate "  ".toList candidates] .normal]) :
      ShowsCompletion turn (.suggestions candidates)

theorem showsCompletion_complete :
    ShowsCompletion s.complete (Completion.ofLine s.line s.caret) := by
  cases h : Completion.ofLine s.line s.caret with
  | unchanged => exact .unchanged (by rw [complete, h]; rfl)
  | replaced l place =>
    rw [s.complete_of_replaced h]
    exact .replaced rfl rfl rfl
  | suggestions candidates => exact .suggestions (by rw [complete, h])

/-- What Tab leaves alone. -/
theorem frame_complete :
    s.complete.session.history = s.history ∧ s.complete.session.place = s.place ∧
      s.complete.outcome = none ∧ s.complete.travel = [] := by
  rw [complete]
  split
  · exact ⟨rfl, rfl, rfl, rfl⟩
  · exact ⟨rfl, rfl, rfl, rfl⟩
  · exact ⟨rfl, rfl, rfl, rfl⟩

/-- Nor do several Tabs. -/
theorem frame_run_tab (clock : ClockAnswer) (n : Nat) :
    (s.run (List.replicate n (.press clock .tab))).history = s.history ∧
      (s.run (List.replicate n (.press clock .tab))).place = s.place := by
  cases n with
  | zero => exact ⟨rfl, rfl⟩
  | succ n =>
    rw [run_replicate_tab]
    exact ⟨s.frame_complete.1, s.frame_complete.2.1⟩

/-- **Any number of Tabs does what one does.** Whatever the line and the caret of a session are, one
Tab or more leave the same session; for a line that was put there by Tab is not replaced by it
again. Each of them makes one request to the display at most, as its completion says: for the
completed line or for a line of candidates. None of them changes the history or the page, submits
anything, or takes the visitor anywhere. -/
theorem tab_settles (clock : ClockAnswer) (s : Session) :
    (∀ n, s.run (List.replicate (n + 1) (.press clock .tab)) = (s.press clock .tab).session) ∧
      (∀ l place, Completion.ofLine s.line s.caret = .replaced l place →
        ∀ l' place', Completion.ofLine l place ≠ .replaced l' place') ∧
      ∀ n,
        let before := s.run (List.replicate n (.press clock .tab))
        let turn := before.press clock .tab
        ShowsCompletion turn (Completion.ofLine before.line before.caret) ∧
        turn.session.history = s.history ∧ turn.session.place = s.place ∧
        turn.outcome = none ∧ turn.travel = [] := by
  refine ⟨s.run_replicate_tab clock, fun _ _ => Completion.ofLine_of_replaced, fun n => ?_⟩
  intro before turn
  obtain ⟨hhistory, hplace, houtcome, htravel⟩ := before.frame_complete
  obtain ⟨hhistory', hplace'⟩ := s.frame_run_tab clock n
  exact ⟨before.showsCompletion_complete, hhistory.trans hhistory', hplace.trans hplace',
    houtcome, htravel⟩

end Session

end PageShell
