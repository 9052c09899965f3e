import PageShell.Proofs.CommandLine
import PageShell.Session.Basic

/-!
# The protocol of a submission

Whatever is submitted, the display and the timer see the same pattern of
requests. The input is emptied first. A line that is not blank is shown, and
answered by exactly one request to the display; a page change is asked for
exactly if the outcome says so.

* `Response.Orderly` — the pattern, as far as the response to a line goes;
* `Place.respond_orderly` — every response follows it;
* `Place.respond_eq_rejected_iff` — which lines are refused;
* `Session.submit_of_isBlank`, `Session.submit_of_not_isBlank` — the turn of a
  submission in terms of the response;
* `Session.submit_protocol` — **the protocol**, for any session, clock and line.
-/

namespace PageShell

/-! ## The pattern of a response -/

/-- Whether an outcome is reported in the style of errors. When the clock cannot answer, `date`
has run all the same, but what it shows is an error. -/
def Outcome.IsReportedAsError (clock : ClockAnswer) (o : Outcome) : Prop :=
  (∃ reason, o = .rejected reason) ∨ (∃ error, o = .failed error) ∨
    (o = .ran .date ∧ ∃ fault, clock = .error fault)

/-- The one request to the display that answers a line: `clear` clears it, every other outcome
adds lines to it, in the style of errors or not. -/
def Outcome.IsAnsweredBy (clock : ClockAnswer) (o : Outcome) (d : Display) : Prop :=
  (d = .clear ↔ o = .ran .clear) ∧
    (o ≠ .ran .clear → ∃ lines style, d = .append lines style ∧
      (style = .error ↔ o.IsReportedAsError clock))

/-- The requests to the timer that go with an outcome: only who is on the way somewhere sees the
page fade, and is taken there after the delay of the place. -/
def Place.travelFor (place : Place) : Outcome → List Travel
  | .navigating p => [.fadeOut, .schedule (place.registry.destination p) place.delay]
  | _ => []

/-- **The pattern of a response** to a line that is not blank. -/
structure Response.Orderly (place : Place) (clock : ClockAnswer) (r : Response) : Prop where
  /-- only blank lines have the outcome of blank lines -/
  outcome_ne_empty : r.outcome ≠ .empty
  /-- the display gets one request -/
  display : ∃ d, r.display = [d] ∧ r.outcome.IsAnsweredBy clock d
  /-- the timer gets what the outcome says -/
  travel : r.travel = place.travelFor r.outcome
  /-- nobody is taken to the page that is shown -/
  elsewhere : ∀ p, r.outcome = .navigating p → p ≠ place.page

section Response

variable {place : Place} {clock : ClockAnswer}

/-- A response that adds lines to the display and asks for no page change. -/
theorem Response.Orderly.of_append {o : Outcome} {lines : List Text} {style : LineStyle}
    (he : o ≠ .empty) (hc : o ≠ .ran .clear) (hn : ∀ p, o ≠ .navigating p)
    (hs : style = .error ↔ o.IsReportedAsError clock) :
    Response.Orderly place clock ⟨o, [.append lines style], []⟩ where
  outcome_ne_empty := he
  display := by
    refine ⟨_, rfl, ?_, fun _ => ⟨lines, style, rfl, hs⟩⟩
    constructor
    · intro h
      cases h
    · intro h
      exact absurd h hc
  travel := by
    cases o with
    | navigating p => exact absurd rfl (hn p)
    | _ => rfl
  elsewhere p hp := absurd hp (hn p)

theorem Response.orderly_shows {command : Builtin} {lines : List Text} (hc : command ≠ .clear)
    (hd : command = .date → ∃ reading, clock = .ok reading) :
    (Response.shows command lines).Orderly place clock := by
  refine .of_append (by simp) (by simpa using hc) (by simp) ?_
  constructor
  · intro h
    cases h
  · rintro (⟨reason, h⟩ | ⟨error, h⟩ | ⟨h, fault, hf⟩)
    · cases h
    · cases h
    · -- `date` has a clock here
      obtain ⟨reading, hr⟩ := hd (by simpa using h)
      rw [hr] at hf
      cases hf

theorem Response.orderly_fails {error : CommandError} :
    (Response.fails error).Orderly place clock := by
  refine .of_append (by simp) (by simp) (by simp) ?_
  simp [Outcome.IsReportedAsError]

theorem Place.changePage_orderly (place : Place) (clock : ClockAnswer) (argument : Text) :
    (place.changePage argument).Orderly place clock := by
  rw [changePage]
  split
  · exact Response.orderly_fails
  · next p _ =>
    split
    · exact Response.orderly_shows (by decide) nofun
    · next hp =>
      -- the only response with requests to the timer
      refine ⟨by simp, ⟨_, rfl, by simp, fun _ => ⟨_, _, rfl, ?_⟩⟩, rfl, ?_⟩
      · simp [Outcome.IsReportedAsError]
      · intro q hq
        obtain rfl : p = q := by simpa using hq
        exact hp

theorem Place.run_orderly (place : Place) (clock : ClockAnswer) (line : CommandLine)
    (command : Builtin) : (place.run clock line command).Orderly place clock := by
  cases command with
  | help => exact Response.orderly_shows (by decide) nofun
  | ls => exact Response.orderly_shows (by decide) nofun
  | whoami => exact Response.orderly_shows (by decide) nofun
  | date =>
    simp only [run]
    split
    · next reading => exact Response.orderly_shows (by decide) fun _ => ⟨reading, rfl⟩
    · refine .of_append (by simp) (by simp) (by simp) ?_
      simp [Outcome.IsReportedAsError]
  | clear =>
    refine ⟨by simp [run], ⟨_, rfl, by simp [run], fun h => absurd rfl h⟩, rfl, ?_⟩
    intro p hp
    cases hp
  | cd => exact place.changePage_orderly clock line.firstArg

/-- **Every response to a line that is not blank is orderly.** In particular a line that was
trimmed and is not empty is never taken for a blank one. -/
theorem Place.respond_orderly (place : Place) (clock : ClockAnswer) {line : Text}
    (h : line.isBlank = false) : (place.respond clock line).Orderly place clock := by
  rw [respond]
  split
  · refine .of_append (by simp) (by simp) (by simp) ?_
    simp [Outcome.IsReportedAsError]
  · next hread =>
    -- only blank lines are read as nothing
    rw [CommandLine.read_eq_ok_none_iff.1 hread] at h
    cases h
  · next command _ =>
    split
    · exact Response.orderly_fails
    · next builtin _ => exact place.run_orderly clock command builtin

/-- Only lines are refused, and no commands. -/
theorem Place.run_ne_rejected (place : Place) (clock : ClockAnswer) (line : CommandLine)
    (command : Builtin) (reason : Refusal) :
    (place.run clock line command).outcome ≠ .rejected reason := by
  cases command with
  | cd =>
    show (place.changePage line.firstArg).outcome ≠ _
    rw [changePage]
    split
    · exact nofun
    · split
      · exact nofun
      · exact nofun
  | date => cases clock <;> exact nofun
  | _ => exact nofun

/-- **When a trimmed line is refused**: if it is too long, or else if it holds a character that is
not printable. -/
theorem Place.respond_eq_rejected_iff (place : Place) (clock : ClockAnswer) {text : Text}
    (ht : text.trim = text) (hne : text ≠ []) {reason : Refusal} :
    (place.respond clock text).outcome = .rejected reason ↔
      (reason = .tooLong ∧ maxCommandLength < text.length) ∨
      (reason = .unprintable ∧ text.length ≤ maxCommandLength ∧ text.all isPrintable = false) := by
  rw [respond, CommandLine.read_of_trim ht hne]
  by_cases hlong : maxCommandLength < text.length
  · rw [if_pos hlong]
    constructor
    · intro h
      exact .inl ⟨(Outcome.rejected.inj h).symm, hlong⟩
    · rintro (⟨rfl, -⟩ | ⟨-, hlen, -⟩)
      · rfl
      · exact absurd hlong (Nat.not_lt.2 hlen)
  · rw [if_neg hlong]
    cases hprint : text.all isPrintable with
    | false =>
      constructor
      · intro h
        exact .inr ⟨(Outcome.rejected.inj h).symm, Nat.not_lt.1 hlong, rfl⟩
      · rintro (⟨-, hlen⟩ | ⟨rfl, -⟩)
        · exact absurd hlen hlong
        · rfl
    | true =>
      constructor
      · -- commands are not refused
        intro h
        rw [if_pos rfl] at h
        dsimp only at h
        split at h
        · cases h
        · exact absurd h (place.run_ne_rejected clock _ _ reason)
      · rintro (⟨-, hlen⟩ | ⟨-, -, hprint⟩)
        · exact absurd hlen hlong
        · cases hprint

end Response

/-! ## The turn of a submission -/

namespace Session

/-- The turn of a blank line: the input is emptied. -/
theorem submit_of_isBlank (clock : ClockAnswer) {line : Text} (s : Session)
    (h : line.isBlank = true) :
    s.submit clock line = { s.setLine [] 0 with outcome := some .empty } := by
  have ht : line.trim.isEmpty = true := List.isEmpty_iff.2 (Text.trim_eq_nil_iff.2 h)
  rw [submit, if_pos ht]

/-- The turn of any other line: the input is emptied, the line is shown, recorded and responded
to without the blanks around it. -/
theorem submit_of_not_isBlank (clock : ClockAnswer) {line : Text} (s : Session)
    (h : line.isBlank = false) :
    s.submit clock line =
      { session := { s.withLine [] 0 with history := s.history.record line.trim, phase := .idle }
        outcome := some (s.place.respond clock line.trim).outcome
        display := .input [] 0 :: .echo line.trim :: (s.place.respond clock line.trim).display
        travel := (s.place.respond clock line.trim).travel } := by
  have ht : ¬ line.trim.isEmpty = true := fun he =>
    Text.trim_ne_nil_iff.2 h (List.isEmpty_iff.1 he)
  rw [submit, if_neg ht]
  rfl

/-- The timer is asked for what the outcome says. -/
theorem submit_travel (clock : ClockAnswer) (line : Text) (s : Session) :
    ∃ o, (s.submit clock line).outcome = some o ∧
      (s.submit clock line).travel = s.place.travelFor o := by
  by_cases hb : line.isBlank = true
  · rw [submit_of_isBlank clock s hb]
    exact ⟨_, rfl, rfl⟩
  · have hnb : line.isBlank = false := by simpa using hb
    have htrim : line.trim.isBlank = false := by rwa [Text.isBlank_trim]
    rw [submit_of_not_isBlank clock s hnb]
    exact ⟨_, rfl, (s.place.respond_orderly clock htrim).travel⟩

/-- **The protocol of a submission.** Whatever the session, the clock and the line: the input is
emptied first. A blank line has no further effect. Any other line is shown and recorded without
the blanks around it, and answered by one request to the display: `clear` clears it, all other
outcomes add lines, as an error exactly if the line was refused, the command failed or `date` had
no clock. The timer is asked for a page change exactly if the outcome is one, and that page is
another one than the page that is shown. -/
theorem submit_protocol (clock : ClockAnswer) (line : Text) (s : Session) :
    ∃ o, (s.submit clock line).outcome = some o ∧
      (o = .empty ↔ line.isBlank = true) ∧
      (line.isBlank = true →
        (s.submit clock line).display = [.input [] 0] ∧
        (s.submit clock line).session.history = s.history ∧
        ∀ shown : Scrollback,
          shown.applyAll (s.submit clock line).display = { shown with input := [], caret := 0 }) ∧
      (line.isBlank = false →
        (s.submit clock line).session.history =
          ⟨(line.trim :: s.history.entries).take maxHistory, none⟩ ∧
        ∃ answer, (s.submit clock line).display = [.input [] 0, .echo line.trim, answer] ∧
          (answer = .clear ↔ o = .ran .clear) ∧
          (o ≠ .ran .clear → ∃ lines style, answer = .append lines style ∧
            (style = .error ↔ o.IsReportedAsError clock))) ∧
      (s.submit clock line).travel = s.place.travelFor o ∧
      ∀ p, o = .navigating p → p ≠ s.page := by
  by_cases hb : line.isBlank = true
  · rw [submit_of_isBlank clock s hb]
    refine ⟨.empty, rfl, by simp [hb], fun _ => ⟨rfl, rfl, fun _ => rfl⟩, ?_, rfl, by simp⟩
    intro hnb
    rw [hb] at hnb
    cases hnb
  · have hnb : line.isBlank = false := by simpa using hb
    have htrim : line.trim.isBlank = false := by rwa [Text.isBlank_trim]
    have hr := s.place.respond_orderly clock htrim
    obtain ⟨answer, hdisplay, hanswer⟩ := hr.display
    rw [submit_of_not_isBlank clock s hnb]
    refine ⟨_, rfl, by simp [hb, hr.outcome_ne_empty], fun h => absurd h hb, fun _ => ⟨rfl, ?_⟩,
      hr.travel, hr.elsewhere⟩
    exact ⟨answer, by rw [hdisplay], hanswer⟩

end Session

end PageShell
