import PageShell.Proofs.Session.Chronicle

/-!
# Recalled lines go the way they went

What follows from a submission depends on the line without the blanks around
it, on the place and on the clock. The history has lines without blanks around
them, and a session stays at its place. So whoever steps back to a line and
submits it again sees what was seen the first time.

* `Session.submit_congr` — what a submission depends on;
* `Place.outcome_respond` — how it goes does not even depend on the clock;
* `Session.run_up` — steps back, one after another;
* `Session.Origin`, `Session.exists_origin` — the submission that an entry
  comes from;
* `Session.resubmission` — **an entry that is recalled and submitted again goes
  the way it went.**
-/

namespace PageShell

/-- **The clock has no say in how a submission goes.** -/
theorem Place.outcome_respond (place : Place) (clock clock' : ClockAnswer) (line : Text) :
    (place.respond clock line).outcome = (place.respond clock' line).outcome := by
  rw [respond, respond]
  split
  · rfl
  · rfl
  · split
    · rfl
    · next builtin _ =>
      cases builtin with
      | date => cases clock <;> cases clock' <;> rfl
      | _ => rfl

namespace Session

/-- **What a submission depends on**: the line without the blanks around it, the place, and the
clock. -/
theorem submit_congr {s s' : Session} (hplace : s.place = s'.place) {line line' : Text}
    (htrim : line.trim = line'.trim) (clock : ClockAnswer) :
    (s.submit clock line).outcome = (s'.submit clock line').outcome ∧
      (s.submit clock line).display = (s'.submit clock line').display ∧
      (s.submit clock line).travel = (s'.submit clock line').travel := by
  have hblank : line.isBlank = line'.isBlank := by
    rw [← Text.isBlank_trim, htrim, Text.isBlank_trim]
  cases hb : line'.isBlank with
  | true =>
    rw [submit_of_isBlank clock s (hblank.trans hb), submit_of_isBlank clock s' hb]
    exact ⟨rfl, rfl, rfl⟩
  | false =>
    rw [submit_of_not_isBlank clock s (hblank.trans hb), submit_of_not_isBlank clock s' hb, hplace,
      htrim]
    exact ⟨rfl, rfl, rfl⟩

theorem outcome_submit (s : Session) (clock clock' : ClockAnswer) (line : Text) :
    (s.submit clock line).outcome = (s.submit clock' line).outcome := by
  cases hb : line.isBlank with
  | true => rw [submit_of_isBlank clock s hb, submit_of_isBlank clock' s hb]
  | false =>
    rw [submit_of_not_isBlank clock s hb, submit_of_not_isBlank clock' s hb]
    exact congrArg some (s.place.outcome_respond clock clock' line.trim)

/-- Neither has it a say in the requests to the timer. -/
theorem travel_submit (s : Session) (clock clock' : ClockAnswer) (line : Text) :
    (s.submit clock line).travel = (s.submit clock' line).travel := by
  obtain ⟨o, ho, htravel⟩ := submit_travel clock line s
  obtain ⟨o', ho', htravel'⟩ := submit_travel clock' line s
  rw [s.outcome_submit clock clock', ho', Option.some.injEq] at ho
  rw [htravel, htravel', ho]

/-! ## Steps back -/

/-- The session in which an entry was recalled. -/
def recalled (s : Session) (i : Nat) (entry : Text) : Session :=
  { s with
    history := ⟨s.history.entries, some i⟩
    line := entry
    caret := entry.length }

theorem recallOlder_of_getElem? {s : Session} {i : Nat} {entry : Text}
    (hplace : s.history.olderPlace = i) (hentry : s.history.entries[i]? = some entry) :
    s.recallOlder.session = s.recalled i entry := by
  have hne : s.history.entries ≠ [] := List.ne_nil_of_mem (List.mem_of_getElem? hentry)
  obtain ⟨line, hline, holder⟩ := History.exists_older hne
  obtain rfl : entry = line := Option.some.inj (hentry.symm.trans (hplace ▸ hline))
  rw [recallOlder, holder, hplace]
  simp [setLine, withLine, recalled]

/-- **Steps back, one after another**, lead to an entry, if it is there. -/
theorem run_up (clock : ClockAnswer) {s : Session} (hcursor : s.history.cursor = none) {i : Nat}
    {entry : Text} (hentry : s.history.entries[i]? = some entry) :
    s.run (List.replicate (i + 1) (.press clock .up)) = s.recalled i entry := by
  induction i generalizing entry with
  | zero =>
    have hplace : s.history.olderPlace = 0 := by rw [History.olderPlace, hcursor]
    exact recallOlder_of_getElem? hplace hentry
  | succ i ih =>
    -- the entry before is there as well
    have hlt : i + 1 < s.history.entries.length := (List.getElem?_eq_some_iff.1 hentry).1
    obtain ⟨newer, hnewer⟩ : ∃ newer, s.history.entries[i]? = some newer :=
      ⟨_, List.getElem?_eq_getElem (Nat.lt_of_succ_lt hlt)⟩
    have hplace : (s.recalled i newer).history.olderPlace = i + 1 :=
      Nat.min_eq_left (Nat.le_sub_one_of_lt hlt)
    rw [List.replicate_succ', run_append, ih hnewer]
    exact recallOlder_of_getElem? hplace hentry

/-- **Steps back to an entry, and Enter, submit the entry.** -/
theorem press_enter_run_up (upClock clock : ClockAnswer) {s : Session}
    (hcursor : s.history.cursor = none) {i : Nat} {line : Text}
    (hline : s.history.entries[i]? = some line) (hblank : line.isBlank = false) :
    (s.run (List.replicate (i + 1) (.press upClock .up))).press clock .enter =
      s.submit clock line := by
  rw [run_up upClock hcursor hline, submit_of_not_isBlank clock s hblank]
  exact submit_of_not_isBlank clock _ hblank

/-! ## Where entries come from -/

/-- **The submission that an entry comes from**: among the events is one that submitted `line`, its
turn is `first`, and `i` lines were recorded since. -/
def Origin (s : Session) (events : List Event) (i : Nat) (clock : ClockAnswer) (line : Text)
    (first : Turn) : Prop :=
  ∃ before e after, events = before ++ e :: after ∧
    (s.run before).use e = .submission clock line ∧ first = (s.run before).answer e ∧
    (first.session.chronicle after).log.length = i

/-- It is still there after one more event, and farther back if that recorded a line. -/
theorem Origin.append {s : Session} {events : List Event} {i : Nat} {clock : ClockAnswer}
    {line : Text} {first : Turn} (h : s.Origin events i clock line first) (e : Event) :
    s.Origin (events ++ [e]) (((s.run events).use e).recorded?.toList.length + i) clock line
      first := by
  obtain ⟨before, e₀, after, rfl, huse, rfl, hcount⟩ := h
  refine ⟨before, e₀, after ++ [e], by simp, huse, rfl, ?_⟩
  rw [chronicle_append_singleton, Chronicle.log_after, List.length_append, hcount, run_append,
    run_cons]

/-- **Every recorded line has its origin.** -/
theorem exists_origin {s : Session} {events : List Event} {i : Nat} {text : Text}
    (h : (s.chronicle events).log[i]? = some text) :
    ∃ clock line first, s.Origin events i clock line first ∧ line.isBlank = false ∧
      line.trim = text := by
  induction events using List.reverseRecOn generalizing i with
  | nil => cases h
  | append_singleton events e ih =>
    rw [chronicle_append_singleton, Chronicle.log_after] at h
    have happend {j : Nat} (hj : (s.chronicle events).log[j]? = some text) :
        ∃ clock line first,
          s.Origin (events ++ [e]) (((s.run events).use e).recorded?.toList.length + j) clock line
            first ∧ line.isBlank = false ∧ line.trim = text := by
      obtain ⟨clock, line, first, horigin, hline⟩ := ih hj
      exact ⟨clock, line, first, horigin.append e, hline⟩
    cases hrec : ((s.run events).use e).recorded? with
    | none =>
      rw [hrec] at h happend
      simpa using happend h
    | some newest =>
      rw [hrec] at h happend
      cases i with
      | zero =>
        -- the last event submitted it
        obtain rfl : newest = text := Option.some.inj h
        obtain ⟨clock, line, huse, hline⟩ := Use.recorded?_eq_some_iff.1 hrec
        exact ⟨clock, line, _, ⟨events, e, [], rfl, huse, rfl, rfl⟩, hline⟩
      | succ j => simpa [Nat.add_comm] using happend h

/-! ## Submitting again -/

/-- **An entry that is recalled and submitted again goes the way it went.** In any session that is
reached and not browsing, the entry after `i` newer ones comes from a submission. As many steps
back as lead to it, and Enter, have the outcome of that submission, and ask for the same page
change. The entry is shown again and answered by one request to the display, which is the same if
the clock gives the same answer. It is recorded once more, and the browsing is over.

Altogether, the outcome of a submission and the requests that come from it depend only on the line
without the blanks around it, on the place and on the clock. -/
theorem resubmission (place : Place) (events : List Event) (i : Nat) (entry : Text)
    (hcursor : ((start place).run events).history.cursor = none)
    (hentry : ((start place).run events).history.entries[i]? = some entry) :
    (∃ clock line first, (start place).Origin events i clock line first ∧ line.isBlank = false ∧
      line.trim = entry ∧
      ∀ upClock clock',
        let s := (start place).run events
        let again := (s.run (List.replicate (i + 1) (.press upClock .up))).press clock' .enter
        again.outcome = first.outcome ∧
        again.travel = first.travel ∧
        (∃ answer, again.display = [.input [] 0, .echo entry, answer]) ∧
        (clock' = clock → again.display = first.display) ∧
        again.session.history = ⟨(entry :: s.history.entries).take 100, none⟩) ∧
    ∀ (s s' : Session) (line line' : Text) (clock : ClockAnswer), s.place = s'.place →
      line.trim = line'.trim →
      (s.submit clock line).outcome = (s'.submit clock line').outcome ∧
      (s.submit clock line).display = (s'.submit clock line').display ∧
      (s.submit clock line).travel = (s'.submit clock line').travel := by
  refine ⟨?_, fun s s' line line' clock hplace htrim => submit_congr hplace htrim clock⟩
  have hlog : ((start place).chronicle events).log[i]? = some entry := by
    rw [(describes_chronicle place events).entries_eq, Chronicle.window, List.getElem?_take,
      Option.ite_none_right_eq_some] at hentry
    exact hentry.2
  obtain ⟨clock, line, first, horigin, hblank, htrim⟩ := exists_origin hlog
  refine ⟨clock, line, first, horigin, hblank, htrim, fun upClock clock' => ?_⟩
  -- the entry has no blanks around it, so it is what was submitted
  have htrim' : entry.trim = line.trim := by rw [← htrim, Text.trim_trim]
  have hblank' : entry.isBlank = false := by rw [← htrim, Text.isBlank_trim, hblank]
  obtain ⟨before, e, after, -, huse, rfl, -⟩ := horigin
  obtain ⟨houtcome, hdisplay, htravel⟩ := submit_congr
    ((place_run place events).trans (place_run place before).symm) htrim' clock'
  dsimp only
  rw [press_enter_run_up upClock clock' hcursor hentry hblank', (answers_of_use huse).eq_submit]
  refine ⟨houtcome.trans (outcome_submit _ _ _ _),
    htravel.trans (travel_submit _ _ _ _), ?_, ?_, ?_⟩
  · obtain ⟨answer, hanswer, -⟩ := (Place.respond_orderly _ clock' hblank').display
    rw [submit_of_not_isBlank clock' _ hblank', htrim', htrim, hanswer]
    exact ⟨answer, rfl⟩
  · rintro rfl
    exact hdisplay
  · rw [history_submit, hblank', htrim', htrim]
    rfl

/-- The older of two lines is recalled by two steps back. It is recorded without the blanks around
it, and leads to the same page again. -/
theorem resubmission_of_cd :
    let clock : ClockAnswer := .error (.platform [])
    let place : Place := ⟨.ofSettings .default, .home, 280⟩
    let events : List Event := [.submit clock " cd  about ".toList, .submit clock "ls".toList]
    let s := (start place).run events
    let again := (s.run (List.replicate 2 (.press clock .up))).press clock .enter
    s.history.cursor = none ∧ s.history.entries[1]? = some "cd  about".toList ∧
      (∃ clock' line first, (start place).Origin events 1 clock' line first ∧
        again.outcome = first.outcome ∧ again.travel = first.travel) ∧
      again.outcome = some (.navigating .about) ∧
      again.session.history.entries = ["cd  about".toList, "ls".toList, "cd  about".toList] := by
  intro clock place events s again
  have hcursor : s.history.cursor = none := by decide +kernel
  have hentry : s.history.entries[1]? = some "cd  about".toList := by decide +kernel
  obtain ⟨clock', line, first, horigin, -, -, hagain⟩ :=
    (resubmission place events 1 _ hcursor hentry).1
  obtain ⟨houtcome, htravel, -⟩ := hagain clock clock
  exact ⟨hcursor, hentry, ⟨clock', line, first, horigin, houtcome, htravel⟩, by decide +kernel,
    by decide +kernel⟩

end Session

end PageShell
