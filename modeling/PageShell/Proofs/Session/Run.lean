import PageShell.Proofs.Submission

/-!
# Runs of a session

A *console* is a session with the scrollback that shows it. What happens to a
console is one of a few events, in any order and for any time. The text of the
input is kept twice, once by the session and once by the scrollback; what is
drawn comes from the one copy, and what is submitted from the other.

* `Session.Event`, `Session.answer` — what can happen, and the turn it leads to;
* `Session.Leads` — the few shapes that a turn can have;
* `Console`, `Console.run` — a session with its scrollback, and what becomes of
  them;
* `History.Sound` — what every history keeps to;
* `Console.Faithful` — the two copies agree, and all else is in order;
* `Console.faithful_run` — **every run of a new console is faithful.**
-/

namespace PageShell

/-! ## Histories -/

/-- **What a history keeps to.** -/
structure History.Sound (h : History) : Prop where
  /-- it is not too long -/
  length_le : h.entries.length ≤ maxHistory
  /-- the recalled line is one of its lines -/
  cursor_lt : ∀ i, h.cursor = some i → i < h.entries.length
  /-- no line is blank, or has blanks around it -/
  trimmed : ∀ line ∈ h.entries, line.isBlank = false ∧ line.trim = line

namespace History

theorem sound_empty : empty.Sound where
  length_le := Nat.zero_le _
  cursor_lt _ h := by cases h
  trimmed _ h := by cases h

theorem Sound.record {h : History} (hs : h.Sound) {line : Text} (hb : line.isBlank = false)
    (ht : line.trim = line) : (h.record line).Sound where
  length_le := List.length_take_le _ _
  cursor_lt _ h := by cases h
  trimmed l hl := by
    rcases List.mem_cons.1 (List.mem_of_mem_take hl) with rfl | hl
    · exact ⟨hb, ht⟩
    · exact hs.trimmed l hl

/-- A step back leads to a line of the history, unless it has none. -/
theorem olderPlace_lt {h : History} (hne : h.entries ≠ []) :
    h.olderPlace < h.entries.length := by
  have hpos : 0 < h.entries.length := List.length_pos_iff.2 hne
  rw [olderPlace]
  split
  · exact hpos
  · omega

theorem Sound.older {h : History} (hs : h.Sound) : h.older.2.Sound := by
  rw [History.older]
  split
  · exact hs
  · next hne =>
    refine { hs with cursor_lt := ?_ }
    intro i hi
    obtain rfl : h.olderPlace = i := Option.some.inj hi
    exact olderPlace_lt (by simpa using hne)

theorem Sound.newer {h : History} (hs : h.Sound) : h.newer.2.Sound := by
  rw [History.newer]
  split
  · next i hcursor =>
    refine { hs with cursor_lt := ?_ }
    intro j hj
    obtain rfl : i = j := Option.some.inj hj
    have := hs.cursor_lt _ hcursor
    dsimp only
    omega
  · refine { hs with cursor_lt := ?_ }
    intro i hi
    cases hi

end History

/-! ## Events -/

namespace Session

/-- **What can happen to a session.** Every submission comes with what the clock answers, should
it be asked. -/
inductive Event where
  /-- a key is pressed -/
  | press (clock : ClockAnswer) (key : Key)
  /-- a line is submitted -/
  | submit (clock : ClockAnswer) (line : Text)
  /-- the line being typed is submitted -/
  | submitLine (clock : ClockAnswer)
  /-- the word at the caret is to be completed -/
  | complete
  /-- an older line is to be recalled -/
  | recallOlder
  /-- a newer line is to be recalled -/
  | recallNewer

/-- The turn that an event leads to. -/
def answer (s : Session) : Event → Turn
  | .press clock key => s.press clock key
  | .submit clock line => s.submit clock line
  | .submitLine clock => s.submit clock s.line
  | .complete => s.complete
  | .recallOlder => s.recallOlder
  | .recallNewer => s.recallNewer

/-- **What an event can lead to.** All that a session does is one of these. -/
inductive Leads (s : Session) : Turn → Prop where
  /-- nothing happens -/
  | still : Leads s s.still
  /-- the line is replaced, perhaps by one of the history -/
  | replace {history : History} (line : Text) (caret : Nat)
      (hsound : s.history.Sound → history.Sound) :
      Leads s ({ s with history := history }.setLine line caret)
  /-- a line is submitted -/
  | submit (clock : ClockAnswer) (line : Text) : Leads s (s.submit clock line)
  /-- lines are shown -/
  | shows (lines : List Text) : Leads s ⟨s, none, [.append lines .normal], []⟩

section Leads

variable (s : Session)

/-- The keys that edit the line replace it. -/
theorem leads_setLine (line : Text) (caret : Nat) : s.Leads (s.setLine line caret) :=
  .replace line caret id

theorem leads_insert (c : Char) : s.Leads (s.insert c) := by
  rw [insert]
  split
  · exact .still
  · exact s.leads_setLine _ _

theorem leads_backspace : s.Leads s.backspace := by
  rw [backspace]
  split
  · exact .still
  · exact s.leads_setLine _ _

theorem leads_delete : s.Leads s.delete := by
  rw [delete]
  split
  · exact .still
  · exact s.leads_setLine _ _

theorem leads_complete : s.Leads s.complete := by
  rw [complete]
  split
  · exact .still
  · exact s.leads_setLine _ _
  · exact .shows _

theorem leads_recallOlder : s.Leads s.recallOlder := by
  rw [recallOlder]
  split
  · exact .still
  · next line history holder =>
    refine .replace line line.length fun hs => ?_
    have hsound := hs.older
    rw [holder] at hsound
    exact hsound

theorem leads_recallNewer : s.Leads s.recallNewer :=
  .replace _ _ fun hs => hs.newer

theorem leads_press (clock : ClockAnswer) (key : Key) : s.Leads (s.press clock key) := by
  cases key with
  | enter => exact .submit clock s.line
  | tab => exact s.leads_complete
  | up => exact s.leads_recallOlder
  | down => exact s.leads_recallNewer
  | left => exact s.leads_setLine _ _
  | right => exact s.leads_setLine _ _
  | lineStart => exact s.leads_setLine _ _
  | lineEnd => exact s.leads_setLine _ _
  | backspace => exact s.leads_backspace
  | delete => exact s.leads_delete
  | char c => exact s.leads_insert c
  | toggleTheme => exact .still
  | quit => exact .still

theorem leads_answer (e : Event) : s.Leads (s.answer e) := by
  cases e with
  | press clock key => exact s.leads_press clock key
  | submit clock line => exact .submit clock line
  | submitLine clock => exact .submit clock s.line
  | complete => exact s.leads_complete
  | recallOlder => exact s.leads_recallOlder
  | recallNewer => exact s.leads_recallNewer

variable {s} {turn : Turn}

/-- **A session stays at its place**: only another session is on another page. -/
theorem Leads.place_eq (h : s.Leads turn) : turn.session.place = s.place := by
  cases h with
  | still => rfl
  | replace line caret => rfl
  | submit clock line =>
    by_cases hb : line.isBlank = true
    · rw [submit_of_isBlank clock s hb]
      rfl
    · rw [submit_of_not_isBlank clock s (by simpa using hb)]
      rfl
  | shows lines => rfl

/-- The timer is asked for what the outcome says, and for nothing without one. -/
theorem Leads.travel_eq (h : s.Leads turn) :
    turn.travel = (turn.outcome.map s.place.travelFor).getD [] := by
  cases h with
  | still => rfl
  | replace line caret => rfl
  | submit clock line =>
    obtain ⟨o, ho, ht⟩ := submit_travel clock line s
    rw [ho, ht]
    rfl
  | shows lines => rfl

end Leads

end Session

/-! ## Consoles -/

/-- **A session with the scrollback that shows it.** -/
structure Console where
  /-- the session -/
  session : Session
  /-- its output and its input line -/
  scrollback : Scrollback

namespace Console

/-- A new session with an empty scrollback for a number of lines. -/
def start (place : Place) (maxLines : Nat) : Console :=
  ⟨.start place, .empty maxLines⟩

/-- The console after a turn of its session. -/
def follow (turn : Turn) (c : Console) : Console :=
  ⟨turn.session, c.scrollback.applyAll turn.display⟩

/-- The console after an event. -/
def step (c : Console) (e : Session.Event) : Console :=
  c.follow (c.session.answer e)

/-- The console after several events. -/
def run (c : Console) (events : List Session.Event) : Console :=
  events.foldl step c

/-- **What is drawn is what will be submitted**, and all else is in order: the caret is in the
line, the session waits for keys, and the history is sound. -/
structure Faithful (c : Console) : Prop where
  /-- the line that is drawn is the session's -/
  input_eq : c.scrollback.input = c.session.line
  /-- the caret is drawn where the session has it -/
  caret_eq : c.scrollback.caret = c.session.caret
  /-- the caret is in the line, or at its end -/
  caret_le : c.session.caret ≤ c.session.line.length
  /-- no command is being carried out -/
  idle : c.session.phase = .idle
  /-- the history is sound -/
  history : c.session.history.Sound

theorem faithful_start (place : Place) (maxLines : Nat) : (start place maxLines).Faithful where
  input_eq := rfl
  caret_eq := rfl
  caret_le := Nat.le_refl _
  idle := rfl
  history := History.sound_empty

variable {c : Console}

/-- Replacing the line brings the two copies together, whatever they were before. -/
theorem faithful_follow_setLine {s : Session} (hi : s.phase = .idle) (hh : s.history.Sound)
    (line : Text) (caret : Nat) : (c.follow (s.setLine line caret)).Faithful where
  input_eq := rfl
  caret_eq := Nat.min_eq_left (Nat.min_le_right _ _)
  caret_le := Nat.min_le_right _ _
  idle := hi
  history := hh

namespace Faithful

/-- Output does not touch the input. -/
theorem follow_append (h : c.Faithful) (lines : List Text) (style : LineStyle) :
    (c.follow ⟨c.session, none, [.append lines style], []⟩).Faithful :=
  { h with input_eq := h.input_eq, caret_eq := h.caret_eq }

theorem follow_submit (h : c.Faithful) (clock : ClockAnswer) (line : Text) :
    (c.follow (c.session.submit clock line)).Faithful := by
  by_cases hb : line.isBlank = true
  · rw [Session.submit_of_isBlank clock _ hb]
    exact faithful_follow_setLine h.idle h.history [] 0
  · have hnb : line.isBlank = false := by simpa using hb
    have htrim : line.trim.isBlank = false := by rwa [Text.isBlank_trim]
    have hr := c.session.place.respond_orderly clock htrim
    obtain ⟨answer, hdisplay, hclear, happend⟩ := hr.display
    rw [Session.submit_of_not_isBlank clock _ hnb, hdisplay]
    -- the input is emptied on both sides, and none of the later requests is for the input
    have hinput : ∀ shown : Scrollback, (shown.apply answer).input = shown.input ∧
        (shown.apply answer).caret = shown.caret := by
      intro shown
      by_cases hran : (c.session.place.respond clock line.trim).outcome = .ran .clear
      · rw [hclear.2 hran]
        exact ⟨rfl, rfl⟩
      · obtain ⟨lines, style, rfl, -⟩ := happend hran
        exact ⟨rfl, rfl⟩
    refine ⟨(hinput _).1, (hinput _).2, Nat.le_refl _, rfl, ?_⟩
    exact h.history.record htrim (Text.trim_trim line)

/-- Whatever an event leads to keeps a console faithful. -/
theorem follow (h : c.Faithful) {turn : Turn} (hl : c.session.Leads turn) :
    (c.follow turn).Faithful := by
  cases hl with
  | still => exact h
  | replace line caret hsound =>
    refine faithful_follow_setLine ?_ ?_ line caret
    · exact h.idle
    · exact hsound h.history
  | submit clock line => exact h.follow_submit clock line
  | shows lines => exact h.follow_append lines .normal

/-- Every event keeps a console faithful. -/
theorem step (h : c.Faithful) (e : Session.Event) : (c.step e).Faithful :=
  h.follow (c.session.leads_answer e)

/-- So do several events. -/
theorem run (h : c.Faithful) (events : List Session.Event) : (c.run events).Faithful := by
  induction events generalizing c with
  | nil => exact h
  | cons e rest ih => exact ih (h.step e)

end Faithful

/-- A run of a session stays at its place. -/
theorem place_run (c : Console) (events : List Session.Event) :
    (c.run events).session.place = c.session.place := by
  induction events generalizing c with
  | nil => rfl
  | cons e rest ih => exact (ih (c.step e)).trans (c.session.leads_answer e).place_eq

/-- **Every run of a new console is faithful.** -/
theorem faithful_run (place : Place) (maxLines : Nat) (events : List Session.Event) :
    ((start place maxLines).run events).Faithful :=
  (faithful_start place maxLines).run events

end Console

end PageShell
