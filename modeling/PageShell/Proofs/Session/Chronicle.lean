import PageShell.Proofs.Session.Turns

/-!
# The history is a window on what was submitted

A history forgets: it keeps the newest lines, and of browsing only whether and
where the visitor is. A *chronicle* does not. It has all lines that were ever
recorded, and an integer that counts the steps back.

* `Session.Use`, `Session.use` — what an event means for the history;
* `Session.Answers` — what a session answers then;
* `Chronicle`, `Chronicle.after` — the full record, and how it goes on;
* `Chronicle.Describes` — a history is the window on a chronicle;
* `Session.describes_chronicle` — **every session's history is the window on
  its chronicle**;
* `Session.history_is_window` — so the entries, the cursor and whatever is
  recalled are told by the events alone.
-/

namespace PageShell

/-! ## What events mean for the history -/

/-- **What an event means for the history.** -/
inductive Session.Use where
  /-- a line is submitted, while the clock would give this answer -/
  | submission (clock : ClockAnswer) (line : Text)
  /-- an older line is recalled -/
  | older
  /-- a newer line is recalled -/
  | newer
  /-- the history has nothing to do with it -/
  | other

namespace Session

/-- What an event means for the history of a session. Only the line may depend on the session. -/
def use (s : Session) : Event → Use
  | .press clock .enter => .submission clock s.line
  | .press _ .up => .older
  | .press _ .down => .newer
  | .press _ _ => .other
  | .submit clock line => .submission clock line
  | .submitLine clock => .submission clock s.line
  | .complete => .other
  | .recallOlder => .older
  | .recallNewer => .newer

/-- The line that is recorded, if any: a submitted one without the blanks around it. -/
def Use.recorded? : Use → Option Text
  | .submission _ line => if line.isBlank then none else some line.trim
  | _ => none

theorem Use.recorded?_eq_some_iff {u : Use} {text : Text} :
    u.recorded? = some text ↔
      ∃ clock line, u = .submission clock line ∧ line.isBlank = false ∧ line.trim = text := by
  cases u with
  | submission clock line => cases hb : line.isBlank <;> simp [recorded?, hb]
  | _ => simp [recorded?]

/-- **What a session answers**, by what the event means for the history. -/
inductive Answers (s : Session) : Use → Turn → Prop where
  /-- the turn of a submission -/
  | submission (clock : ClockAnswer) (line : Text) :
    Answers s (.submission clock line) (s.submit clock line)
  /-- the turn of a step back -/
  | older : Answers s .older s.recallOlder
  /-- the turn of a step forth -/
  | newer : Answers s .newer s.recallNewer
  /-- any turn that leaves the history as it is -/
  | other {t : Turn} (keeps : t.session.history = s.history) : Answers s .other t

section Answers

variable {s : Session}

theorem history_insert (c : Char) : (s.insert c).session.history = s.history := by
  rw [insert]
  split <;> rfl

theorem history_backspace : s.backspace.session.history = s.history := by
  rw [backspace]
  split <;> rfl

theorem history_delete : s.delete.session.history = s.history := by
  rw [delete]
  split <;> rfl

theorem history_complete : s.complete.session.history = s.history := by
  rw [complete]
  split <;> rfl

theorem answers_of_use {e : Event} {u : Use} (h : s.use e = u) : s.Answers u (s.answer e) := by
  subst h
  cases e with
  | press clock key =>
    cases key with
    | enter => exact .submission clock s.line
    | up => exact .older
    | down => exact .newer
    | tab => exact .other history_complete
    | char c => exact .other (history_insert c)
    | backspace => exact .other history_backspace
    | delete => exact .other history_delete
    | left | right | lineStart | lineEnd | toggleTheme | quit => exact .other rfl
  | submit clock line => exact .submission clock line
  | submitLine clock => exact .submission clock s.line
  | complete => exact .other history_complete
  | recallOlder => exact .older
  | recallNewer => exact .newer

variable {t : Turn}

theorem Answers.eq_submit {clock : ClockAnswer} {line : Text}
    (h : s.Answers (.submission clock line) t) : t = s.submit clock line := by
  cases h
  rfl

theorem Answers.eq_recallOlder (h : s.Answers .older t) : t = s.recallOlder := by
  cases h
  rfl

theorem Answers.eq_recallNewer (h : s.Answers .newer t) : t = s.recallNewer := by
  cases h
  rfl

theorem Answers.history_eq (h : s.Answers .other t) : t.session.history = s.history := by
  cases h with
  | other keeps => exact keeps

end Answers

/-- What a submission leaves in the history. -/
theorem history_submit (clock : ClockAnswer) (line : Text) (s : Session) :
    (s.submit clock line).session.history =
      if line.isBlank then s.history else s.history.record line.trim := by
  split
  · next hb => rw [submit_of_isBlank clock s hb]; rfl
  · next hb => rw [submit_of_not_isBlank clock s (by simpa using hb)]

end Session

/-! ## Places -/

namespace History

/-- The place of the recalled line as an integer, `-1` while none is recalled. -/
def place (h : History) : Int :=
  match h.cursor with
  | none => -1
  | some i => i

theorem cursor_eq_none_iff {h : History} : h.cursor = none ↔ h.place = -1 := by
  rw [place]
  cases h.cursor <;> simp

theorem cursor_eq_some_iff {h : History} {i : Nat} : h.cursor = some i ↔ h.place = i := by
  rw [place]
  cases h.cursor with
  | none => simp
  | some j => exact Option.some_inj.trans Int.ofNat_inj.symm

/-- A step back goes on by one, up to the oldest line. -/
theorem olderPlace_eq {h : History} (hne : h.entries ≠ []) :
    (h.olderPlace : Int) = min (h.place + 1) (h.entries.length - 1) := by
  have hpos : 0 < h.entries.length := List.length_pos_iff.2 hne
  rw [olderPlace, place]
  cases h.cursor with
  | none => simp only; omega
  | some i => simp only; omega

/-- Nothing is recalled from an empty history. -/
theorem older_of_nil {h : History} (hnil : h.entries = []) : h.older = (none, h) := by
  rw [older, if_pos (List.isEmpty_iff.2 hnil)]

/-- What a step back recalls. -/
theorem exists_older {h : History} (hne : h.entries ≠ []) :
    ∃ line, h.entries[h.olderPlace]? = some line ∧
      h.older = (some line, ⟨h.entries, some h.olderPlace⟩) := by
  refine ⟨_, List.getElem?_eq_getElem (olderPlace_lt hne), ?_⟩
  rw [older, if_neg (by simpa using hne), List.getElem?_eq_getElem (olderPlace_lt hne)]

/-- A step forth from the newest line, or from none, leads out of the history. -/
theorem newer_of_place_le {h : History} (hle : h.place ≤ 0) :
    h.newer = ([], ⟨h.entries, none⟩) := by
  rw [newer]
  split
  · next i hcursor =>
    rw [cursor_eq_some_iff] at hcursor
    omega
  · rfl

/-- A step forth from any other line leads to the one before. -/
theorem newer_of_place_eq {h : History} {i : Nat} (hplace : h.place = (i + 1 : Nat)) :
    h.newer = (h.entries[i]?.getD [], ⟨h.entries, some i⟩) := by
  rw [newer, cursor_eq_some_iff.2 hplace]

end History

/-! ## Chronicles -/

/-- **The full record of a session.** -/
structure Chronicle where
  /-- all lines that were recorded, newest first -/
  log : List Text
  /-- the place of the recalled line, or `-1` while none is recalled -/
  place : Int
  deriving DecidableEq, Repr

namespace Chronicle

/-- The chronicle of a session to which nothing happened yet. -/
def blank : Chronicle :=
  ⟨[], -1⟩

/-- The lines that are not forgotten. -/
def window (c : Chronicle) : List Text :=
  c.log.take maxHistory

/-- **How a chronicle goes on.** A line that is not blank is recorded without the blanks around it,
and ends the browsing. A step back stops at the oldest line of the window, a step forth at `-1`. -/
def after (c : Chronicle) : Session.Use → Chronicle
  | .submission _ line => if line.isBlank then c else ⟨line.trim :: c.log, -1⟩
  | .older =>
    if c.window = [] then c else { c with place := min (c.place + 1) (c.window.length - 1) }
  | .newer => { c with place := max (c.place - 1) (-1) }
  | .other => c

theorem log_after (c : Chronicle) (u : Session.Use) :
    (c.after u).log = u.recorded?.toList ++ c.log := by
  cases u with
  | submission clock line => cases hb : line.isBlank <;> simp [after, Session.Use.recorded?, hb]
  | older =>
    rw [after]
    split <;> rfl
  | _ => rfl

/-- **A history is the window on a chronicle.** -/
structure Describes (c : Chronicle) (h : History) : Prop where
  /-- the entries are the lines that are not forgotten -/
  entries_eq : h.entries = c.window
  /-- the cursor is at the place of the recalled line -/
  place_eq : h.place = c.place
  /-- the recalled line is one of the window -/
  place_lt : c.place < c.window.length

theorem describes_blank : blank.Describes .empty :=
  ⟨rfl, rfl, by decide⟩

variable {c : Chronicle} {h : History}

/-- Browsing forgets nothing. -/
theorem window_after_older : (c.after .older).window = c.window :=
  congrArg (List.take maxHistory) (c.log_after .older)

/-- The line that is recorded comes first, and only the window counts for what is forgotten. -/
theorem Describes.record (hd : c.Describes h) (line : Text) :
    Describes ⟨line :: c.log, -1⟩ (h.record line) where
  entries_eq := by
    rw [History.record, hd.entries_eq, window, window]
    simp [maxHistory, List.take_take]
  place_eq := rfl
  place_lt := by
    show (-1 : Int) < _
    omega

/-- **A step back** recalls the line at the place it leads to. -/
theorem Describes.older (hd : c.Describes h) (hne : c.window ≠ []) :
    (c.after .older).Describes h.older.2 ∧
      ∃ (i : Nat) (line : Text), (c.after .older).place = i ∧ c.window[i]? = some line ∧
        h.older = (some line, ⟨h.entries, some i⟩) := by
  have hentries : h.entries ≠ [] := hd.entries_eq ▸ hne
  obtain ⟨line, hline, holder⟩ := History.exists_older hentries
  have hplace : (c.after .older).place = h.olderPlace := by
    rw [after, if_neg hne, History.olderPlace_eq hentries, hd.place_eq, hd.entries_eq]
  have hlt := History.olderPlace_lt hentries
  rw [hd.entries_eq] at hline hlt
  refine ⟨?_, _, line, hplace, hline, holder⟩
  rw [holder]
  refine ⟨hd.entries_eq.trans window_after_older.symm, hplace.symm, ?_⟩
  rw [hplace, window_after_older]
  exact Int.ofNat_lt.2 hlt

/-- **A step forth** recalls the line at the place it leads to, or nothing at `-1`. -/
theorem Describes.newer (hd : c.Describes h) :
    (c.after .newer).Describes h.newer.2 ∧
      (((c.after .newer).place = -1 ∧ h.newer.1 = []) ∨
        ∃ i : Nat, (c.after .newer).place = i ∧ c.window[i]? = some h.newer.1) := by
  have hlt := hd.place_lt
  by_cases hle : c.place ≤ 0
  · have hplace : (c.after .newer).place = -1 := by
      show max (c.place - 1) (-1) = -1
      omega
    rw [History.newer_of_place_le (hd.place_eq.trans_le hle)]
    refine ⟨⟨hd.entries_eq, hplace.symm, ?_⟩, .inl ⟨hplace, rfl⟩⟩
    rw [hplace]
    omega
  · obtain ⟨i, hi⟩ : ∃ i : Nat, c.place = (i + 1 : Nat) := ⟨(c.place - 1).toNat, by omega⟩
    have hplace : (c.after .newer).place = i := by
      show max (c.place - 1) (-1) = (i : Int)
      omega
    have hline : c.window[i]? = some c.window[i] := List.getElem?_eq_getElem (by omega)
    rw [History.newer_of_place_eq (hd.place_eq.trans hi), hd.entries_eq, hline]
    refine ⟨⟨rfl, hplace.symm, ?_⟩, .inr ⟨i, hplace, hline⟩⟩
    show (c.after .newer).place < (c.window.length : Int)
    omega

end Chronicle

/-! ## Sessions and their chronicles -/

namespace Session

/-- The chronicle after several events, of a session that had one before. -/
def chronicleFrom (c : Chronicle) (s : Session) : List Event → Chronicle
  | [] => c
  | e :: rest => chronicleFrom (c.after (s.use e)) (s.answer e).session rest

/-- **The chronicle of several events.** -/
def chronicle (s : Session) (events : List Event) : Chronicle :=
  chronicleFrom .blank s events

theorem chronicleFrom_append (c : Chronicle) (s : Session) (first rest : List Event) :
    chronicleFrom c s (first ++ rest)
      = chronicleFrom (chronicleFrom c s first) (s.run first) rest := by
  induction first generalizing c s with
  | nil => rfl
  | cons e first ih => exact ih _ _

theorem chronicle_append_singleton (s : Session) (events : List Event) (e : Event) :
    s.chronicle (events ++ [e]) = (s.chronicle events).after ((s.run events).use e) :=
  chronicleFrom_append .blank s events [e]

/-- **The input is what is recalled**: the line at the place of the chronicle,
or nothing at `-1`. -/
structure Recalls (c : Chronicle) (s : Session) : Prop where
  /-- the line is the one at the place, if there is one -/
  line_eq : (c.place = -1 ∧ s.line = []) ∨ ∃ i : Nat, c.place = i ∧ c.window[i]? = some s.line
  /-- the caret is behind it -/
  caret_eq : s.caret = s.line.length

variable {c : Chronicle} {s : Session}

theorem recallOlder_of_nil (hnil : s.history.entries = []) : s.recallOlder = s.still := by
  rw [recallOlder, History.older_of_nil hnil]

theorem recalls_older (hd : c.Describes s.history) (hne : c.window ≠ []) :
    0 ≤ (c.after .older).place ∧ (s.recallOlder.session).Recalls (c.after .older) := by
  obtain ⟨-, i, line, hplace, hline, holder⟩ := hd.older hne
  rw [recallOlder, holder]
  refine ⟨by omega, .inr ⟨i, hplace, ?_⟩, Nat.min_self _⟩
  rw [Chronicle.window_after_older]
  exact hline

theorem recalls_newer (hd : c.Describes s.history) :
    (s.recallNewer.session).Recalls (c.after .newer) :=
  ⟨hd.newer.2, Nat.min_self _⟩

/-- **Every answer goes on in the session as its event does in the chronicle.** -/
theorem Answers.describes {u : Use} {t : Turn} (h : s.Answers u t) (hd : c.Describes s.history) :
    (c.after u).Describes t.session.history := by
  cases h with
  | submission clock line =>
    rw [history_submit, Chronicle.after]
    split
    · exact hd
    · exact hd.record line.trim
  | older =>
    by_cases hnil : c.window = []
    · rw [recallOlder_of_nil (hd.entries_eq.trans hnil), Chronicle.after, if_pos hnil]
      exact hd
    · obtain ⟨hafter, i, line, -, -, holder⟩ := hd.older hnil
      rw [recallOlder]
      rw [holder] at hafter ⊢
      exact hafter
  | newer => exact hd.newer.1
  | other keeps =>
    rw [keeps]
    exact hd

theorem describes_chronicleFrom (hd : c.Describes s.history) (events : List Event) :
    (chronicleFrom c s events).Describes (s.run events).history := by
  induction events generalizing c s with
  | nil => exact hd
  | cons e rest ih => exact ih ((answers_of_use rfl).describes hd)

/-- **The history of every session that is reached is the window on its chronicle.** -/
theorem describes_chronicle (place : Place) (events : List Event) :
    ((start place).chronicle events).Describes ((start place).run events).history :=
  describes_chronicleFrom Chronicle.describes_blank events

/-- **The history is a window on what was submitted.** After any run of a session, its entries are
the newest hundred of all lines that were ever recorded, and its cursor is at the place that the
steps back and forth lead to. One more event goes on like that: keys that edit the line, Tab, and
blank lines leave the history as it is; a step back or forth puts the line at its place into the
input, with the caret behind it; there is nothing to step back to in an empty history, and nothing
in the input once all steps back are taken back. -/
theorem history_is_window (place : Place) (events : List Event) :
    let s := (start place).run events
    let c := (start place).chronicle events
    s.history.entries = c.log.take 100 ∧
    (s.history.cursor = none ↔ c.place = -1) ∧
    (∀ i : Nat, s.history.cursor = some i ↔ c.place = i) ∧
    ∀ e,
      let s' := (s.answer e).session
      let c' := (start place).chronicle (events ++ [e])
      c' = c.after (s.use e) ∧
      (s.use e = .other ∨ (∃ clock line, s.use e = .submission clock line ∧ line.isBlank = true) →
        s'.history = s.history) ∧
      (s.use e = .older → s.history.entries = [] → s'.line = s.line ∧ s'.caret = s.caret) ∧
      (s.use e = .older → s.history.entries ≠ [] → 0 ≤ c'.place ∧ s'.Recalls c') ∧
      (s.use e = .newer → s'.Recalls c') := by
  intro s c
  have hd : c.Describes s.history := describes_chronicle place events
  refine ⟨hd.entries_eq, ?_, fun i => ?_, fun e => ?_⟩
  · rw [History.cursor_eq_none_iff, hd.place_eq]
  · rw [History.cursor_eq_some_iff, hd.place_eq]
  · intro s' c'
    have hnext : c' = c.after (s.use e) := chronicle_append_singleton (start place) events e
    refine ⟨hnext, ?_, fun huse hnil => ?_, fun huse hne => ?_, fun huse => ?_⟩
    · rintro (huse | ⟨clock, line, huse, hblank⟩)
      · exact (answers_of_use huse).history_eq
      · show (s.answer e).session.history = s.history
        rw [(answers_of_use huse).eq_submit, history_submit, if_pos hblank]
    · show (s.answer e).session.line = s.line ∧ (s.answer e).session.caret = s.caret
      rw [(answers_of_use huse).eq_recallOlder, recallOlder_of_nil hnil]
      exact ⟨rfl, rfl⟩
    · show 0 ≤ c'.place ∧ (s.answer e).session.Recalls c'
      rw [hnext, huse, (answers_of_use huse).eq_recallOlder]
      exact recalls_older hd (hd.entries_eq ▸ hne)
    · show (s.answer e).session.Recalls c'
      rw [hnext, huse, (answers_of_use huse).eq_recallNewer]
      exact recalls_newer hd

end Session

end PageShell
