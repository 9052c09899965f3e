import Mathlib.Data.List.Induction
import PageShell.Proofs.Travel

/-!
# Batches of page changes

The timer may be called in any order. The points in time need not grow, a poll
may come early or late, and the page changes that were asked for last may be
due first. Those that were asked for since a poll was answered are a *batch*,
and the next answer takes one of them and ends the batch.

* `Timer.Call`, `Timer.call`, `Timer.log` — calls of the timer, with answers;
* `Timer.batch` — the batch after such calls, told by the calls and the answers
  alone;
* `Timer.pending_callAll` — **the timer holds the batch**, and nothing else;
* `Timer.log_append_answer`, `Timer.batch_append_answer` — an answer ends it;
* `Timer.answers_sublist` — every page change is carried out once at most;
* `Timer.answer_of_batch` — **what a poll answers**, after any calls.
-/

namespace PageShell

namespace Timer

/-! ## Calls and their answers -/

/-- **A call of the timer.** -/
inductive Call where
  /-- a request at a point in time -/
  | request (now : Nat) (travel : Travel)
  /-- the question what is due at a point in time -/
  | poll (now : Nat)
  deriving DecidableEq, Repr

/-- The answer to a call, and the timer from then on. Only polls are answered. -/
def call (t : Timer) : Call → Option Text × Timer
  | .request now travel => (none, t.apply now travel)
  | .poll now => t.poll now

/-- The timer after several calls. -/
def callAll (t : Timer) (calls : List Call) : Timer :=
  calls.foldl (fun t c => (t.call c).2) t

/-- **Calls with their answers**, in order. -/
def log (t : Timer) : List Call → List (Call × Option Text)
  | [] => []
  | c :: rest => (c, (t.call c).1) :: log (t.call c).2 rest

/-- The page change that a call asks for. -/
def Call.departure? : Call → Option Departure
  | .request now (.schedule destination delay) => some ⟨now + delay, destination⟩
  | .request _ .fadeOut => none
  | .poll _ => none

/-- **The batch**: the page changes that were asked for since the last answer. -/
def batch (entries : List (Call × Option Text)) : List Departure :=
  (entries.reverse.takeWhile (·.2.isNone)).reverse.filterMap (·.1.departure?)

section Log

variable (t : Timer) (first later : List Call)

theorem callAll_append : t.callAll (first ++ later) = (t.callAll first).callAll later :=
  List.foldl_append

theorem log_append : t.log (first ++ later) = t.log first ++ (t.callAll first).log later := by
  induction first generalizing t with
  | nil => rfl
  | cons c rest ih => rw [List.cons_append, log, ih, log, List.cons_append]; rfl

end Log

section Batch

variable {entries later : List (Call × Option Text)} {c : Call}

/-- A call without an answer adds to the batch what it asks for. -/
theorem batch_append_none :
    batch (entries ++ [(c, none)]) = batch entries ++ c.departure?.toList := by
  rw [batch, List.reverse_append, List.reverse_singleton, List.singleton_append,
    List.takeWhile_cons_of_pos rfl, List.reverse_cons, List.filterMap_append, batch]
  cases hc : c.departure? <;> simp [hc]

/-- **An answer ends the batch**: what was asked for before is in no later one. -/
theorem batch_append_answer {file : Text} :
    batch (entries ++ (c, some file) :: later) = batch later := by
  induction later using List.reverseRecOn with
  | nil =>
    rw [batch, List.reverse_append, List.reverse_singleton, List.singleton_append,
      List.takeWhile_cons_of_neg (by simp)]
    rfl
  | append_singleton later entry ih =>
    obtain ⟨c', _ | file'⟩ := entry
    · rw [← List.cons_append, ← List.append_assoc, batch_append_none, ih, batch_append_none]
    · simp [batch]

end Batch

/-! ## What the timer holds -/

/-- **The timer holds the batch**, in the order in which it was asked for. -/
theorem pending_callAll (calls : List Call) :
    (idle.callAll calls).pending = batch (idle.log calls) := by
  induction calls using List.reverseRecOn with
  | nil => rfl
  | append_singleton calls c ih =>
    rw [callAll_append, log_append]
    change ((idle.callAll calls).call c).2.pending =
      batch (idle.log calls ++ [(c, ((idle.callAll calls).call c).1)])
    generalize idle.callAll calls = t at ih
    cases c with
    | request now travel =>
      rw [call, batch_append_none, ← ih]
      cases travel with
      | fadeOut => exact (List.append_nil _).symm
      | schedule destination delay => rfl
    | poll now =>
      cases hanswer : (t.poll now).1 with
      | none =>
        rw [call, poll_of_none hanswer, batch_append_none, ← ih]
        exact (List.append_nil _).symm
      | some file =>
        rw [call, poll_of_some hanswer, batch_append_answer]
        rfl

/-- **After an answer** all goes on as with a new timer. -/
theorem log_append_answer {t : Timer} {past : List Call} {now : Nat} {file : Text}
    (h : ((t.callAll past).poll now).1 = some file) (later : List Call) :
    t.log (past ++ .poll now :: later) =
      t.log past ++ (.poll now, some file) :: idle.log later := by
  rw [log_append, log, call, poll_of_some h]

/-! ## What is carried out -/

/-- **Every page change is carried out once at most**, in the order in which they were asked for:
the answers name some of the departures that the timer held or was asked for. -/
theorem answers_sublist (t : Timer) (calls : List Call) :
    ((t.log calls).filterMap (·.2)).Sublist
      ((t.pending ++ calls.filterMap Call.departure?).map (·.destination)) := by
  induction calls generalizing t with
  | nil => exact List.nil_sublist _
  | cons c rest ih =>
    rw [log]
    cases c with
    | request now travel =>
      have hrest := ih (t.apply now travel)
      cases travel with
      | fadeOut => exact hrest
      | schedule destination delay =>
        rw [apply, schedule, List.append_assoc] at hrest
        exact hrest
    | poll now =>
      cases hanswer : (t.poll now).1 with
      | none =>
        have hrest := ih t
        rw [call, poll_of_none hanswer]
        exact hrest
      | some file =>
        obtain ⟨before, d, after, hsplit, rfl, -⟩ := poll_eq_some_iff.1 hanswer
        have hrest := (ih idle).trans (List.sublist_append_right (after.map (·.destination)) _)
        rw [call, poll_of_some hanswer, hsplit, List.append_assoc, List.map_append,
          List.cons_append, List.map_cons, List.map_append]
        -- the departures before the one that goes, and those after it, are left out
        exact (hrest.cons_cons d.destination).trans (List.sublist_append_right _ _)

/-- **What a poll answers**, after any calls at any points in time. It has no answer exactly if
nothing of the batch is due, and then it changes nothing. Otherwise it answers with the file of the
departure with the earliest deadline in the batch, of several with that deadline the one that was
asked for first; then nothing is under way, and the page does not fade. All later answers, and all
later batches, are those of a new timer that only gets the later calls, so nothing of this batch is
carried out afterwards; and no departure is carried out twice. -/
theorem answer_of_batch (past : List Call) (now : Nat) :
    let t := idle.callAll past
    let held := batch (idle.log past)
    ((t.poll now).1 = none ↔ ∀ d ∈ held, now < d.deadline) ∧
      ((t.poll now).1 = none → (t.poll now).2 = t) ∧
      (∀ file, (t.poll now).1 = some file →
        (∃ before d after, held = before ++ d :: after ∧ d.destination = file ∧ d.deadline ≤ now ∧
          (∀ e ∈ before, d.deadline < e.deadline) ∧ ∀ e ∈ after, d.deadline ≤ e.deadline) ∧
        (t.poll now).2.pending.length = 0 ∧ (t.poll now).2.fading = false ∧
        ∀ later,
          idle.log (past ++ .poll now :: later) =
            idle.log past ++ (.poll now, some file) :: idle.log later ∧
          batch (idle.log (past ++ .poll now :: later)) = batch (idle.log later)) ∧
      ((idle.log past).filterMap (·.2)).Sublist
        ((past.filterMap Call.departure?).map (·.destination)) := by
  intro t held
  have hheld : t.pending = held := pending_callAll past
  refine ⟨?_, fun hnone => ?_, fun file hfile => ⟨?_, ?_, ?_, fun later => ?_⟩, ?_⟩
  · rw [← hheld]
    exact poll_eq_none_iff
  · rw [poll_of_none hnone]
  · rw [← hheld]
    exact poll_eq_some_iff.1 hfile
  · rw [poll_of_some hfile]
    rfl
  · rw [poll_of_some hfile]
    rfl
  · have hlog := log_append_answer hfile later
    exact ⟨hlog, by rw [hlog, batch_append_answer]⟩
  · exact answers_sublist idle past

end Timer

end PageShell
