import PageShell.Travel

/-!
# The timer of page changes

What a timer answers when it is polled. Of the departures that are due, the
one with the earliest deadline goes, and of several with that deadline the one
that was asked for first. Departures that were asked for in the order of their
deadlines go in that order, so only the very first of them can go.

* `Timer.earliest?_eq_some_iff` — which departure goes first;
* `Timer.poll_eq_some_iff`, `Timer.poll_eq_none_iff` — what a poll answers;
* `Timer.InOrder` — the departures are in the order of their deadlines;
* `Timer.poll_of_inOrder` — then the first one decides.
-/

namespace PageShell

namespace Timer

/-! ## The earliest departure -/

theorem earliest?_eq_none_iff {ds : List Departure} : earliest? ds = none ↔ ds = [] := by
  cases ds with
  | nil => simp [earliest?]
  | cons d rest =>
    simp only [earliest?, reduceCtorEq, iff_false]
    split
    · simp
    · split <;> simp

/-- The earliest departure is later than none, and earlier than those asked for before it. -/
theorem earliest?_split {ds : List Departure} {d : Departure} (h : earliest? ds = some d) :
    ∃ before after, ds = before ++ d :: after ∧ (∀ e ∈ before, d.deadline < e.deadline) ∧
      ∀ e ∈ after, d.deadline ≤ e.deadline := by
  induction ds generalizing d with
  | nil => cases h
  | cons a rest ih =>
    rw [earliest?] at h
    split at h
    · next hrest =>
      obtain rfl := Option.some.inj h
      obtain rfl := earliest?_eq_none_iff.1 hrest
      exact ⟨[], [], rfl, by simp, by simp⟩
    · next e hrest =>
      obtain ⟨before, after, rfl, hbefore, hafter⟩ := ih hrest
      split at h
      · next hlt =>
        -- the head is later than the earliest of the rest, so it only adds to those before
        obtain rfl := Option.some.inj h
        refine ⟨a :: before, after, rfl, ?_, hafter⟩
        intro x hx
        rcases List.mem_cons.1 hx with rfl | hx
        · exact hlt
        · exact hbefore x hx
      · next hle =>
        -- the head is earliest, and the earliest of the rest bounds all the others
        obtain rfl := Option.some.inj h
        refine ⟨[], before ++ e :: after, rfl, by simp, ?_⟩
        intro x hx
        rcases List.mem_append.1 hx with hx | hx
        · have := hbefore x hx
          omega
        · rcases List.mem_cons.1 hx with rfl | hx
          · omega
          · have := hafter x hx
            omega

/-- A departure that is later than none, and earlier than those asked for before it, is the
earliest one. -/
theorem earliest?_of_split {before after : List Departure} {d : Departure}
    (hbefore : ∀ e ∈ before, d.deadline < e.deadline)
    (hafter : ∀ e ∈ after, d.deadline ≤ e.deadline) :
    earliest? (before ++ d :: after) = some d := by
  induction before with
  | nil =>
    rw [List.nil_append, earliest?]
    split
    · rfl
    · next e he =>
      obtain ⟨b, a, rfl, -, -⟩ := earliest?_split he
      rw [if_neg (Nat.not_lt.2 (hafter e (by simp)))]
  | cons a rest ih =>
    rw [List.cons_append, earliest?, ih fun e he => hbefore e (List.mem_cons_of_mem _ he)]
    exact if_pos (hbefore a (List.mem_cons_self ..))

/-- **Which departure goes first**: the one with the earliest deadline, and of several with that
deadline the one that was asked for first. -/
theorem earliest?_eq_some_iff {ds : List Departure} {d : Departure} :
    earliest? ds = some d ↔
      ∃ before after, ds = before ++ d :: after ∧ (∀ e ∈ before, d.deadline < e.deadline) ∧
        ∀ e ∈ after, d.deadline ≤ e.deadline := by
  constructor
  · exact earliest?_split
  · rintro ⟨before, after, rfl, hbefore, hafter⟩
    exact earliest?_of_split hbefore hafter

/-- **Only the earliest departure decides** what is due first: the others are due later. -/
theorem earliest?_filter_due (ds : List Departure) (now : Nat) :
    earliest? (ds.filter (·.deadline ≤ now)) = (earliest? ds).filter (·.deadline ≤ now) := by
  cases hd : earliest? ds with
  | none =>
    obtain rfl := earliest?_eq_none_iff.1 hd
    rfl
  | some d =>
    obtain ⟨before, after, rfl, hbefore, hafter⟩ := earliest?_split hd
    by_cases hdue : d.deadline ≤ now
    · rw [List.filter_append, List.filter_cons_of_pos (by simpa using hdue),
        Option.filter_some_pos (by simpa using hdue)]
      exact earliest?_of_split (fun e he => hbefore e (List.mem_filter.1 he).1)
        fun e he => hafter e (List.mem_filter.1 he).1
    · have hnone : (before ++ d :: after).filter (·.deadline ≤ now) = [] := by
        rw [List.filter_eq_nil_iff]
        intro e he hle
        have hlate : d.deadline ≤ e.deadline := by
          rcases List.mem_append.1 he with he | he
          · exact Nat.le_of_lt (hbefore e he)
          · rcases List.mem_cons.1 he with rfl | he
            · exact Nat.le_refl _
            · exact hafter e he
        exact hdue (Nat.le_trans hlate (by simpa using hle))
      rw [hnone, Option.filter_some_neg (by simpa using hdue)]
      rfl

/-! ## Polling -/

/-- A poll answers with the file of the earliest departure, if it is due. -/
theorem poll_fst (now : Nat) (t : Timer) :
    (t.poll now).1 = ((earliest? t.pending).filter (·.deadline ≤ now)).map (·.destination) := by
  rw [← earliest?_filter_due, poll]
  split
  · next hnone => rw [hnone]; rfl
  · next d hsome => rw [hsome]; rfl

/-- A poll without an answer changes nothing. -/
theorem poll_of_none {now : Nat} {t : Timer} (h : (t.poll now).1 = none) :
    t.poll now = (none, t) := by
  rw [poll] at h ⊢
  split at h
  · rfl
  · cases h

/-- A poll with an answer leaves an idle timer. -/
theorem poll_of_some {now : Nat} {t : Timer} {file : Text} (h : (t.poll now).1 = some file) :
    t.poll now = (some file, idle) := by
  rw [poll] at h ⊢
  split at h
  · cases h
  · obtain rfl := Option.some.inj h
    rfl

/-- **What a poll answers**: the file of the earliest departure, if that is due. -/
theorem poll_eq_some_iff {now : Nat} {t : Timer} {file : Text} :
    (t.poll now).1 = some file ↔
      ∃ before d after, t.pending = before ++ d :: after ∧ d.destination = file ∧
        d.deadline ≤ now ∧ (∀ e ∈ before, d.deadline < e.deadline) ∧
        ∀ e ∈ after, d.deadline ≤ e.deadline := by
  rw [poll_fst, Option.map_eq_some_iff]
  constructor
  · rintro ⟨d, hd, hfile⟩
    obtain ⟨hearliest, hdue⟩ := Option.filter_eq_some_iff.1 hd
    obtain ⟨before, after, hsplit, hbefore, hafter⟩ := earliest?_eq_some_iff.1 hearliest
    exact ⟨before, d, after, hsplit, hfile, by simpa using hdue, hbefore, hafter⟩
  · rintro ⟨before, d, after, hsplit, hfile, hdue, hbefore, hafter⟩
    refine ⟨d, Option.filter_eq_some_iff.2 ⟨?_, by simpa using hdue⟩, hfile⟩
    exact earliest?_eq_some_iff.2 ⟨before, after, hsplit, hbefore, hafter⟩

/-- A poll has no answer exactly if nothing is due. -/
theorem poll_eq_none_iff {now : Nat} {t : Timer} :
    (t.poll now).1 = none ↔ ∀ d ∈ t.pending, now < d.deadline := by
  constructor
  · intro h
    have hnone : earliest? (t.pending.filter (·.deadline ≤ now)) = none := by
      rwa [earliest?_filter_due, ← Option.map_eq_none_iff, ← poll_fst]
    simpa [List.filter_eq_nil_iff] using earliest?_eq_none_iff.1 hnone
  · intro h
    rw [Option.eq_none_iff_forall_ne_some]
    intro file hfile
    obtain ⟨before, d, after, hsplit, -, hdue, -⟩ := poll_eq_some_iff.1 hfile
    exact absurd hdue (Nat.not_le.2 (h d (by simp [hsplit])))

/-! ## Departures in order -/

/-- The departures are in the order of their deadlines. -/
def InOrder (ds : List Departure) : Prop :=
  ds.Pairwise (·.deadline ≤ ·.deadline)

/-- Of departures in order, the first goes first. -/
theorem earliest?_of_inOrder {ds : List Departure} (h : InOrder ds) :
    earliest? ds = ds.head? := by
  cases ds with
  | nil => rfl
  | cons d rest =>
    rw [InOrder, List.pairwise_cons] at h
    have hfirst : earliest? ([] ++ d :: rest) = some d := earliest?_of_split (by simp) h.1
    exact hfirst

/-- **Of departures in order, the first one decides** what a poll answers: its file if it is due,
and nothing otherwise, however many others there are. -/
theorem poll_of_inOrder {now : Nat} {d : Departure} {rest : List Departure} {fading : Bool}
    (h : InOrder (d :: rest)) :
    (poll now ⟨d :: rest, fading⟩).1 = if d.deadline ≤ now then some d.destination else none := by
  rw [poll_fst, earliest?_of_inOrder h, List.head?_cons]
  by_cases hd : d.deadline ≤ now
  · rw [if_pos hd, Option.filter_some_pos (by simpa using hd)]
    rfl
  · rw [if_neg hd, Option.filter_some_neg (by simpa using hd)]
    rfl

end Timer

end PageShell
