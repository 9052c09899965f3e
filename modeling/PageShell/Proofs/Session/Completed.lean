import PageShell.Proofs.CommandLine
import PageShell.Proofs.Completion
import PageShell.Proofs.Submission

/-!
# Completed lines are understood

Completion and submission read a line each in its own way: the one looks for
blanks of any kind, the other trims the line and splits it at spaces. Yet what
the one puts into a line, the other understands. A completed line may only be
refused for its length, or for blanks in it that are no spaces.

* `Outcome.Succeeds` — the command was carried out, or the visitor is on the way;
* `Place.respond_of_trim` — how the response to a trimmed line goes;
* `CommandLine.Known` — a command line that means something;
* `Completion.Context.known` — a candidate in its place makes one;
* `Completion.submit_of_mem_lines` — **what is completed succeeds.**
-/

namespace PageShell

/-- Whether a command was carried out, or the visitor is on the way to a page. -/
def Outcome.Succeeds (o : Outcome) : Prop :=
  (∃ command, o = .ran command) ∨ ∃ p, o = .navigating p

/-- **A command line that means something**: a command, and a target if the command is `cd`. -/
def CommandLine.Known (line : CommandLine) : Prop :=
  ∃ command, Builtin.ofName? line.name = some command ∧
    (command = .cd → (Target.ofText line.firstArg).page? ≠ none)

namespace Place

variable (place : Place) (clock : ClockAnswer)

theorem changePage_succeeds {argument : Text} (h : (Target.ofText argument).page? ≠ none) :
    (place.changePage argument).outcome.Succeeds := by
  rw [changePage]
  split
  · next hnone => exact absurd hnone h
  · split
    · exact .inl ⟨_, rfl⟩
    · exact .inr ⟨_, rfl⟩

theorem run_succeeds {line : CommandLine} {command : Builtin}
    (h : command = .cd → (Target.ofText line.firstArg).page? ≠ none) :
    (place.run clock line command).outcome.Succeeds := by
  cases command with
  | help => exact .inl ⟨_, rfl⟩
  | ls => exact .inl ⟨_, rfl⟩
  | whoami => exact .inl ⟨_, rfl⟩
  | date =>
    cases clock with
    | ok reading => exact .inl ⟨_, rfl⟩
    | error fault => exact .inl ⟨_, rfl⟩
  | clear => exact .inl ⟨_, rfl⟩
  | cd => exact place.changePage_succeeds (h rfl)

/-- **How the response to a trimmed line goes** if the line means something: it succeeds unless the
line is too long, or holds a character that is not printable. -/
theorem respond_of_trim {text : Text} (ht : text.trim = text) (hne : text ≠ [])
    (h : text.all isPrintable = true → (CommandLine.ofText text).Known) :
    ((place.respond clock text).outcome.Succeeds ∧ text.length ≤ maxCommandLength ∧
        text.all isPrintable = true) ∨
      ((place.respond clock text).outcome = .rejected .tooLong ∧
        maxCommandLength < text.length) ∨
      ((place.respond clock text).outcome = .rejected .unprintable ∧
        text.length ≤ maxCommandLength ∧ text.all isPrintable = false) := by
  rw [respond, CommandLine.read_of_trim ht hne]
  by_cases hlong : maxCommandLength < text.length
  · rw [if_pos hlong]
    exact .inr (.inl ⟨rfl, hlong⟩)
  · rw [if_neg hlong]
    cases hprint : text.all isPrintable with
    | false => exact .inr (.inr ⟨rfl, Nat.not_lt.1 hlong, rfl⟩)
    | true =>
      obtain ⟨command, hname, hcd⟩ := h hprint
      rw [if_pos rfl]
      dsimp only
      rw [hname]
      exact .inl ⟨place.run_succeeds clock hcd, Nat.not_lt.1 hlong, rfl⟩

end Place

namespace Completion

/-! ### Candidates in their places -/

/-- Every command is known by its name. -/
theorem known_command : ∀ candidate ∈ commandCandidates, (CommandLine.ofText candidate).Known := by
  intro candidate hmem
  obtain ⟨command, -, rfl⟩ := List.mem_map.1 hmem
  refine ⟨command, ?_, ?_⟩
  · cases command <;> rfl
  · rintro rfl
    decide +kernel

/-- Every target leads somewhere. -/
theorem page?_target : ∀ candidate ∈ targetCandidates,
    (Target.ofText candidate).page? ≠ none := by
  decide +kernel

/-- `cd` in any case, spaces and a target are known. -/
theorem known_target {c d : Char} (hcd : spellsCd c d = true) (n : Nat) {candidate : Text}
    (hmem : candidate ∈ targetCandidates) :
    (CommandLine.ofText (c :: d :: List.replicate (n + 1) ' ' ++ candidate)).Known := by
  obtain ⟨hc, hd⟩ := isBlank_of_spellsCd hcd
  have hname : ' ' ∉ [c, d] := by
    intro h
    rcases List.mem_pair.1 h with rfl | rfl
    · cases hc
    · cases hd
  obtain ⟨hne, hblank, -⟩ := candidate_spec candidate (List.mem_append_right _ hmem)
  have hspace : ' ' ∉ candidate := fun h => List.any_eq_false.1 hblank ' ' h rfl
  have hwords : Text.words (c :: d :: List.replicate (n + 1) ' ' ++ candidate) =
      [[c, d], candidate] := by
    calc Text.words (c :: d :: List.replicate (n + 1) ' ' ++ candidate)
        = Text.words ([c, d] ++ ' ' :: (List.replicate n ' ' ++ candidate)) := rfl
      _ = [c, d] :: Text.words candidate := by
        rw [Text.words_append_space (List.cons_ne_nil _ _) hname, Text.words_replicate_append]
      _ = [[c, d], candidate] := by rw [Text.words_of_notMem hne hspace]
  simp only [spellsCd, Bool.and_eq_true, beq_iff_eq] at hcd
  refine ⟨.cd, ?_, fun _ => ?_⟩
  · rw [CommandLine.ofText, hwords]
    simp only [List.headD_cons, Text.lowerAscii, List.map_cons, List.map_nil, hcd]
    rfl
  · rw [CommandLine.ofText, CommandLine.firstArg, hwords]
    exact page?_target candidate hmem

/-- **A candidate in its place makes a line that means something**, once the blanks around the line
are gone, and if all of it is printable. -/
theorem Context.known {lead : Text} {candidates : List Text} (h : Context lead candidates)
    {candidate ending : Text} (hmem : candidate ∈ candidates) (hending : ending.isBlank = true) :
    (lead ++ candidate ++ ending).trim ≠ [] ∧
      ((lead ++ candidate ++ ending).trim.all isPrintable = true →
        (CommandLine.ofText (lead ++ candidate ++ ending).trim).Known) := by
  obtain ⟨hne, hblank, -⟩ := h.candidate_spec hmem
  cases h with
  | command hlead =>
    have htrim : candidate.trim = candidate :=
      Text.trim_eq_self
        (fun e he => by simpa using List.any_eq_false.1 hblank e (List.mem_of_head? he))
        fun e he => by simpa using List.any_eq_false.1 hblank e (List.mem_of_getLast? he)
    rw [Text.trim_append_of_isBlank hlead hending, htrim]
    exact ⟨hne, fun _ => known_command candidate hmem⟩
  | @target before gap c d hbefore hcd hgapne hgap =>
    -- the line begins with `cd` and ends with the candidate
    have htrim : Text.trim (c :: d :: gap ++ candidate) = c :: d :: gap ++ candidate := by
      refine Text.trim_eq_self ?_ ?_
      · intro e he
        obtain rfl : c = e := Option.some.inj he
        exact (isBlank_of_spellsCd hcd).1
      · intro e he
        rw [List.getLast?_append_of_ne_nil _ hne] at he
        simpa using List.any_eq_false.1 hblank e (List.mem_of_getLast? he)
    have hline : before ++ c :: d :: gap ++ candidate ++ ending =
        before ++ (c :: d :: gap ++ candidate) ++ ending := by
      rw [List.append_assoc before]
    rw [hline, Text.trim_append_of_isBlank hbefore hending, htrim]
    refine ⟨List.cons_ne_nil _ _, fun hprint => ?_⟩
    -- of the blanks, only spaces are printable
    have hspaces : gap = List.replicate gap.length ' ' := by
      rw [List.eq_replicate_iff]
      refine ⟨rfl, fun e he => ?_⟩
      refine eq_space_of_isBlank (List.all_eq_true.1 hgap e he) ?_
      exact List.all_eq_true.1 hprint e (by simp [he])
    obtain ⟨n, hn⟩ : ∃ n, gap.length = n + 1 :=
      Nat.exists_eq_succ_of_ne_zero fun h0 => hgapne (List.length_eq_zero_iff.1 h0)
    rw [hspaces, hn]
    exact known_target hcd n hmem

/-- **What is completed succeeds.** A line that a completion leads to is never taken for a blank
one, and never fails: whoever submits it is answered by a command that runs, or is on the way to a
page. It is refused only if it is too long without the blanks around it, or holds a character that
is not printable. -/
theorem submit_of_mem_lines (line : Text) (caret : Nat) (l : Text)
    (hl : l ∈ (ofLine line caret).lines (kept line caret)) (s : Session) (clock : ClockAnswer) :
    ∃ o, (s.submit clock l).outcome = some o ∧
      ((((∃ command, o = .ran command) ∨ ∃ p, o = .navigating p) ∧ l.trim.length ≤ 200 ∧
          ∀ c ∈ l.trim, 0x20 ≤ c.toNat ∧ c.toNat ≤ 0x7E) ∨
        (o = .rejected .tooLong ∧ 200 < l.trim.length) ∨
        (o = .rejected .unprintable ∧ l.trim.length ≤ 200 ∧
          ∃ c ∈ l.trim, ¬ (0x20 ≤ c.toNat ∧ c.toNat ≤ 0x7E))) := by
  obtain ⟨candidates, hcontext, candidate, hmem, ending, hending, rfl⟩ := mem_lines_ofLine hl
  obtain ⟨hne, hknown⟩ := hcontext.known hmem hending
  have hnb := Text.trim_ne_nil_iff.1 hne
  rw [Session.submit_of_not_isBlank clock s hnb]
  refine ⟨_, rfl, ?_⟩
  rcases s.place.respond_of_trim clock (Text.trim_trim _) hne hknown with
    ⟨hsucceeds, hlen, hprint⟩ | hlong | ⟨houtcome, hlen, hprint⟩
  · refine .inl ⟨hsucceeds, hlen, fun c hc => ?_⟩
    simpa [isPrintable] using List.all_eq_true.1 hprint c hc
  · exact .inr (.inl hlong)
  · obtain ⟨c, hc, hcode⟩ := List.all_eq_false.1 hprint
    exact .inr (.inr ⟨houtcome, hlen, c, hc, by simpa [isPrintable] using hcode⟩)

/-- A target that is completed after `cd`, whatever the case and the spaces. -/
theorem submit_completed_projects :
    let clock : ClockAnswer := .error (.platform [])
    let s := Session.start ⟨.ofSettings .default, .home, 280⟩
    "  Cd  projects ".toList ∈
        (ofLine "  Cd  pro".toList 8).lines (kept "  Cd  pro".toList 8) ∧
      ∃ o, (s.submit clock "  Cd  projects ".toList).outcome = some o ∧
        ((∃ command, o = .ran command) ∨ ∃ p, o = .navigating p) := by
  intro clock s
  have hmem : "  Cd  projects ".toList ∈
      (ofLine "  Cd  pro".toList 8).lines (kept "  Cd  pro".toList 8) := by decide +kernel
  have hprint : (Text.trim "  Cd  projects ".toList).all isPrintable = true := by decide +kernel
  obtain ⟨o, ho, ⟨hsucceeds, -⟩ | ⟨-, hlong⟩ | ⟨-, -, c, hc, hcode⟩⟩ :=
    submit_of_mem_lines "  Cd  pro".toList 8 _ hmem s clock
  · exact ⟨hmem, o, ho, hsucceeds⟩
  · exact absurd hlong (by decide +kernel)
  · exact absurd (by simpa [isPrintable] using List.all_eq_true.1 hprint c hc) hcode

end Completion

end PageShell
