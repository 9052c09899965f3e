import Mathlib.Data.List.Infix
import PageShell.Completion
import PageShell.Proofs.Text.Trim

/-!
# What completions put into a line

A completion keeps what stands left of the word at the caret, and goes on with
a candidate. The candidates of the shell go apart at once: where several of
them begin alike, the fragment is all they share. So a completion either puts
one whole candidate there, or shows several.

* `Completion.Branching` — candidates that go apart at once;
* `Completion.resolve_of_branching` — what such a completion does;
* `Completion.Context` — what a candidate may follow;
* `Completion.ofLine_eq_replaced`, `Completion.ofLine_of_replaced` — what is put
  into a line, and that it is not replaced again;
* `Completion.kept`, `Completion.lines` — what is kept of a line, and the lines
  that a completion leads to;
* `Completion.mem_lines_ofLine` — **what these lines are.**
-/

namespace PageShell

namespace Completion

/-! ### Candidates that begin alike -/

/-- **Candidates that go apart at once**: where several of them have the same beginning, they share
no more than that. -/
def Branching (candidates : List Text) : Prop :=
  ∀ beginning ∈ candidates.flatMap List.inits,
    2 ≤ (candidates.filter beginning.isPrefixOf).length →
      (commonPrefix (candidates.filter beginning.isPrefixOf)).length ≤ beginning.length

theorem branching_commandCandidates : Branching commandCandidates := by
  rw [Branching]
  decide +kernel

theorem branching_targetCandidates : Branching targetCandidates := by
  rw [Branching]
  decide +kernel

/-- **What a completion does** with candidates that go apart at once: a single match is put in
place of the fragment, and several matches are shown. -/
theorem resolve_of_branching {candidates : List Text} (h : Branching candidates)
    (lead fragment : Text) :
    resolve lead fragment candidates =
      match candidates.filter fragment.lower.isPrefixOf with
      | [] => unchanged
      | [only] => put (lead ++ only ++ [' '])
      | found => suggestions found := by
  rw [resolve]
  match hfound : candidates.filter fragment.lower.isPrefixOf with
  | [] => rfl
  | [only] => rfl
  | first :: second :: more =>
    -- the fragment is a beginning of the first match, and no shorter than what all of them share
    have hfirst : first ∈ candidates.filter fragment.lower.isPrefixOf := by simp [hfound]
    obtain ⟨hmem, hbegins⟩ := List.mem_filter.1 hfirst
    have hbeginning : fragment.lower ∈ candidates.flatMap List.inits :=
      List.mem_flatMap.2
        ⟨first, hmem, (List.mem_inits _ _).2 (List.isPrefixOf_iff_prefix.1 hbegins)⟩
    have hshared := h _ hbeginning (by simp [hfound])
    rw [hfound] at hshared
    dsimp only
    rw [if_neg (Nat.not_lt.2 hshared)]

/-- The same, as far as it shows where a line comes from. -/
theorem resolve_cases {candidates : List Text} (h : Branching candidates) (lead fragment : Text) :
    resolve lead fragment candidates = unchanged ∨
      (∃ candidate ∈ candidates,
        resolve lead fragment candidates = put (lead ++ candidate ++ [' '])) ∨
      ∃ found, found ⊆ candidates ∧ resolve lead fragment candidates = suggestions found := by
  have hsub : candidates.filter fragment.lower.isPrefixOf ⊆ candidates :=
    List.filter_subset_self candidates
  rw [resolve_of_branching h]
  split
  · exact .inl rfl
  · next only hfound =>
    rw [hfound] at hsub
    exact .inr (.inl ⟨only, hsub List.mem_cons_self, rfl⟩)
  · exact .inr (.inr ⟨_, hsub, rfl⟩)

/-! ### What a candidate follows -/

/-- A character with this small letter is the letter, or comes before it by as much as a capital. -/
theorem eq_or_toNat_of_toLower {c l : Char} (h : c.toLower = l) :
    c = l ∨ c.toNat + 32 = l.toNat := by
  unfold Char.toLower at h
  split at h
  · next hcapital =>
    have hhigh : c.toNat ≤ 90 := UInt32.le_iff_toNat_le.1 hcapital.2
    have hlt : c.toNat + 32 < 2 ^ 32 := by omega
    rw [← h]
    exact .inr ((UInt32.toNat_add c.val 32).trans (Nat.mod_eq_of_lt hlt)).symm
  · exact .inl h

/-- The four ways to spell `cd`. -/
theorem spellsCd_iff {c d : Char} :
    spellsCd c d = true ↔ (c = 'c' ∨ c = 'C') ∧ (d = 'd' ∨ d = 'D') := by
  constructor
  · intro h
    simp only [spellsCd, Bool.and_eq_true, beq_iff_eq] at h
    obtain ⟨hc, hd⟩ := h
    refine ⟨(eq_or_toNat_of_toLower hc).imp_right fun hc => ?_,
      (eq_or_toNat_of_toLower hd).imp_right fun hd => ?_⟩
    · exact Char.toNat_inj.1 (Nat.add_right_cancel hc)
    · exact Char.toNat_inj.1 (Nat.add_right_cancel hd)
  · rintro ⟨rfl | rfl, rfl | rfl⟩ <;> decide

/-- `cd` has no blank in it, in any case. -/
theorem isBlank_of_spellsCd {c d : Char} (h : spellsCd c d = true) :
    isBlank c = false ∧ isBlank d = false := by
  rw [spellsCd_iff] at h
  obtain ⟨rfl | rfl, rfl | rfl⟩ := h <;> decide

/-- **What a candidate may follow**: blanks only, or `cd` with blanks around it. -/
inductive Context : Text → List Text → Prop where
  /-- a command may follow blanks -/
  | command {lead : Text} (hlead : lead.isBlank = true) : Context lead commandCandidates
  /-- a target may follow `cd` and at least one blank -/
  | target {before gap : Text} {c d : Char} (hbefore : before.isBlank = true)
      (hcd : spellsCd c d = true) (hne : gap ≠ []) (hgap : gap.isBlank = true) :
      Context (before ++ c :: d :: gap) targetCandidates

namespace Context

variable {lead : Text} {candidates : List Text}

theorem branching (h : Context lead candidates) : Branching candidates := by
  cases h with
  | command => exact branching_commandCandidates
  | target => exact branching_targetCandidates

/-- What a candidate follows ends in a blank, if it is not empty. -/
theorem isBlank_of_getLast? (h : Context lead candidates) {e : Char} (he : lead.getLast? = some e) :
    isBlank e = true := by
  cases h with
  | command hlead => exact List.all_eq_true.1 hlead e (List.mem_of_getLast? he)
  | @target before gap c d _ _ hne hgap =>
    have hlast : (before ++ c :: d :: gap).getLast? = gap.getLast? := by
      rw [show before ++ c :: d :: gap = (before ++ [c, d]) ++ gap by simp,
        List.getLast?_append_of_ne_nil _ hne]
    rw [hlast] at he
    exact List.all_eq_true.1 hgap e (List.mem_of_getLast? he)

/-- What a candidate follows is all of a text but its last stretch without blanks. -/
theorem dropEnd_append (h : Context lead candidates) {fragment : Text}
    (hf : fragment.any isBlank = false) : Text.dropEnd (!isBlank ·) (lead ++ fragment) = lead := by
  rw [Text.dropEnd_append_of_all (by simpa using hf), Text.dropEnd_eq_self]
  intro e he
  rw [h.isBlank_of_getLast? he]
  rfl

end Context

/-- How a text is split that begins with `cd`. -/
theorem splitTarget?_of_spellsCd {left rest : Text} {c d : Char}
    (hstart : left.trimStart = c :: d :: rest) (hcd : spellsCd c d = true) :
    splitTarget? left =
      if (Text.trimStart rest).length < rest.length ∧ (Text.trimStart rest).any isBlank = false then
        some (left.take (left.length - (Text.trimStart rest).length), Text.trimStart rest)
      else none := by
  rw [splitTarget?, hstart]
  simp [hcd]

/-- A text that begins with anything else is not split. -/
theorem splitTarget?_of_not_spellsCd {left : Text}
    (h : ∀ c d rest, left.trimStart = c :: d :: rest → spellsCd c d = false) :
    splitTarget? left = none := by
  rw [splitTarget?]
  split
  · next c d rest hstart => simp [h c d rest hstart]
  · rfl

/-- A text that is split before a target consists of the two parts. -/
theorem splitTarget?_eq_some {left lead fragment : Text}
    (h : splitTarget? left = some (lead, fragment)) :
    left = lead ++ fragment ∧ fragment.any isBlank = false ∧ Context lead targetCandidates := by
  rw [splitTarget?] at h
  split at h
  · next c d rest hstart =>
    -- blanks, `cd`, blanks and the fragment make up the text
    obtain ⟨before, hbefore, hleft⟩ := Text.exists_trimStart left
    obtain ⟨gap, hgap, hrest⟩ := Text.exists_trimStart rest
    have hsplit : left = (before ++ c :: d :: gap) ++ Text.trimStart rest := by
      rw [List.append_assoc, List.cons_append, List.cons_append, ← hrest, ← hstart, ← hleft]
    dsimp only at h
    split at h
    · next hcond =>
      simp only [Bool.and_eq_true, decide_eq_true_eq, Bool.not_eq_true'] at hcond
      obtain ⟨⟨hcd, hlt⟩, hfrag⟩ := hcond
      have hlen : left.length - (Text.trimStart rest).length =
          (before ++ c :: d :: gap).length := by
        rw [hsplit, List.length_append, Nat.add_sub_cancel]
      have htake : left.take (left.length - (Text.trimStart rest).length) =
          before ++ c :: d :: gap := by
        rw [hlen, hsplit, List.take_left]
      rw [htake, Option.some.injEq, Prod.mk.injEq] at h
      obtain ⟨rfl, rfl⟩ := h
      refine ⟨hsplit, hfrag, .target hbefore hcd ?_ hgap⟩
      rintro rfl
      -- without blanks after `cd` the fragment would be all that follows
      rw [List.nil_append] at hrest
      rw [← hrest] at hlt
      exact Nat.lt_irrefl _ hlt
    · cases h
  · cases h

/-- **How a text is completed**: not at all, or the fragment at its end is completed from the
candidates that may stand there. -/
theorem ofLeft_cases (left : Text) :
    ofLeft left = unchanged ∨ ∃ lead fragment candidates, left = lead ++ fragment ∧
      fragment.any isBlank = false ∧ Context lead candidates ∧
      ofLeft left = resolve lead fragment candidates := by
  rw [ofLeft]
  split
  · next lead fragment hsplit =>
    obtain ⟨hleft, hfrag, hcontext⟩ := splitTarget?_eq_some hsplit
    exact .inr ⟨lead, fragment, targetCandidates, hleft, hfrag, hcontext, rfl⟩
  · dsimp only
    split
    · exact .inl rfl
    · next hfrag =>
      exact .inr ⟨left.takeWhile isBlank, left.trimStart, commandCandidates,
        List.takeWhile_append_dropWhile.symm, by simpa using hfrag, .command List.all_takeWhile,
        rfl⟩

/-- **How a line is completed**: not at all, or the fragment left of the caret is completed from the
candidates that may stand there. -/
theorem ofLine_cases (line : Text) (caret : Nat) :
    ofLine line caret = unchanged ∨ ∃ lead fragment candidates,
      line.take caret = lead ++ fragment ∧ fragment.any isBlank = false ∧
      Context lead candidates ∧ ofLine line caret = resolve lead fragment candidates := by
  rw [ofLine]
  split
  · exact .inl rfl
  · exact ofLeft_cases (line.take caret)

/-- No candidate is empty, has blanks in it, or is longer than eight characters. -/
theorem candidate_spec :
    ∀ candidate ∈ commandCandidates ++ targetCandidates,
      candidate ≠ [] ∧ candidate.any isBlank = false ∧ candidate.length ≤ 8 := by
  decide +kernel

theorem Context.candidate_spec {lead candidate : Text} {candidates : List Text}
    (h : Context lead candidates) (hmem : candidate ∈ candidates) :
    candidate ≠ [] ∧ candidate.any isBlank = false ∧ candidate.length ≤ 8 := by
  cases h with
  | command => exact Completion.candidate_spec candidate (List.mem_append_left _ hmem)
  | target => exact Completion.candidate_spec candidate (List.mem_append_right _ hmem)

/-- Without a fragment all candidates are shown. -/
theorem Context.resolve_nil {lead : Text} {candidates : List Text} (h : Context lead candidates) :
    resolve lead [] candidates = suggestions candidates := by
  cases h with
  | command => rfl
  | target => rfl

/-- **What is put into a line**: a candidate and a space, in place of the word at the caret. The
caret is behind them then. -/
theorem ofLine_eq_replaced {line l : Text} {caret place : Nat}
    (h : ofLine line caret = replaced l place) :
    ∃ lead word candidates candidate, line = lead ++ word ∧ word ≠ [] ∧ Context lead candidates ∧
      candidate ∈ candidates ∧ l = lead ++ candidate ++ [' '] ∧ place = l.length := by
  obtain hnone | ⟨lead, fragment, candidates, hleft, -, hcontext, heq⟩ := ofLine_cases line caret
  · rw [hnone] at h
    cases h
  · have hline : line = lead ++ (fragment ++ line.drop caret) := by
      rw [← List.append_assoc, ← hleft, List.take_append_drop]
    rw [heq] at h
    have hne : fragment ≠ [] := by
      rintro rfl
      rw [hcontext.resolve_nil] at h
      cases h
    obtain hnone | ⟨candidate, hmem, hput⟩ | ⟨found, -, hshown⟩ :=
      resolve_cases hcontext.branching lead fragment
    · rw [hnone] at h
      cases h
    · rw [hput, put, replaced.injEq] at h
      obtain ⟨rfl, rfl⟩ := h
      exact ⟨lead, _, candidates, candidate, hline, List.append_ne_nil_of_left_ne_nil hne _,
        hcontext, hmem, rfl, rfl⟩
    · rw [hshown] at h
      cases h

/-- **Behind a blank there is no fragment**, and nothing to be replaced. -/
theorem ofLine_ne_replaced {line : Text} {caret : Nat} {e : Char}
    (hlast : (line.take caret).getLast? = some e) (he : isBlank e = true) (l : Text) (place : Nat) :
    ofLine line caret ≠ replaced l place := by
  obtain hnone | ⟨lead, fragment, candidates, hleft, hf, hcontext, heq⟩ := ofLine_cases line caret
  · rw [hnone]
    nofun
  · have hnil : fragment = [] := by
      by_contra hne
      rw [hleft, List.getLast?_append_of_ne_nil _ hne] at hlast
      exact List.any_eq_false.1 hf e (List.mem_of_getLast? hlast) he
    rw [heq, hnil, hcontext.resolve_nil]
    nofun

/-- **What was put into a line is not replaced again**: it ends in a space. -/
theorem ofLine_of_replaced {line l : Text} {caret place : Nat}
    (h : ofLine line caret = replaced l place) (l' : Text) (place' : Nat) :
    ofLine l place ≠ replaced l' place' := by
  obtain ⟨lead, -, -, candidate, -, -, -, -, rfl, rfl⟩ := ofLine_eq_replaced h
  refine ofLine_ne_replaced (e := ' ') ?_ rfl l' place'
  rw [List.take_length, List.getLast?_concat]

/-! ### The lines that a completion leads to -/

/-- **What is kept** of a line: what stands left of the caret, without the word there. -/
def kept (line : Text) (caret : Nat) : Text :=
  Text.dropEnd (!isBlank ·) (line.take caret)

/-- **The lines that a completion leads to**: the one it puts there, or what is kept with one of the
candidates that it shows. -/
def lines (kept : Text) : Completion → List Text
  | unchanged => []
  | replaced line _ => [line]
  | suggestions candidates => candidates.map (kept ++ ·)

theorem mem_lines_resolve {lead fragment l : Text} {candidates : List Text}
    (h : Branching candidates) (hl : l ∈ (resolve lead fragment candidates).lines lead) :
    ∃ candidate ∈ candidates, ∃ ending : Text, ending.isBlank = true ∧
      l = lead ++ candidate ++ ending := by
  obtain hnone | ⟨candidate, hmem, hput⟩ | ⟨found, hsub, hshown⟩ := resolve_cases h lead fragment
  · rw [hnone] at hl
    cases hl
  · rw [hput] at hl
    exact ⟨candidate, hmem, [' '], rfl, List.mem_singleton.1 hl⟩
  · rw [hshown] at hl
    obtain ⟨candidate, hmem, rfl⟩ := List.mem_map.1 hl
    exact ⟨candidate, hsub hmem, [], rfl, (List.append_nil _).symm⟩

/-- **What the lines of a completion are**: what is kept and a candidate that may follow it, with a
blank at the end perhaps. -/
theorem mem_lines_ofLine {line l : Text} {caret : Nat}
    (hl : l ∈ (ofLine line caret).lines (kept line caret)) :
    ∃ candidates, Context (kept line caret) candidates ∧
      ∃ candidate ∈ candidates, ∃ ending : Text, ending.isBlank = true ∧
        l = kept line caret ++ candidate ++ ending := by
  obtain hnone | ⟨lead, fragment, candidates, hleft, hfrag, hcontext, heq⟩ :=
    ofLine_cases line caret
  · rw [hnone] at hl
    cases hl
  · have hkept : kept line caret = lead := by
      rw [kept, hleft, hcontext.dropEnd_append hfrag]
    rw [heq, hkept] at hl
    rw [hkept]
    exact ⟨candidates, hcontext, mem_lines_resolve hcontext.branching hl⟩

end Completion

end PageShell
