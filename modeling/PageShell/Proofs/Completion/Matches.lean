import PageShell.Proofs.Completion.Slices

/-!
# What becomes of several matches

Several matches are put into a line as far as they agree. That is at least as
far as the fragment goes, which all of them begin with; and no match is lost when
the fragment grows up to there. So the fragment is never shortened, and a second
completion shows the same matches, because they agree no further.

* `commonPrefix_perm` — the order of the texts does not matter;
* `Text.lower_of_allSmall` — small letters stay as they are;
* `Completion.filter_commonPrefix` — the matches of a fragment are those of what
  they share;
* `Completion.resolve_of_two_le` — several matches are shown exactly if they
  share no more than the fragment;
* `Completion.resolve_extended` — what becomes of the longer fragment;
* `Completion.resolve_keeps_fragment` — **all of it**, for any candidates in
  small letters.
-/

namespace PageShell

/-- **What texts share does not depend on their order.** -/
theorem commonPrefix_perm {ts ts' : List Text} (h : ts.Perm ts') :
    commonPrefix ts = commonPrefix ts' := by
  by_cases hnil : ts = []
  · subst hnil
    rw [h.nil_eq]
  · have hnil' : ts' ≠ [] := fun heq => hnil (heq ▸ h).eq_nil
    refine Text.eq_of_prefix_iff fun p => ?_
    rw [prefix_commonPrefix_iff hnil, prefix_commonPrefix_iff hnil']
    simp only [h.mem_iff]

/-! ### Small letters -/

/-- All characters of the text are in ASCII, and none is a capital. -/
def Text.AllSmall (t : Text) : Prop :=
  ∀ c ∈ t, c.toNat < 128 ∧ c.isUpper = false

instance (t : Text) : Decidable t.AllSmall :=
  List.decidableBAll (fun c : Char => c.toNat < 128 ∧ c.isUpper = false) t

/-- In ASCII the table of capitals has `A` to `Z` only. -/
theorem find?_lowerRuns_of_lt {n : Nat} (hlt : n < 128) (hn : ¬ (65 ≤ n ∧ n ≤ 90)) :
    lowerRuns.find? (·.covers n) = none := by
  have hruns : ∀ r ∈ lowerRuns, (r.first = 65 ∧ r.last = 90) ∨ 128 ≤ r.first := by
    decide +kernel
  rw [List.find?_eq_none]
  intro r hr hcovers
  simp only [LowerRun.covers, Bool.and_eq_true, decide_eq_true_eq] at hcovers
  obtain ⟨⟨hfirst, hlast⟩, -⟩ := hcovers
  rcases hruns r hr with ⟨hA, hZ⟩ | hbeyond
  · exact hn ⟨hA ▸ hfirst, hZ ▸ hlast⟩
  · exact absurd (hbeyond.trans hfirst) (Nat.not_le.2 hlt)

theorem lowerChar_of_small {c : Char} (hlt : c.toNat < 128) (hc : c.isUpper = false) :
    lowerChar c = [c] := by
  have hdotted : c ≠ '\u0130' := by
    rintro rfl
    exact absurd hlt (by decide)
  have hcapital : ¬ ('A'.val ≤ c.val ∧ c.val ≤ 'Z'.val) := of_decide_eq_false hc
  have hrange : ¬ (65 ≤ c.toNat ∧ c.toNat ≤ 90) := fun h =>
    hcapital ⟨UInt32.le_iff_toNat_le.2 h.1, UInt32.le_iff_toNat_le.2 h.2⟩
  rw [lowerChar, if_neg hdotted, find?_lowerRuns_of_lt hlt hrange]

theorem Text.lower_of_allSmall {t : Text} (h : t.AllSmall) : t.lower = t := by
  have hsigma : '\u03A3' ∉ t := fun hmem => absurd (h _ hmem).1 (by decide)
  calc t.lower = t.flatMap lowerChar := lower_eq_flatMap hsigma
    _ = t.flatMap fun c => [c] :=
      List.flatMap_congr fun c hc => lowerChar_of_small (h c hc).1 (h c hc).2
    _ = t := List.flatMap_singleton' t

/-- A part of a text in small letters is in small letters. -/
theorem Text.AllSmall.of_subset {part t : Text} (h : t.AllSmall) (hp : part ⊆ t) : part.AllSmall :=
  fun c hc => h c (hp hc)

namespace Completion

/-! ### Several matches -/

section Matches

variable {lead fragment : Text} {candidates : List Text}

/-- **No match is lost** when a beginning grows to all that its matches share. -/
theorem filter_commonPrefix {p : Text} (h : candidates.filter p.isPrefixOf ≠ []) :
    candidates.filter (commonPrefix (candidates.filter p.isPrefixOf)).isPrefixOf =
      candidates.filter p.isPrefixOf := by
  refine List.filter_congr fun candidate hmem => ?_
  rw [Bool.eq_iff_iff, List.isPrefixOf_iff_prefix, List.isPrefixOf_iff_prefix]
  constructor
  · exact (prefix_commonPrefix_filter h).trans
  · intro hp
    refine (prefix_commonPrefix_iff h).1 List.prefix_rfl candidate ?_
    exact List.mem_filter.2 ⟨hmem, List.isPrefixOf_iff_prefix.2 hp⟩

/-- **Several matches** are shown exactly if they share no more than the fragment. -/
theorem resolve_of_two_le (h : 2 ≤ (candidates.filter fragment.lower.isPrefixOf).length) :
    resolve lead fragment candidates =
      if commonPrefix (candidates.filter fragment.lower.isPrefixOf) = fragment.lower then
        suggestions (candidates.filter fragment.lower.isPrefixOf)
      else put (lead ++ commonPrefix (candidates.filter fragment.lower.isPrefixOf)) := by
  have hshared := prefix_commonPrefix_filter (List.ne_nil_of_length_pos (Nat.lt_of_succ_lt h))
  rw [resolve]
  generalize candidates.filter fragment.lower.isPrefixOf = found at h hshared
  rcases found with _ | ⟨first, _ | ⟨second, more⟩⟩
  · cases h
  · exact absurd h (Nat.not_succ_le_self 1)
  · -- what the matches share is the fragment, or longer
    dsimp only
    split
    · next hlt => rw [if_neg fun heq => Nat.lt_irrefl _ (heq ▸ hlt)]
    · next hle => rw [if_pos (hshared.eq_of_length_le (Nat.not_lt.1 hle)).symm]

/-- **A fragment that goes as far as its matches agree** has the same matches, and they are
shown. -/
theorem resolve_extended (hsmall : ∀ candidate ∈ candidates, candidate.AllSmall)
    (h : 2 ≤ (candidates.filter fragment.lower.isPrefixOf).length) :
    resolve lead (commonPrefix (candidates.filter fragment.lower.isPrefixOf)) candidates =
      suggestions (candidates.filter fragment.lower.isPrefixOf) := by
  have hne := List.ne_nil_of_length_pos (Nat.lt_of_succ_lt h)
  -- what the matches share begins a candidate, so it has small letters already
  obtain ⟨first, hfirst⟩ := List.exists_mem_of_ne_nil _ hne
  have hbegins := (prefix_commonPrefix_iff hne).1 List.prefix_rfl first hfirst
  have hlower := Text.lower_of_allSmall
    ((hsmall first (List.mem_of_mem_filter hfirst)).of_subset hbegins.subset)
  have hsame := filter_commonPrefix hne
  rw [resolve_of_two_le (by rwa [hlower, hsame]), hlower, hsame, if_pos rfl]

/-- What is put into a line begins with the fragment in small letters. -/
theorem prefix_of_resolve_eq_replaced {line : Text} {caret : Nat}
    (h : resolve lead fragment candidates = replaced line caret) :
    lead ++ fragment.lower <+: line := by
  rw [resolve] at h
  split at h
  · cases h
  · next only hfound =>
    obtain ⟨rfl, -⟩ := replaced.inj h
    rw [List.append_assoc, List.prefix_append_right_inj]
    have hbegins : fragment.lower <+: only :=
      prefix_of_mem_filter (hfound ▸ List.mem_singleton_self only)
    exact hbegins.trans (List.prefix_append only _)
  · next hnil _ =>
    split at h
    · obtain ⟨rfl, -⟩ := replaced.inj h
      rw [List.prefix_append_right_inj]
      exact prefix_commonPrefix_filter hnil
    · cases h

/-- What is shown are all of the matches. -/
theorem eq_filter_of_resolve_eq_suggestions {shown : List Text}
    (h : resolve lead fragment candidates = suggestions shown) :
    shown = candidates.filter fragment.lower.isPrefixOf := by
  rw [resolve] at h
  split at h
  · cases h
  · cases h
  · split at h
    · cases h
    · exact (suggestions.inj h).symm

end Matches

/-- **How several matches are completed.** The search for what texts share ends without a cut within
a character, and what it finds is the greatest of their common beginnings, in whatever order they
are, and nothing for no texts. So for candidates in small letters the fragment is kept, whatever is
done: what is put into a line begins with it, and so does all that is shown. Several matches are
shown exactly if they share no more than the fragment. Otherwise what they share is put there, which
is longer than the fragment and begins with it; and if that is completed in turn, the same matches
are shown. All of this is the same when the texts are cut and measured in bytes. -/
theorem resolve_keeps_fragment :
    (∀ ts, commonPrefix? ts = some (commonPrefix ts)) ∧ commonPrefix [] = [] ∧
      (∀ ts, ts ≠ [] → (∀ t ∈ ts, commonPrefix ts <+: t) ∧
        ∀ p : Text, (∀ t ∈ ts, p <+: t) → p <+: commonPrefix ts) ∧
      (∀ ts ts', ts.Perm ts' → commonPrefix ts = commonPrefix ts') ∧
      ∀ (lead fragment : Text) (candidates : List Text),
        (∀ candidate ∈ candidates, candidate.AllSmall) →
        let lowered := fragment.lower
        let found := candidates.filter lowered.isPrefixOf
        sliceResolve? lead fragment candidates = some (resolve lead fragment candidates) ∧
          (∀ line caret, resolve lead fragment candidates = replaced line caret →
            lead ++ lowered <+: line) ∧
          (∀ shown, resolve lead fragment candidates = suggestions shown →
            ∀ candidate ∈ shown, lowered <+: candidate) ∧
          (2 ≤ found.length →
            (resolve lead fragment candidates = suggestions found ↔
              commonPrefix found = lowered) ∧
            (commonPrefix found ≠ lowered →
              resolve lead fragment candidates =
                replaced (lead ++ commonPrefix found) (lead ++ commonPrefix found).length ∧
              lowered <+: commonPrefix found ∧ lowered.length < (commonPrefix found).length ∧
              resolve lead (commonPrefix found) candidates = suggestions found)) := by
  refine ⟨commonPrefix?_eq, rfl, fun ts hne => ⟨?_, fun p => (prefix_commonPrefix_iff hne).2⟩,
    fun ts ts' => commonPrefix_perm, fun lead fragment candidates hsmall => ?_⟩
  · exact (prefix_commonPrefix_iff hne).1 List.prefix_rfl
  · intro lowered found
    refine ⟨sliceResolve?_eq lead fragment candidates,
      fun line caret => prefix_of_resolve_eq_replaced, fun shown hshown candidate hmem => ?_,
      fun htwo => ?_⟩
    · rw [eq_filter_of_resolve_eq_suggestions hshown] at hmem
      exact prefix_of_mem_filter hmem
    · have hbegins : lowered <+: commonPrefix found :=
        prefix_commonPrefix_filter (List.ne_nil_of_length_pos (Nat.lt_of_succ_lt htwo))
      rw [resolve_of_two_le htwo]
      refine ⟨⟨fun h => ?_, fun h => if_pos h⟩, fun hmore => ⟨if_neg hmore, hbegins, ?_, ?_⟩⟩
      · by_contra hmore
        rw [if_neg hmore] at h
        cases h
      · exact lt_of_le_of_ne hbegins.length_le fun h => hmore (hbegins.eq_of_length h).symm
      · exact resolve_extended hsmall htwo

/-- Two candidates of three begin with `pr`, and they agree as far as `pro`. -/
theorem resolve_keeps_fragment_pr :
    let candidates := ["projects", "prompt", "ls"].map String.toList
    resolve "  ".toList "PR".toList candidates = replaced "  pro".toList 5 ∧
      resolve "  ".toList "pro".toList candidates =
        suggestions (["projects", "prompt"].map String.toList) := by
  intro candidates
  have hfound : candidates.filter (Text.lower "PR".toList).isPrefixOf =
      ["projects", "prompt"].map String.toList := by
    decide +kernel
  have hshared : commonPrefix (["projects", "prompt"].map String.toList) = "pro".toList := by
    decide +kernel
  obtain ⟨-, -, -, -, h⟩ := resolve_keeps_fragment
  obtain ⟨-, -, -, hmany⟩ := h "  ".toList "PR".toList candidates (by decide +kernel)
  -- with the matches and what they share evaluated, the facts are about these texts
  rw [hfound, hshared] at hmany
  obtain ⟨-, hmore⟩ := hmany (by decide)
  obtain ⟨hput, -, -, hagain⟩ := hmore (by decide +kernel)
  exact ⟨hput, hagain⟩

end Completion

end PageShell
