import PageShell.Proofs.Completion.Slices

/-!
# Which completions there are

Left of the caret a line can be completed in two places: after `cd` and blanks,
where a target is expected, and after nothing but blanks, where a command is.
The fragment itself has no blanks. However a line can be read like this, it is
completed accordingly; a line that cannot be read like this is left alone.

* `Completion.AfterCd` — what a target may follow;
* `Completion.choose` — what is done with the candidates that match;
* `Completion.ofLeft_of_afterCd`, `Completion.ofLeft_of_isBlank`,
  `Completion.ofLeft_of_neither` — the three readings;
* `Completion.ofLine_of_reading` — **every completion**, read off the line.
-/

namespace PageShell

namespace Text

/-- A text without blanks keeps its beginning. -/
theorem trimStart_of_any_eq_false {t : Text} (h : t.any PageShell.isBlank = false) :
    t.trimStart = t := by
  cases t with
  | nil => rfl
  | cons c cs =>
    rw [List.any_cons, Bool.or_eq_false_iff] at h
    rw [trimStart, List.dropWhile_cons_of_neg (by simp [h.1])]

/-- What follows leading blanks is left, if it has none itself. -/
theorem trimStart_append_of_any_eq_false {before t : Text} (hb : before.isBlank = true)
    (h : t.any PageShell.isBlank = false) : (before ++ t).trimStart = t := by
  rw [trimStart_append_of_isBlank hb, trimStart_of_any_eq_false h]

end Text

namespace Completion

/-! ### What a fragment follows -/

/-- **What a target may follow**: blanks, `cd` in any case, and at least one blank. -/
def AfterCd (lead : Text) : Prop :=
  ∃ (before gap : Text) (c d : Char), lead = before ++ c :: d :: gap ∧ before.isBlank = true ∧
    (c = 'c' ∨ c = 'C') ∧ (d = 'd' ∨ d = 'D') ∧ gap ≠ [] ∧ gap.isBlank = true

section Readings

variable {lead fragment : Text}

/-- The text is split before a target. -/
theorem splitTarget?_of_afterCd (h : AfterCd lead) (hf : fragment.any isBlank = false) :
    splitTarget? (lead ++ fragment) = some (lead, fragment) := by
  obtain ⟨before, gap, c, d, rfl, hbefore, hc, hd, hne, hgap⟩ := h
  have hcd : spellsCd c d = true := spellsCd_iff.2 ⟨hc, hd⟩
  have hstart : Text.trimStart (before ++ c :: d :: gap ++ fragment) =
      c :: d :: (gap ++ fragment) := by
    rw [List.append_assoc, Text.trimStart_append_of_isBlank hbefore, Text.trimStart,
      List.cons_append, List.cons_append,
      List.dropWhile_cons_of_neg (by simp [(isBlank_of_spellsCd hcd).1])]
  have hrest : Text.trimStart (gap ++ fragment) = fragment :=
    Text.trimStart_append_of_any_eq_false hgap hf
  have hpos : 0 < gap.length := List.length_pos_iff.2 hne
  rw [splitTarget?_of_spellsCd hstart hcd, hrest, if_pos, List.length_append, Nat.add_sub_cancel,
    List.take_left]
  exact ⟨by simpa using hpos, hf⟩

/-- Without blanks between them, no target follows `cd`. -/
theorem splitTarget?_of_isBlank (h : lead.isBlank = true) (hf : fragment.any isBlank = false) :
    splitTarget? (lead ++ fragment) = none := by
  rw [splitTarget?, Text.trimStart_append_of_any_eq_false h hf]
  split
  · next c d rest =>
    have hrest : rest.any isBlank = false := by simp_all
    simp [Text.trimStart_of_any_eq_false hrest]
  · rfl

/-- After `cd` a target is completed. -/
theorem ofLeft_of_afterCd (h : AfterCd lead) (hf : fragment.any isBlank = false) :
    ofLeft (lead ++ fragment) = resolve lead fragment targetCandidates := by
  rw [ofLeft, splitTarget?_of_afterCd h hf]

/-- At the front of a line a command is completed. -/
theorem ofLeft_of_isBlank (h : lead.isBlank = true) (hf : fragment.any isBlank = false) :
    ofLeft (lead ++ fragment) = resolve lead fragment commandCandidates := by
  have hstart := Text.trimStart_append_of_any_eq_false h hf
  have hlead : (lead ++ fragment).takeWhile isBlank = lead := by
    have hwhole : (lead ++ fragment).takeWhile isBlank ++ (lead ++ fragment).trimStart =
        lead ++ fragment := List.takeWhile_append_dropWhile
    rw [hstart] at hwhole
    exact List.append_cancel_right hwhole
  rw [ofLeft, splitTarget?_of_isBlank h hf, hstart, hlead]
  simp [hf]

/-- Anywhere else nothing is completed. -/
theorem ofLeft_of_neither {left : Text}
    (h : ∀ lead fragment : Text, left = lead ++ fragment → fragment.any isBlank = false →
      ¬ AfterCd lead ∧ lead.isBlank = false) : ofLeft left = unchanged := by
  obtain hnone | ⟨lead, fragment, candidates, hleft, hf, hcontext, -⟩ := ofLeft_cases left
  · exact hnone
  · obtain ⟨hcd, hblank⟩ := h lead fragment hleft hf
    cases hcontext with
    | command hlead => rw [hlead] at hblank; cases hblank
    | target hbefore hspells hne hgap =>
      obtain ⟨hc, hd⟩ := spellsCd_iff.1 hspells
      exact absurd ⟨_, _, _, _, rfl, hbefore, hc, hd, hne, hgap⟩ hcd

end Readings

/-! ### What becomes of the candidates -/

/-- **What is done with the candidates**: of those that begin with the fragment in small letters, a
single one takes the place of the fragment, with a space after it and the caret behind that; several
are shown. -/
def choose (lead fragment : Text) (candidates : List Text) : Completion :=
  match candidates.filter fragment.lower.isPrefixOf with
  | [] => unchanged
  | [only] => replaced (lead ++ only ++ [' ']) (lead ++ only ++ [' ']).length
  | found => suggestions found

theorem resolve_eq_choose {candidates : List Text} (h : Branching candidates)
    (lead fragment : Text) : resolve lead fragment candidates = choose lead fragment candidates :=
  resolve_of_branching h lead fragment

/-- **Every completion.** Cut the line at the caret, or at its end if the caret is past it. Nothing
is done where blanks follow. Otherwise, if the left part is a fragment without blanks after `cd`,
the candidates are the pages and the aliases of the home page; if it is one after nothing but
blanks, they are the commands; and if it is neither, nothing is done. Candidates are never put there
in part. All of this is the same when the line is cut at byte offsets, and none of these is within a
character. -/
theorem ofLine_of_reading (line : Text) (caret : Nat) :
    let left := line.take (min caret line.length)
    let right := line.drop (min caret line.length)
    (right.any isBlank = true → ofLine line caret = unchanged) ∧
      (right.any isBlank = false →
        (∀ lead fragment : Text, left = lead ++ fragment → fragment.any isBlank = false →
          AfterCd lead →
          ofLine line caret = choose lead fragment
            (["home", "about", "projects", "certs", "contact", "~", "/", ".."].map String.toList)) ∧
        (∀ lead fragment : Text, left = lead ++ fragment → fragment.any isBlank = false →
          lead.isBlank = true →
          ofLine line caret = choose lead fragment
            (["help", "ls", "cd", "whoami", "date", "clear"].map String.toList)) ∧
        ((∀ lead fragment : Text, left = lead ++ fragment → fragment.any isBlank = false →
            ¬ AfterCd lead ∧ lead.isBlank = false) →
          ofLine line caret = unchanged)) ∧
      sliceLine? line caret = some (ofLine line caret) := by
  intro left right
  have hleft : left = line.take caret := List.take_eq_take_min.symm
  have hright : right = line.drop caret := List.drop_eq_drop_min.symm
  have hline : right.any isBlank = false → ofLine line caret = ofLeft left := by
    intro h
    rw [ofLine, ← hright, h, ← hleft]
    rfl
  refine ⟨fun h => ?_, fun h => ⟨?_, ?_, ?_⟩, sliceLine?_eq line caret⟩
  · rw [ofLine, ← hright, if_pos h]
  · intro lead fragment hcut hf hcd
    rw [hline h, hcut, ofLeft_of_afterCd hcd hf]
    exact resolve_eq_choose branching_targetCandidates lead fragment
  · intro lead fragment hcut hf hblank
    rw [hline h, hcut, ofLeft_of_isBlank hblank hf]
    exact resolve_eq_choose branching_commandCandidates lead fragment
  · intro hneither
    rw [hline h, ofLeft_of_neither hneither]

-- the letters right of the caret are lost
example : ofLine "\tCD  PROvided".toList 8 = replaced "\tCD  projects ".toList 14 := by
  decide +kernel

end Completion

end PageShell
