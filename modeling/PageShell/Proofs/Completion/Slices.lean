import PageShell.Proofs.CommonPrefix
import PageShell.Proofs.Completion

/-!
# Completion by byte offsets

A line is kept as its bytes, and what a completion keeps of it and goes on with
are slices of these. The two letters of `cd` are looked for in the first two
bytes, and where blanks go from the front, the sizes tell how much is left. Each
of these offsets could be within a character; none is.

* `Completion.sliceTarget?`, `Completion.sliceResolve?`,
  `Completion.sliceLine?` — completion by slices, which fails if a slice begins
  or ends within a character;
* `Completion.sliceLine?_eq` — **it never fails**, and completes the line in the
  same way.
-/

namespace PageShell

namespace Completion

/-- Splits blanks, the word `cd`, blanks and a fragment into what is kept and the fragment. The word
is what the first two bytes spell, if they can be cut off. -/
def sliceTarget? (left : Text) : Option (Option (Text × Text)) :=
  match left.trimStart.splitAt? 2 with
  | none => some none
  | some (word, rest) =>
    let fragment := Text.trimStart rest
    if word.lowerAscii ≠ "cd".toList then some none
    else if fragment.byteSize = rest.byteSize ∨ fragment.any isBlank then some none
    else (left.splitAt? (left.byteSize - fragment.byteSize)).map some

/-- Completes a fragment, comparing sizes in bytes. -/
def sliceResolve? (lead fragment : Text) (candidates : List Text) : Option Completion :=
  let lowered := fragment.lower
  match candidates.filter lowered.isPrefixOf with
  | [] => some unchanged
  | [only] => some (put (lead ++ only ++ [' ']))
  | found =>
    match commonPrefix? found with
    | none => none
    | some shared =>
      if lowered.byteSize < shared.byteSize then some (put (lead ++ shared))
      else some (suggestions found)

/-- Completes the last word of a text. -/
def sliceLeft? (left : Text) : Option Completion :=
  match sliceTarget? left with
  | none => none
  | some (some (lead, fragment)) => sliceResolve? lead fragment targetCandidates
  | some none =>
    let fragment := left.trimStart
    if fragment.any isBlank then some unchanged
    else
      match left.splitAt? (left.byteSize - fragment.byteSize) with
      | none => none
      | some (lead, _) => sliceResolve? lead fragment commandCandidates

/-- **Completes the word at a caret**, with every slice taken at a byte offset. -/
def sliceLine? (line : Text) (caret : Nat) : Option Completion :=
  match line.splitAt? (line.offset caret) with
  | none => none
  | some (left, right) => if right.any isBlank then some unchanged else sliceLeft? left

/-! ### Slices between characters -/

/-- The two letters of `cd` take a byte each. -/
theorem splitAt?_of_spellsCd {c d : Char} (h : spellsCd c d = true) (rest : Text) :
    Text.splitAt? (c :: d :: rest) 2 = some ([c, d], rest) := by
  rw [spellsCd_iff] at h
  obtain ⟨rfl | rfl, rfl | rfl⟩ := h
  all_goals exact Text.splitAt?_append [_, _] rest

/-- Two letters spell `cd` exactly if they are `cd` in small letters. -/
theorem lowerAscii_pair_iff {c d : Char} :
    Text.lowerAscii [c, d] = "cd".toList ↔ spellsCd c d = true := by
  simp [Text.lowerAscii, spellsCd]

/-- After `cd` the text is cut before the fragment. -/
theorem sliceTarget?_of_spellsCd {left rest : Text} {c d : Char}
    (hstart : left.trimStart = c :: d :: rest) (hcd : spellsCd c d = true) :
    sliceTarget? left = some (splitTarget? left) := by
  have hsplit := splitTarget?_of_spellsCd hstart hcd
  have hsuffix : Text.trimStart rest <:+ rest := List.dropWhile_suffix _
  have hsize := Text.byteSize_eq_of_suffix_iff hsuffix
  have hlen := hsuffix.length_le
  rw [sliceTarget?, hstart, splitAt?_of_spellsCd hcd]
  simp only [lowerAscii_pair_iff.2 hcd, ne_eq, not_true_eq_false, if_false, hsize]
  split
  · next hnone =>
    rw [hsplit, if_neg]
    rintro ⟨hlt, hblank⟩
    rcases hnone with heq | hany
    · omega
    · rw [hblank] at hany
      cases hany
  · next hsome =>
    rw [not_or, Bool.not_eq_true] at hsome
    rw [if_pos ⟨by omega, hsome.2⟩] at hsplit
    -- the fragment ends the text, so its size is the offset from the end
    obtain ⟨hleft, -, -⟩ := splitTarget?_eq_some hsplit
    have hcut := Text.splitAt?_sub
      (left.take (left.length - (Text.trimStart rest).length)) (Text.trimStart rest)
    rw [← hleft] at hcut
    rw [hcut, hsplit]
    rfl

/-- Two bytes that can be cut off are `cd` only if two letters spell it. -/
theorem sliceTarget?_of_not_spellsCd {left : Text}
    (h : ∀ c d rest, left.trimStart = c :: d :: rest → spellsCd c d = false) :
    sliceTarget? left = some none := by
  rw [sliceTarget?]
  split
  · rfl
  · next word rest hcut =>
    obtain ⟨hstart, -⟩ := Text.splitAt?_eq_some_iff.1 hcut
    have hword : word.lowerAscii ≠ "cd".toList := by
      intro hword
      have hlen : word.length = 2 := by
        simpa [Text.lowerAscii] using congrArg List.length hword
      obtain ⟨c, d, rfl⟩ := List.length_eq_two.1 hlen
      have hcd := lowerAscii_pair_iff.1 hword
      rw [h c d rest hstart] at hcd
      cases hcd
    exact if_pos hword

/-- **A target is looked for at the same place.** -/
theorem sliceTarget?_eq (left : Text) : sliceTarget? left = some (splitTarget? left) := by
  by_cases hcd : ∃ c d rest, left.trimStart = c :: d :: rest ∧ spellsCd c d = true
  · obtain ⟨c, d, rest, hstart, hcd⟩ := hcd
    exact sliceTarget?_of_spellsCd hstart hcd
  · have hnot : ∀ c d rest, left.trimStart = c :: d :: rest → spellsCd c d = false :=
      fun c d rest hstart => eq_false_of_ne_true fun h => hcd ⟨c, d, rest, hstart, h⟩
    rw [sliceTarget?_of_not_spellsCd hnot, splitTarget?_of_not_spellsCd hnot]

/-- **A fragment is completed in the same way**: it begins what the matches share, so that sizes
compare like lengths. -/
theorem sliceResolve?_eq (lead fragment : Text) (candidates : List Text) :
    sliceResolve? lead fragment candidates = some (resolve lead fragment candidates) := by
  rw [sliceResolve?, resolve]
  have hshared (hne : candidates.filter fragment.lower.isPrefixOf ≠ []) :=
    prefix_commonPrefix_filter hne
  generalize candidates.filter fragment.lower.isPrefixOf = found at hshared
  rcases found with _ | ⟨first, _ | ⟨second, more⟩⟩
  · rfl
  · rfl
  · have hbegins := hshared (List.cons_ne_nil first (second :: more))
    simp only [commonPrefix?_eq, Text.byteSize_lt_of_prefix_iff hbegins]
    split
    · rfl
    · rfl

theorem sliceLeft?_eq (left : Text) : sliceLeft? left = some (ofLeft left) := by
  rw [sliceLeft?, sliceTarget?_eq, ofLeft]
  rcases splitTarget? left with _ | ⟨lead, fragment⟩
  · dsimp only
    split
    · rfl
    · have hcut := Text.splitAt?_sub (left.takeWhile isBlank) left.trimStart
      rw [Text.trimStart, List.takeWhile_append_dropWhile] at hcut
      rw [Text.trimStart, hcut]
      exact sliceResolve?_eq _ _ commandCandidates
  · exact sliceResolve?_eq lead fragment targetCandidates

/-- **No slice begins or ends within a character**, and the line is completed in the same way. -/
theorem sliceLine?_eq (line : Text) (caret : Nat) :
    sliceLine? line caret = some (ofLine line caret) := by
  rw [sliceLine?, Text.splitAt?_offset, ofLine]
  dsimp only
  split
  · rfl
  · exact sliceLeft?_eq _

end Completion

end PageShell
