import PageShell.CommandLine
import PageShell.Proofs.Text.Trim

/-!
# The words of a line

An accepted line is printable, so the only blanks in it are spaces. Its words
are read off one after the other: a word ends at a space, and further spaces
belong to none.

* `Text.words_append_space`, `Text.words_replicate_append` — how words are read
  off the front of a text;
* `eq_space_of_isBlank` — which blanks are printable;
* `CommandLine.read_trim`, `CommandLine.read_of_trim` — blanks around a line do
  not count, and what a trimmed line is;
* `CommandLine.read_eq_ok_none_iff` — which lines are read as nothing.
-/

namespace PageShell

namespace Text

/-- A space before a text belongs to no word. -/
theorem words_cons_space (t : Text) : words (' ' :: t) = words t := by
  cases t with
  | nil => rfl
  | cons d cs => rw [words, if_pos rfl]

/-- So do several spaces. -/
theorem words_replicate_append (n : Nat) (t : Text) :
    words (List.replicate n ' ' ++ t) = words t := by
  induction n with
  | zero => rfl
  | succ n ih => rw [List.replicate_succ, List.cons_append, words_cons_space, ih]

/-- A text without spaces is one word. -/
theorem words_of_notMem {w : Text} (hne : w ≠ []) (hs : ' ' ∉ w) : words w = [w] := by
  induction w with
  | nil => exact absurd rfl hne
  | cons c cs ih =>
    rw [List.mem_cons, not_or] at hs
    cases cs with
    | nil => rw [words, if_neg (Ne.symm hs.1)]
    | cons d ds =>
      have hd : d ≠ ' ' := fun h => hs.2 (h ▸ List.mem_cons_self)
      rw [words, if_neg (Ne.symm hs.1), if_neg hd, ih (List.cons_ne_nil _ _) hs.2]
      rfl

/-- **A space ends a word.** -/
theorem words_append_space {w : Text} (hne : w ≠ []) (hs : ' ' ∉ w) (t : Text) :
    words (w ++ ' ' :: t) = w :: words t := by
  induction w with
  | nil => exact absurd rfl hne
  | cons c cs ih =>
    rw [List.mem_cons, not_or] at hs
    cases cs with
    | nil =>
      rw [List.cons_append, List.nil_append, words, if_neg (Ne.symm hs.1), if_pos rfl,
        words_cons_space]
    | cons d ds =>
      have hd : d ≠ ' ' := fun h => hs.2 (h ▸ List.mem_cons_self)
      have hrest := ih (List.cons_ne_nil _ _) hs.2
      rw [List.cons_append] at hrest
      rw [List.cons_append, List.cons_append, words, if_neg (Ne.symm hs.1), if_neg hd, hrest]
      rfl

end Text

/-- Which characters are printable. -/
theorem isPrintable_iff {c : Char} : isPrintable c = true ↔ 0x20 ≤ c.toNat ∧ c.toNat ≤ 0x7E := by
  simp only [isPrintable, Bool.and_eq_true, decide_eq_true_eq]

/-- The only printable blank is the space. -/
theorem eq_space_of_isBlank {c : Char} (hb : isBlank c = true) (hp : isPrintable c = true) :
    c = ' ' := by
  rw [isPrintable_iff] at hp
  simp only [isBlank, Bool.or_eq_true, Bool.and_eq_true, decide_eq_true_eq, beq_iff_eq] at hb
  have hcode : c.toNat = 0x20 := by omega
  exact Char.toNat_inj.1 hcode

/-- **Blanks around a line do not count.** -/
theorem CommandLine.read_trim (line : Text) : read line.trim = read line := by
  simp only [read, Text.trim_trim]

/-- **What a trimmed line is.** -/
theorem CommandLine.read_of_trim {text : Text} (ht : text.trim = text) (hne : text ≠ []) :
    read text =
      if maxCommandLength < text.length then .error .tooLong
      else if text.all isPrintable then .ok (some (ofText text))
      else .error .unprintable := by
  have hempty : ¬ text.isEmpty = true := fun h => hne (List.isEmpty_iff.1 h)
  simp only [read, ht, if_neg hempty]
  cases text.all isPrintable with
  | false => rfl
  | true => rfl

/-- Exactly the blank lines are read as nothing. -/
theorem CommandLine.read_eq_ok_none_iff {line : Text} :
    read line = .ok none ↔ line.isBlank = true := by
  rw [← Text.trim_eq_nil_iff, ← List.isEmpty_iff]
  simp only [read]
  constructor
  · intro h
    split at h
    · assumption
    · split at h
      · cases h
      · split at h <;> cases h
  · intro h
    rw [if_pos h]

end PageShell
