import Mathlib.Data.List.DropRight
import PageShell.Text.Blank

/-!
# Trimmed texts

A text that was trimmed has no blank at either end, so trimming it again
changes nothing. That is why a submitted line may be trimmed by everyone who
reads it: all of them see the same text.

* `Text.trim_trim` — trimming is idempotent;
* `Text.isBlank_trim` — a text is blank before exactly if it is blank after;
* `Text.trim_append_of_isBlank` — blanks around a text go;
* `Text.trim_eq_self` — a text that neither begins nor ends with a blank stays;
* `Text.exists_trim`, `Text.isBlank_of_head?_trim`, `Text.isBlank_of_getLast?_trim`
  — what goes is blank, and what stays begins and ends with no blank.
-/

namespace PageShell

namespace Text

/-- Dropping an ending is dropping a beginning of the reversed text. -/
theorem dropEnd_eq_rdropWhile (p : Char → Bool) (t : Text) : dropEnd p t = t.rdropWhile p := rfl

/-- What trimming leaves is a beginning of the text without its leading blanks. -/
theorem trim_prefix_trimStart (t : Text) : t.trim <+: t.trimStart := by
  rw [trim, dropEnd_eq_rdropWhile]
  exact List.rdropWhile_prefix _ _

/-- Nothing is added to a text that is trimmed. -/
theorem trim_sublist (t : Text) : t.trim.Sublist t :=
  (trim_prefix_trimStart t).sublist.trans (List.dropWhile_sublist _)

/-- No leading blanks are left once they were dropped. -/
theorem trimStart_trimStart (t : Text) : t.trimStart.trimStart = t.trimStart :=
  List.dropWhile_idempotent _ _

/-- A beginning of a text without leading blanks has no leading blanks either. -/
theorem trimStart_eq_self_of_prefix {t u : Text} (hu : u.trimStart = u) (h : t <+: u) :
    t.trimStart = t := by
  obtain ⟨rest, rfl⟩ := h
  cases t with
  | nil => rfl
  | cons c cs =>
    -- both texts begin with the same character
    have hc : ¬ PageShell.isBlank c = true :=
      List.dropWhile_eq_self_iff.1 hu (by simp)
    rw [trimStart, List.dropWhile_cons_of_neg hc]

/-- No leading blanks are left of a text that is trimmed. -/
theorem trimStart_trim (t : Text) : t.trim.trimStart = t.trim :=
  trimStart_eq_self_of_prefix (trimStart_trimStart t) (trim_prefix_trimStart t)

/-- **Trimming is idempotent.** -/
theorem trim_trim (t : Text) : t.trim.trim = t.trim := by
  have hend : dropEnd PageShell.isBlank t.trim = t.trim := by
    rw [trim, dropEnd_eq_rdropWhile, dropEnd_eq_rdropWhile]
    exact List.rdropWhile_idempotent _ _
  rw [trim, trimStart_trim, hend]

/-- **Trimming decides nothing about blankness.** -/
theorem isBlank_trim (t : Text) : t.trim.isBlank = t.isBlank := by
  rw [Bool.eq_iff_iff, ← trim_eq_nil_iff, ← trim_eq_nil_iff, trim_trim]

/-- Something is left of exactly the texts that are not blank. -/
theorem trim_ne_nil_iff {t : Text} : t.trim ≠ [] ↔ t.isBlank = false := by
  rw [ne_eq, trim_eq_nil_iff, Bool.not_eq_true]

/-! ### Texts with blanks around them -/

/-- A text is some blanks and what is left without its leading blanks. -/
theorem exists_trimStart (t : Text) :
    ∃ before : Text, before.isBlank = true ∧ t = before ++ t.trimStart :=
  ⟨t.takeWhile PageShell.isBlank, List.all_takeWhile, List.takeWhile_append_dropWhile.symm⟩

/-- Leading blanks go, whatever follows them. -/
theorem trimStart_append_of_isBlank {before : Text} (h : before.isBlank = true) (t : Text) :
    (before ++ t).trimStart = t.trimStart :=
  List.dropWhile_append_of_pos (List.all_eq_true.1 h)

/-- An ending of characters to be dropped goes, whatever stands before it. -/
theorem dropEnd_append_of_all {p : Char → Bool} {ending : Text} (h : ending.all p = true)
    (t : Text) : dropEnd p (t ++ ending) = dropEnd p t := by
  rw [dropEnd, List.reverse_append, List.dropWhile_append_of_pos, dropEnd]
  intro c hc
  exact List.all_eq_true.1 h c (List.mem_reverse.1 hc)

/-- A text is what is left without an ending, and that ending. -/
theorem exists_dropEnd (p : Char → Bool) (t : Text) :
    ∃ ending : Text, ending.all p = true ∧ t = dropEnd p t ++ ending :=
  ⟨t.rtakeWhile p, List.all_eq_true.2 fun _ => List.mem_rtakeWhile_imp,
    List.rdropWhile_append_rtakeWhile.symm⟩

/-- The last character that is left stays. -/
theorem eq_false_of_getLast?_dropEnd {p : Char → Bool} {t : Text} {c : Char}
    (h : (dropEnd p t).getLast? = some c) : p c = false := by
  rw [dropEnd_eq_rdropWhile] at h
  have hne : t.rdropWhile p ≠ [] := by
    intro hnil
    rw [hnil] at h
    cases h
  rw [List.getLast?_eq_some_getLast hne] at h
  obtain rfl := Option.some.inj h
  simpa using List.rdropWhile_last_not p t hne

/-- Nothing is dropped from a text whose last character stays. -/
theorem dropEnd_eq_self {p : Char → Bool} {t : Text} (h : ∀ c, t.getLast? = some c → p c = false) :
    dropEnd p t = t := by
  rw [dropEnd_eq_rdropWhile, List.rdropWhile_eq_self_iff]
  intro hne
  simpa using h _ (List.getLast?_eq_some_getLast hne)

/-- **Blanks around a text go** when it is trimmed, whatever stands between them. -/
theorem trim_append_of_isBlank {before after : Text} (hb : before.isBlank = true)
    (ha : after.isBlank = true) (t : Text) : (before ++ t ++ after).trim = t.trim := by
  rw [trim, trim, List.append_assoc, trimStart_append_of_isBlank hb, trimStart,
    List.dropWhile_append]
  split
  · next hempty =>
    -- the text is blank like all around it
    have hafter : after.dropWhile PageShell.isBlank = [] := trimStart_eq_nil_iff.2 ha
    have ht : t.trimStart = [] := List.isEmpty_iff.1 hempty
    rw [hafter, ht]
  · exact dropEnd_append_of_all ha _

/-- A trimmed text begins with no blank. -/
theorem isBlank_of_head?_trim {t : Text} {c : Char} (h : t.trim.head? = some c) :
    PageShell.isBlank c = false := by
  obtain ⟨cs, hcs⟩ := List.head?_eq_some_iff.1 h
  have hstart := trimStart_trim t
  rw [hcs, trimStart] at hstart
  have hc : ¬ PageShell.isBlank c = true := List.dropWhile_eq_self_iff.1 hstart (by simp)
  simpa using hc

/-- A trimmed text ends with no blank. -/
theorem isBlank_of_getLast?_trim {t : Text} {c : Char} (h : t.trim.getLast? = some c) :
    PageShell.isBlank c = false :=
  eq_false_of_getLast?_dropEnd h

/-- **A text is what is left of it when it is trimmed**, and the blanks around that. -/
theorem exists_trim (t : Text) : ∃ before after : Text,
    before.isBlank = true ∧ after.isBlank = true ∧ t = before ++ t.trim ++ after := by
  obtain ⟨before, hbefore, hstart⟩ := exists_trimStart t
  obtain ⟨after, hafter, hend⟩ := exists_dropEnd PageShell.isBlank t.trimStart
  refine ⟨before, after, hbefore, hafter, ?_⟩
  rw [List.append_assoc, trim, ← hend]
  exact hstart

/-- **A text without blanks at its ends is trimmed.** -/
theorem trim_eq_self {t : Text} (hhead : ∀ c, t.head? = some c → PageShell.isBlank c = false)
    (hlast : ∀ c, t.getLast? = some c → PageShell.isBlank c = false) : t.trim = t := by
  have hstart : t.trimStart = t := by
    rw [trimStart, List.dropWhile_eq_self_iff]
    intro hl
    simpa using hhead t[0] (List.head?_eq_getElem? ▸ List.getElem?_eq_getElem hl)
  rw [trim, hstart, dropEnd_eq_self hlast]

end Text

end PageShell
