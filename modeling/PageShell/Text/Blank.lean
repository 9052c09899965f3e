import PageShell.Text.Basic

/-!
# Blank characters

A character is *blank* when it has the Unicode property `White_Space`. The
property has twenty-five members; the zero-width space, the byte order mark
and the ASCII separators `U+001C` to `U+001F` are not among them.

* `Text.trim` — a text without the blanks around it;
* `Text.isBlank` — whether a text has nothing but blanks.
-/

namespace PageShell

/-- Whether a character has the Unicode property `White_Space`. -/
def isBlank (c : Char) : Bool :=
  let n := c.toNat
  (0x09 ≤ n && n ≤ 0x0D) || n == 0x20 || n == 0x85 || n == 0xA0 || n == 0x1680 ||
    (0x2000 ≤ n && n ≤ 0x200A) || n == 0x2028 || n == 0x2029 || n == 0x202F ||
    n == 0x205F || n == 0x3000

namespace Text

/-- The text without its leading blanks. -/
def trimStart (t : Text) : Text :=
  t.dropWhile PageShell.isBlank

/-- The text without the blanks around it. -/
def trim (t : Text) : Text :=
  dropEnd PageShell.isBlank t.trimStart

/-- Whether every character of the text is blank. -/
def isBlank (t : Text) : Bool :=
  t.all PageShell.isBlank

/-- Leading blanks go, and all of the text if it has nothing else. -/
theorem trimStart_eq_nil_iff {t : Text} : t.trimStart = [] ↔ t.isBlank = true := by
  induction t with
  | nil => simp [trimStart, isBlank]
  | cons c cs ih =>
    by_cases hc : PageShell.isBlank c = true
    · rw [trimStart, List.dropWhile_cons_of_pos hc, isBlank, List.all_cons, hc, Bool.true_and]
      exact ih
    · simp [trimStart, isBlank, hc]

/-- A text is blank exactly if it is blank without its leading blanks. -/
theorem isBlank_trimStart (t : Text) : t.trimStart.isBlank = t.isBlank := by
  induction t with
  | nil => rfl
  | cons c cs ih =>
    by_cases hc : PageShell.isBlank c = true
    · simpa [trimStart, isBlank, hc] using ih
    · simp [trimStart, isBlank, hc]

/-- **Nothing is left of exactly the blank texts.** -/
theorem trim_eq_nil_iff {t : Text} : t.trim = [] ↔ t.isBlank = true := by
  have hend : trimStart t.trimStart.reverse = [] ↔ isBlank t.trimStart.reverse = true :=
    trimStart_eq_nil_iff
  rw [isBlank, List.all_reverse] at hend
  rw [trim, dropEnd, List.reverse_eq_nil_iff, ← isBlank_trimStart]
  exact hend

end Text

end PageShell
