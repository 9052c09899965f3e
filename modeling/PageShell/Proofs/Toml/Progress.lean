import Mathlib.Data.Option.Basic
import PageShell.Toml.Document

/-!
# Readers make progress

A reader takes its value off the front of a text, so what it leaves is no
longer than the text. Whatever is repeated takes at least one character, so
the bound of a repetition is never what ends it: an item that can be read is
read.

* `NeverGrows` — what is left is no longer;
* `neverGrows_value` — so it is for values, however deep;
* `shrinks_line` — **a line takes at least one character.**
-/

namespace PageShell.Toml

/-- Whether what a reader leaves is never longer than the text it was given. -/
def NeverGrows {α : Type} (item : Reader α) : Prop :=
  ∀ ⦃s rest : Text⦄ ⦃a : α⦄, item s = some (a, rest) → rest.length ≤ s.length

theorem Shrinks.neverGrows {α : Type} {item : Reader α} (h : Shrinks item) : NeverGrows item :=
  fun _ _ _ hread => Nat.le_of_lt (h hread)

/-! ### Pieces of texts -/

/-- What is read literally stands at the front. -/
theorem literal_eq_some_iff {expected s rest : Text} :
    literal expected s = some rest ↔ s = expected ++ rest := by
  rw [literal]
  constructor
  · intro h
    split at h
    · next hpre =>
      obtain ⟨t, rfl⟩ := List.isPrefixOf_iff_prefix.1 hpre
      rw [List.drop_left, Option.some.injEq] at h
      rw [h]
    · cases h
  · rintro rfl
    rw [if_pos (List.isPrefixOf_iff_prefix.2 (List.prefix_append _ _)), List.drop_left]

theorem literal_length_le {expected s rest : Text} (h : literal expected s = some rest) :
    rest.length ≤ s.length := by
  rw [literal_eq_some_iff.1 h, List.length_append]
  exact Nat.le_add_left _ _

theorem literal_length_lt {c : Char} {s rest : Text} (h : literal [c] s = some rest) :
    rest.length < s.length := by
  rw [literal_eq_some_iff.1 h]
  exact Nat.lt_succ_self _

theorem getD_literal_length_le (expected s : Text) :
    ((literal expected s).getD s).length ≤ s.length := by
  cases hliteral : literal expected s with
  | none => exact Nat.le_refl _
  | some rest => exact literal_length_le hliteral

theorem newline_length_lt {s rest : Text} (h : newline s = some rest) : rest.length < s.length := by
  rw [newline.eq_def] at h
  split at h
  · obtain rfl := Option.some.inj h
    exact Nat.lt_succ_self _
  · obtain rfl := Option.some.inj h
    exact Nat.lt_succ_of_lt (Nat.lt_succ_self _)
  · cases h

theorem skipSpaces_length_le (s : Text) : (skipSpaces s).length ≤ s.length :=
  (List.dropWhile_sublist _).length_le

theorem skipComment_length_le (s : Text) : (skipComment s).length ≤ s.length := by
  rw [skipComment.eq_def]
  split
  · exact Nat.le_succ_of_le (List.dropWhile_sublist _).length_le
  · exact Nat.le_refl _

theorem skipGapsFrom_length_le (inComment : Bool) (s : Text) :
    (skipGapsFrom inComment s).length ≤ s.length := by
  fun_induction skipGapsFrom inComment s <;> simp_all <;> omega

theorem skipGaps_length_le (s : Text) : (skipGaps s).length ≤ s.length :=
  skipGapsFrom_length_le false s

section Repetitions

variable {α : Type} {item : Reader α}

theorem manyUpTo_length_le (h : NeverGrows item) (bound : Nat) (s : Text) :
    (manyUpTo item bound s).2.length ≤ s.length := by
  induction bound generalizing s with
  | zero => exact Nat.le_refl _
  | succ bound ih =>
    rw [manyUpTo]
    split
    · exact Nat.le_refl _
    · next a rest hitem => exact Nat.le_trans (ih rest) (h hitem)

theorem many_length_le (h : NeverGrows item) (s : Text) : (many item s).2.length ≤ s.length :=
  manyUpTo_length_le h _ _

/-- An item with its separator takes at least the separator. -/
theorem shrinks_separator (h : NeverGrows item) (separator : Char) :
    Shrinks (fun t => do item (← literal [separator] t)) := by
  intro s rest a hread
  obtain ⟨t, hliteral, hitem⟩ := Option.bind_eq_some_iff.1 hread
  exact Nat.lt_of_le_of_lt (h hitem) (literal_length_lt hliteral)

theorem separated_length_le (h : NeverGrows item) (separator : Char) (s : Text) :
    (separated separator item s).2.length ≤ s.length := by
  rw [separated]
  split
  · exact Nat.le_refl _
  · next a rest hitem =>
    exact Nat.le_trans (many_length_le (shrinks_separator h separator).neverGrows rest) (h hitem)

end Repetitions

/-! ### Strings -/

theorem neverGrows_codePoint (digits : Nat) : NeverGrows (codePoint digits) := by
  intro s rest c h
  simp only [codePoint, Option.bind_eq_bind, Option.bind_eq_some_iff, Option.pure_def,
    Option.some.injEq, Prod.mk.injEq] at h
  obtain ⟨-, -, -, -, -, rfl⟩ := h
  exact (List.drop_sublist _ _).length_le

theorem shrinks_escape : Shrinks escape := by
  intro s rest c h
  rw [escape.eq_def] at h
  split at h
  case h_8 t => exact Nat.lt_succ_of_le (neverGrows_codePoint 4 h)
  case h_9 t => exact Nat.lt_succ_of_le (neverGrows_codePoint 8 h)
  case h_10 => cases h
  all_goals
    obtain ⟨-, rfl⟩ := Prod.mk.inj (Option.some.inj h)
    exact Nat.lt_succ_self _

theorem shrinks_basicUnit : Shrinks basicUnit := by
  intro s rest c h
  rw [basicUnit.eq_def] at h
  split at h
  · exact Nat.lt_succ_of_lt (shrinks_escape h)
  · split at h
    · obtain ⟨-, rfl⟩ := Prod.mk.inj (Option.some.inj h)
      exact Nat.lt_succ_self _
    · cases h
  · cases h

theorem neverGrows_basic : NeverGrows basic := by
  intro s rest t h
  rw [basic] at h
  obtain ⟨rest', hliteral, heq⟩ := Option.map_eq_some_iff.1 h
  obtain ⟨-, rfl⟩ := Prod.mk.inj heq
  exact Nat.le_trans (literal_length_le hliteral) (many_length_le shrinks_basicUnit.neverGrows s)

theorem neverGrows_verbatim : NeverGrows verbatim := by
  intro s rest t h
  rw [verbatim] at h
  obtain ⟨rest', hliteral, heq⟩ := Option.map_eq_some_iff.1 h
  obtain ⟨-, rfl⟩ := Prod.mk.inj heq
  exact Nat.le_trans (literal_length_le hliteral) (List.dropWhile_sublist _).length_le

theorem neverGrows_closing (quote : Char) : NeverGrows (closing quote) := by
  intro s rest t h
  rw [closing] at h
  split at h
  · obtain ⟨-, rfl⟩ := Prod.mk.inj (Option.some.inj h)
    exact (List.drop_sublist _ _).length_le
  · cases h

theorem shrinks_innerQuote (quote : Char) : Shrinks (innerQuote quote) := by
  intro s rest t h
  rw [innerQuote] at h
  split at h
  · cases h
  · obtain ⟨rest', hliteral, heq⟩ := Option.map_eq_some_iff.1 h
    obtain ⟨-, rfl⟩ := Prod.mk.inj heq
    exact literal_length_lt hliteral

theorem shrinks_innerNewline : Shrinks innerNewline := by
  intro s rest t h
  obtain ⟨rest', hnewline, heq⟩ := Option.map_eq_some_iff.1 h
  obtain ⟨-, rfl⟩ := Prod.mk.inj heq
  exact newline_length_lt hnewline

theorem shrinks_spaceOrNewline : Shrinks continuation.spaceOrNewline := by
  intro s rest u h
  rw [continuation.spaceOrNewline.eq_def] at h
  split at h
  · cases h
  · split at h
    · obtain ⟨-, rfl⟩ := Prod.mk.inj (Option.some.inj h)
      exact Nat.lt_succ_self _
    · obtain ⟨rest', hnewline, heq⟩ := Option.map_eq_some_iff.1 h
      obtain ⟨-, rfl⟩ := Prod.mk.inj heq
      exact newline_length_lt hnewline

theorem shrinks_continuation : Shrinks continuation := by
  intro s rest t h
  obtain ⟨rest', hnewline, heq⟩ := Option.bind_eq_some_iff.1 h
  obtain ⟨-, rfl⟩ := Prod.mk.inj (Option.some.inj heq)
  have hlt := newline_length_lt hnewline
  have hspaces := skipSpaces_length_le s
  have hle := many_length_le shrinks_spaceOrNewline.neverGrows rest'
  omega

theorem shrinks_basicPiece : Shrinks basicPiece := by
  intro s rest t h
  rw [basicPiece.eq_def] at h
  split at h
  · next rest' =>
    rw [Option.orElse_eq_orElse, Option.orElse_eq_or, Option.or_eq_some_iff] at h
    rcases h with h | ⟨-, h⟩
    · exact Nat.lt_succ_of_lt (shrinks_continuation h)
    · obtain ⟨⟨c, rest''⟩, hescape, heq⟩ := Option.map_eq_some_iff.1 h
      obtain ⟨-, rfl⟩ := Prod.mk.inj heq
      exact Nat.lt_succ_of_lt (shrinks_escape hescape)
  · exact shrinks_innerQuote _ h
  · split at h
    · obtain ⟨-, rfl⟩ := Prod.mk.inj (Option.some.inj h)
      exact Nat.lt_succ_self _
    · exact shrinks_innerNewline h
  · cases h

theorem shrinks_verbatimPiece : Shrinks verbatimPiece := by
  intro s rest t h
  rw [verbatimPiece.eq_def] at h
  split at h
  · exact shrinks_innerQuote _ h
  · split at h
    · obtain ⟨-, rfl⟩ := Prod.mk.inj (Option.some.inj h)
      exact Nat.lt_succ_self _
    · exact shrinks_innerNewline h
  · cases h

theorem neverGrows_multiline (quote : Char) {piece : Reader Text} (h : Shrinks piece) :
    NeverGrows (multiline quote piece) := by
  intro s rest t hread
  rw [multiline] at hread
  obtain ⟨⟨quotes, rest'⟩, hclosing, heq⟩ := Option.bind_eq_some_iff.1 hread
  obtain ⟨-, rfl⟩ := Prod.mk.inj (Option.some.inj heq)
  have hclose : rest'.length ≤ (many piece ((newline s).getD s)).2.length :=
    neverGrows_closing quote hclosing
  have hmany := many_length_le h.neverGrows ((newline s).getD s)
  have hopening : ((newline s).getD s).length ≤ s.length := by
    cases hnewline : newline s with
    | none => exact Nat.le_refl _
    | some rest'' => exact Nat.le_of_lt (newline_length_lt hnewline)
  omega

theorem neverGrows_singleQuoted : NeverGrows singleQuoted := by
  intro s rest t h
  rw [singleQuoted.eq_def] at h
  split at h
  · exact Nat.le_succ_of_le (neverGrows_basic h)
  · exact Nat.le_succ_of_le (neverGrows_verbatim h)
  · cases h

theorem neverGrows_quoted : NeverGrows quoted := by
  intro s rest t h
  rw [quoted.eq_def] at h
  split at h
  · have := neverGrows_multiline '"' shrinks_basicPiece h
    simp only [List.length_cons]
    omega
  · have := neverGrows_multiline '\'' shrinks_verbatimPiece h
    simp only [List.length_cons]
    omega
  · exact neverGrows_singleQuoted h

/-! ### Keys -/

theorem neverGrows_simpleKey : NeverGrows simpleKey := by
  intro s rest key h
  rw [simpleKey.eq_def] at h
  split at h
  · exact neverGrows_singleQuoted h
  · exact neverGrows_singleQuoted h
  · split at h
    · cases h
    · obtain ⟨-, rfl⟩ := Prod.mk.inj (Option.some.inj h)
      exact (List.dropWhile_sublist _).length_le

theorem neverGrows_spacedKey : NeverGrows spacedKey := by
  intro s rest key h
  obtain ⟨⟨key', rest'⟩, hkey, heq⟩ := Option.map_eq_some_iff.1 h
  obtain ⟨-, rfl⟩ := Prod.mk.inj heq
  have hbefore := skipSpaces_length_le s
  have hmiddle := neverGrows_simpleKey hkey
  have hafter := skipSpaces_length_le rest'
  omega

theorem neverGrows_keyPath : NeverGrows keyPath := by
  intro s rest path h
  simp only [keyPath, Option.bind_eq_bind, Option.bind_eq_some_iff, Option.pure_def,
    Option.some.injEq, Prod.mk.injEq] at h
  obtain ⟨-, -, -, -, -, rfl⟩ := h
  exact separated_length_le neverGrows_spacedKey '.' s

/-! ### Values -/

theorem neverGrows_tokenValue : NeverGrows tokenValue := by
  intro s rest v h
  have hdrop := (List.dropWhile_sublist (l := s) isTokenChar).length_le
  -- only a time of day after a date takes more than one token
  have htime := (((List.dropWhile_sublist isTokenChar).trans (List.drop_sublist 1 _)).trans
    (List.dropWhile_sublist (l := s) isTokenChar)).length_le
  have htoken : ∀ {w : Node}, some (w, s.dropWhile isTokenChar) = some (v, rest) →
      rest.length ≤ s.length := by
    intro w heq
    obtain ⟨-, rfl⟩ := Prod.mk.inj (Option.some.inj heq)
    exact hdrop
  simp only [tokenValue] at h
  split at h
  · exact htoken h
  · split at h
    · exact htoken h
    · split at h
      · exact htoken h
      · split at h
        · exact htoken h
        · split at h
          · split at h
            · obtain ⟨-, rfl⟩ := Prod.mk.inj (Option.some.inj h)
              exact htime
            · exact htoken h
          · split at h
            · exact htoken h
            · cases h

section Item

variable {item : Reader Node}

theorem neverGrows_spacedItem (h : NeverGrows item) : NeverGrows (array.spacedItem item) := by
  intro s rest v hread
  obtain ⟨⟨v', rest'⟩, hitem, heq⟩ := Option.map_eq_some_iff.1 hread
  obtain ⟨-, rfl⟩ := Prod.mk.inj heq
  have hbefore := skipGaps_length_le s
  have hmiddle := h hitem
  have hafter := skipGaps_length_le rest'
  omega

theorem neverGrows_array (h : NeverGrows item) : NeverGrows (array item) := by
  intro s rest v hread
  simp only [array, Option.bind_eq_bind, Option.bind_eq_some_iff, Option.pure_def,
    Option.some.injEq, Prod.mk.injEq] at hread
  obtain ⟨rest', hliteral, -, rfl⟩ := hread
  have hitems := separated_length_le (neverGrows_spacedItem h) ',' s
  generalize separated ',' (array.spacedItem item) s = found at hliteral hitems
  have hcomma : (if found.1.isEmpty then found.2 else (literal [','] found.2).getD found.2).length ≤
      found.2.length := by
    split
    · exact Nat.le_refl _
    · exact getD_literal_length_le _ _
  calc rest'.length
      ≤ _ := literal_length_le hliteral
    _ ≤ _ := skipGaps_length_le _
    _ ≤ found.2.length := hcomma
    _ ≤ s.length := hitems

theorem neverGrows_keyValue (h : NeverGrows item) : NeverGrows (keyValue item) := by
  intro s rest v hread
  simp only [keyValue, Option.bind_eq_bind, Option.bind_eq_some_iff, Option.pure_def,
    Option.some.injEq, Prod.mk.injEq] at hread
  obtain ⟨⟨path, rest₁⟩, hpath, rest₂, hliteral, ⟨v', rest₃⟩, hitem, -, rfl⟩ := hread
  have h₁ := neverGrows_keyPath hpath
  have h₂ := literal_length_le hliteral
  have h₃ := h hitem
  have h₄ := skipSpaces_length_le rest₂
  have h₅ := skipSpaces_length_le rest₃
  dsimp only at h₁ h₂ h₃ h₄ h₅ ⊢
  omega

theorem neverGrows_inlineTable (h : NeverGrows item) : NeverGrows (inlineTable item) := by
  intro s rest v hread
  simp only [inlineTable, Option.bind_eq_bind, Option.bind_eq_some_iff, Option.pure_def,
    Option.some.injEq, Prod.mk.injEq] at hread
  obtain ⟨rest', hliteral, -, -, -, rfl⟩ := hread
  have hpairs := separated_length_le (neverGrows_keyValue h) ',' s
  have hspaces := skipSpaces_length_le (separated ',' (keyValue item) s).2
  have hle := literal_length_le hliteral
  omega

end Item

/-- What is left after a value is no longer, however deep the value is. -/
theorem neverGrows_value (depth : Nat) : NeverGrows (value depth) := by
  have hplain : NeverGrows (value 0) := by
    intro s rest v h
    rw [value] at h
    dsimp only at h
    rw [Option.orElse_eq_orElse, Option.orElse_eq_or, Option.or_eq_some_iff] at h
    rcases h with h | ⟨-, h⟩
    · obtain ⟨⟨t, rest'⟩, hquoted, heq⟩ := Option.map_eq_some_iff.1 h
      obtain ⟨-, rfl⟩ := Prod.mk.inj heq
      exact neverGrows_quoted hquoted
    · exact neverGrows_tokenValue h
  induction depth with
  | zero => exact hplain
  | succ depth ih =>
    intro s rest v h
    rw [value] at h
    dsimp only at h
    split at h
    · exact Nat.le_succ_of_le (neverGrows_array ih h)
    · exact Nat.le_succ_of_le (neverGrows_inlineTable ih h)
    · exact hplain h

/-! ### Lines -/

theorem neverGrows_header : NeverGrows header := by
  intro s rest said h
  rw [header.eq_def] at h
  split at h
  · simp only [Option.bind_eq_bind, Option.bind_eq_some_iff, Option.pure_def,
      Option.some.injEq, Prod.mk.injEq] at h
    obtain ⟨⟨path, rest₁⟩, hpath, rest₂, hliteral, -, rfl⟩ := h
    have h₁ := neverGrows_keyPath hpath
    have h₂ : rest₂.length ≤ rest₁.length := literal_length_le hliteral
    simp only [List.length_cons]
    omega
  · simp only [Option.bind_eq_bind, Option.bind_eq_some_iff, Option.pure_def,
      Option.some.injEq, Prod.mk.injEq] at h
    obtain ⟨⟨path, rest₁⟩, hpath, rest₂, hliteral, -, rfl⟩ := h
    have h₁ := neverGrows_keyPath hpath
    have h₂ : rest₂.length ≤ rest₁.length := literal_length_le hliteral
    simp only [List.length_cons]
    omega
  · cases h

theorem neverGrows_statement : NeverGrows statement := by
  intro s rest said h
  rw [statement.eq_def] at h
  split at h
  · exact neverGrows_header h
  · split at h
    · obtain ⟨-, rfl⟩ := Prod.mk.inj (Option.some.inj h)
      exact Nat.le_refl _
    · obtain ⟨⟨⟨path, v⟩, rest'⟩, hentry, heq⟩ := Option.map_eq_some_iff.1 h
      obtain ⟨-, rfl⟩ := Prod.mk.inj heq
      exact neverGrows_keyValue (neverGrows_value _) hentry
  · obtain ⟨-, rfl⟩ := Prod.mk.inj (Option.some.inj h)
    exact Nat.le_refl _

/-- The end of a line takes at least one character, except at the end of the text. -/
theorem lineEnd_length {s rest : Text} (h : lineEnd s = some rest) :
    rest = [] ∨ rest.length < s.length := by
  rw [lineEnd] at h
  have hspaces := skipSpaces_length_le s
  have hcomment := skipComment_length_le (skipSpaces s)
  split at h
  · exact .inl (Option.some.inj h).symm
  · have hnewline := newline_length_lt h
    exact .inr (by omega)

/-- **A line takes at least one character**: it ends in a line end, unless it is the last one. -/
theorem shrinks_line : Shrinks line := by
  intro s rest said h
  have hpos : 0 < s.length := by
    cases s with
    | nil => cases h
    | cons c cs => exact Nat.succ_pos _
  simp only [line, Option.bind_eq_bind, Option.bind_eq_some_iff, Option.pure_def,
    Option.some.injEq, Prod.mk.injEq] at h
  obtain ⟨-, -, ⟨said', rest₁⟩, hsaid, rest₂, hend, -, rfl⟩ := h
  have hspaces := skipSpaces_length_le s
  have hstatement := neverGrows_statement hsaid
  rcases lineEnd_length hend with rfl | hlt
  · exact hpos
  · dsimp only at hlt
    omega

end PageShell.Toml
