import Mathlib.Data.List.Infix
import PageShell.Completion
import PageShell.Text.Offset

/-!
# The longest common beginning

What several texts have in common at their beginnings is found from the first of
them, by going through the others: either character by character as far as they
agree, or by cutting off its last character, at its byte offset, until the rest
begins the next text. Both ways end at the greatest of all common beginnings.

* `prefix_commonPrefix_iff` — the common beginnings are those of the longest one;
* `shorten?`, `commonPrefix?` — the search by cuts;
* `commonPrefix?_eq` — it makes no cut within a character, and finds the same.
-/

namespace PageShell

/-- Texts with the same beginnings are the same. -/
theorem Text.eq_of_prefix_iff {a b : Text} (h : ∀ p : Text, p <+: a ↔ p <+: b) : a = b :=
  ((h a).1 List.prefix_rfl).eq_of_length_le ((h b).2 List.prefix_rfl).length_le

/-! ### Two texts, and more -/

/-- **The common beginnings of two texts** are the beginnings of the longest one. -/
theorem prefix_sharedPrefix_iff {p a b : Text} : p <+: sharedPrefix a b ↔ p <+: a ∧ p <+: b := by
  induction a generalizing p b with
  | nil => simp +contextual [sharedPrefix]
  | cons c cs ih =>
    cases b with
    | nil => simp +contextual [sharedPrefix]
    | cons d ds =>
      cases p with
      | nil => simp
      | cons e es =>
        by_cases hcd : c = d
        · subst hcd
          rw [sharedPrefix, if_pos rfl]
          simp only [List.cons_prefix_cons, ih]
          grind
        · rw [sharedPrefix, if_neg hcd, List.cons_prefix_cons, List.cons_prefix_cons]
          refine ⟨fun h => absurd (List.prefix_nil.1 h) (List.cons_ne_nil e es), ?_⟩
          rintro ⟨⟨rfl, -⟩, rfl, -⟩
          exact absurd rfl hcd

theorem prefix_foldl_sharedPrefix_iff {p t : Text} {ts : List Text} :
    p <+: ts.foldl sharedPrefix t ↔ p <+: t ∧ ∀ u ∈ ts, p <+: u := by
  induction ts generalizing t with
  | nil => simp
  | cons u us ih =>
    rw [List.foldl_cons, ih, prefix_sharedPrefix_iff, List.forall_mem_cons, and_assoc]

/-- **The common beginnings of several texts** are the beginnings of the longest one. -/
theorem prefix_commonPrefix_iff {p : Text} {ts : List Text} (h : ts ≠ []) :
    p <+: commonPrefix ts ↔ ∀ t ∈ ts, p <+: t := by
  obtain ⟨t, ts, rfl⟩ := List.exists_cons_of_ne_nil h
  rw [commonPrefix, prefix_foldl_sharedPrefix_iff, List.forall_mem_cons]

theorem prefix_of_mem_filter {p t : Text} {ts : List Text} (h : t ∈ ts.filter p.isPrefixOf) :
    p <+: t :=
  List.isPrefixOf_iff_prefix.1 (List.mem_filter.1 h).2

/-- The texts that begin alike share at least this beginning. -/
theorem prefix_commonPrefix_filter {p : Text} {ts : List Text} (h : ts.filter p.isPrefixOf ≠ []) :
    p <+: commonPrefix (ts.filter p.isPrefixOf) :=
  (prefix_commonPrefix_iff h).2 fun _ => prefix_of_mem_filter

/-! ### The search by cuts -/

theorem Text.length_of_cutLast? {t rest : Text} (hne : t ≠ []) (h : t.cutLast? = some rest) :
    rest.length < t.length := by
  rw [cutLast?_eq, Option.some.injEq] at h
  rw [← h, List.length_dropLast]
  exact Nat.sub_lt (List.length_pos_iff.2 hne) Nat.one_pos

/-- Cuts off the last characters of a text until it begins another one. -/
def shorten? (other shared : Text) : Option Text :=
  if h : shared.isPrefixOf other = false ∧ shared ≠ [] then
    match hcut : shared.cutLast? with
    | some rest =>
      have : rest.length < shared.length := Text.length_of_cutLast? h.2 hcut
      shorten? other rest
    | none => none
  else some shared
termination_by shared.length

/-- The longest beginning that all the texts share, found by cuts. -/
def commonPrefix? : List Text → Option Text
  | [] => some []
  | t :: ts => ts.foldlM (fun shared other => shorten? other shared) t

/-- A text that begins another one is what the two share. -/
theorem sharedPrefix_eq_self {a b : Text} (h : a <+: b) : sharedPrefix a b = a := by
  refine Text.eq_of_prefix_iff fun p => ?_
  rw [prefix_sharedPrefix_iff]
  exact ⟨And.left, fun hp => ⟨hp, hp.trans h⟩⟩

/-- A text that does not begin another one has no more in common with it than without its last
character. -/
theorem sharedPrefix_dropLast {a b : Text} (h : ¬ a <+: b) (hne : a ≠ []) :
    sharedPrefix a.dropLast b = sharedPrefix a b := by
  obtain ⟨front, c, rfl⟩ := (List.eq_nil_or_concat a).resolve_left hne
  refine Text.eq_of_prefix_iff fun p => ?_
  rw [prefix_sharedPrefix_iff, prefix_sharedPrefix_iff, List.concat_eq_append,
    List.dropLast_concat, List.prefix_concat_iff]
  constructor
  · rintro ⟨hp, hb⟩
    exact ⟨.inr hp, hb⟩
  · rintro ⟨rfl | hp, hb⟩
    · exact absurd hb (by simpa using h)
    · exact ⟨hp, hb⟩

/-- **The search for two texts** ends, and finds the longest common beginning. -/
theorem shorten?_eq (other shared : Text) :
    shorten? other shared = some (sharedPrefix shared other) := by
  fun_induction shorten? other shared with
  | case1 shared h rest hcut hlt ih =>
    rw [Text.cutLast?_eq, Option.some.injEq] at hcut
    have hnot : ¬ shared <+: other := by
      rw [← List.isPrefixOf_iff_prefix, h.1]
      exact Bool.false_ne_true
    rw [ih, ← hcut, sharedPrefix_dropLast hnot h.2]
  | case2 shared h hcut =>
    rw [Text.cutLast?_eq] at hcut
    cases hcut
  | case3 shared h =>
    -- the search ends with a text that begins the other one
    have hshared : shared <+: other := by
      by_cases hnil : shared = []
      · exact hnil ▸ List.nil_prefix
      · refine List.isPrefixOf_iff_prefix.1 (eq_true_of_ne_false fun hnot => h ⟨hnot, hnil⟩)
    rw [sharedPrefix_eq_self hshared]

/-- **The search makes no cut within a character**, and finds what all the texts share. -/
theorem commonPrefix?_eq (ts : List Text) : commonPrefix? ts = some (commonPrefix ts) := by
  cases ts with
  | nil => rfl
  | cons t ts =>
    rw [commonPrefix?, commonPrefix]
    induction ts generalizing t with
    | nil => rfl
    | cons u us ih => rw [List.foldlM_cons, shorten?_eq]; exact ih _

end PageShell
