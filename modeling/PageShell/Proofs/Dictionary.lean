import PageShell.Dictionary
import PageShell.Proofs.Text.Bytes

/-!
# Dictionaries as maps

A dictionary holds a pair exactly if it finds the value under the key, so its
list of pairs says nothing that the map does not say. The first pair of a kind
is the one with the smallest key, in the order of bytes.

* `Dictionary.ofList_toList` — the pairs of a dictionary make up the dictionary;
* `Dictionary.get?_eq_some_iff` — what is found is what is held;
* `Dictionary.First`, `Dictionary.find?_cases` — **a search from the front
  finds the smallest key**.
-/

namespace PageShell

namespace Dictionary

/-- A key larger than all others is inserted last. -/
theorem insertPair_of_lt {key value : Text} {entries : List (Text × Text)}
    (h : ∀ p ∈ entries, p.1 < key) :
    insertPair key value entries = entries ++ [(key, value)] := by
  induction entries with
  | nil => rfl
  | cons p rest ih =>
    have hlt : p.1 < key := h p List.mem_cons_self
    rw [insertPair, if_neg (List.lt_asymm hlt), if_pos hlt,
      ih fun q hq => h q (List.mem_cons_of_mem _ hq)]
    rfl

/-- **The pairs of a dictionary make up the dictionary.** -/
theorem ofList_toList (d : Dictionary) : ofList d.toList = d := by
  have hfold : ∀ (d' : Dictionary) (pairs : List (Text × Text)),
      (d'.toList ++ pairs).Pairwise (·.1 < ·.1) →
      (pairs.foldl (fun d p => d.insert p.1 p.2) d').toList = d'.toList ++ pairs := by
    intro d' pairs
    induction pairs generalizing d' with
    | nil => exact fun _ => (List.append_nil _).symm
    | cons p pairs ih =>
      intro h
      have hlast : (d'.insert p.1 p.2).toList = d'.toList ++ [p] :=
        insertPair_of_lt fun q hq => (List.pairwise_append.1 h).2.2 q hq p List.mem_cons_self
      rw [List.append_cons, ← hlast] at h ⊢
      exact ih _ h
  have htoList : (ofList d.toList).toList = d.toList := hfold empty d.toList d.rising
  cases d
  rwa [Dictionary.mk.injEq]

theorem nodup_keys (d : Dictionary) : (d.toList.map Prod.fst).Nodup := by
  refine List.pairwise_map.2 (d.rising.imp ?_)
  intro p q hlt heq
  rw [heq] at hlt
  exact List.lt_irrefl _ hlt

/-- **What is found is what is held.** -/
theorem get?_eq_some_iff {d : Dictionary} {key value : Text} :
    d.get? key = some value ↔ (key, value) ∈ d.toList := by
  rw [get?, List.lookup_eq_some_iff]
  constructor
  · rintro ⟨before, behind, hsplit, -⟩
    rw [hsplit]
    exact List.mem_append_right _ List.mem_cons_self
  · intro hmem
    obtain ⟨before, behind, hsplit⟩ := List.append_of_mem hmem
    refine ⟨before, behind, hsplit, fun p hp => bne_iff_ne.2 ?_⟩
    have hlt : p.1 < key := by
      have hrising := d.rising
      rw [hsplit] at hrising
      exact (List.pairwise_append.1 hrising).2.2 p hp _ List.mem_cons_self
    rintro rfl
    exact List.lt_irrefl _ hlt

/-- **The first key whose pair is of a kind**, in the order of bytes. -/
structure First (d : Dictionary) (kind : Text → Text → Prop) (key : Text) : Prop where
  /-- its pair is of the kind -/
  found : ∃ value, d.get? key = some value ∧ kind key value
  /-- no smaller key has such a pair -/
  least : ∀ key' value, d.get? key' = some value → kind key' value → ¬key'.utf8 < key.utf8

theorem First.unique {d : Dictionary} {kind : Text → Text → Prop} {key key' : Text}
    (h : d.First kind key) (h' : d.First kind key') : key = key' := by
  obtain ⟨value, hget, hkind⟩ := h.found
  obtain ⟨value', hget', hkind'⟩ := h'.found
  rcases Std.lt_trichotomy key key' with hlt | heq | hgt
  · exact absurd (Text.utf8_lt_utf8.2 hlt) (h'.least key value hget hkind)
  · exact heq
  · exact absurd (Text.utf8_lt_utf8.2 hgt) (h.least key' value' hget' hkind')

/-- **A search from the front finds the first key**, or nothing where no pair is of the kind. -/
theorem find?_cases (d : Dictionary) (p : Text × Text → Bool) :
    (∃ q, d.toList.find? p = some q ∧ d.First (fun key value => p (key, value) = true) q.1) ∨
      (d.toList.find? p = none ∧
        ∀ key value, d.get? key = some value → ¬p (key, value) = true) := by
  cases hfind : d.toList.find? p with
  | none =>
    refine .inr ⟨rfl, fun key value hget => ?_⟩
    exact List.find?_eq_none.1 hfind _ (get?_eq_some_iff.1 hget)
  | some q =>
    obtain ⟨hq, before, behind, hsplit, hbefore⟩ := List.find?_eq_some_iff_append.1 hfind
    have hmem : q ∈ d.toList := List.mem_of_find?_eq_some hfind
    have hrising := d.rising
    refine .inl ⟨q, rfl, ⟨q.2, get?_eq_some_iff.2 hmem, hq⟩, fun key value hget hkind hlt => ?_⟩
    rw [get?_eq_some_iff, hsplit, List.mem_append, List.mem_cons] at hget
    rw [hsplit] at hrising
    rcases hget with hget | rfl | hget
    · exact absurd hkind (by simpa using hbefore _ hget)
    · exact List.lt_irrefl _ hlt
    · have hgt : q.1 < key := (List.pairwise_cons.1 (List.pairwise_append.1 hrising).2.1).1 _ hget
      exact List.lt_asymm hgt (Text.utf8_lt_utf8.1 hlt)

end Dictionary

end PageShell
