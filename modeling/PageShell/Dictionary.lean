import PageShell.Text.Basic

/-!
# Dictionaries: finite maps from texts to texts

A dictionary is kept as the list of its pairs with strictly rising keys. Texts
are ordered by their first differing character, which is also the order of
their UTF-8 bytes. So two dictionaries with the same pairs are equal, and
"the first pair that …" has one meaning.

* `Dictionary.get?`, `Dictionary.insert` — look up and replace;
* `Dictionary.get?_insert` — how the two go together;
* `Dictionary.ofList` — the pairs of a list, of equal keys the last.
-/

namespace PageShell

namespace Dictionary

/-- The pairs `entries` with the value of `key` replaced, or the pair added at its place. -/
def insertPair (key value : Text) : List (Text × Text) → List (Text × Text)
  | [] => [(key, value)]
  | (k, v) :: rest =>
    if key < k then (key, value) :: (k, v) :: rest
    else if k < key then (k, v) :: insertPair key value rest
    else (key, value) :: rest

/-- The keys after an insertion are the old ones and the new one. -/
theorem mem_insertPair {key value : Text} {entries : List (Text × Text)} {p : Text × Text}
    (h : p ∈ insertPair key value entries) : p = (key, value) ∨ p ∈ entries := by
  induction entries with
  | nil => simpa [insertPair] using h
  | cons q rest ih =>
    simp only [insertPair] at h
    split at h
    · simpa using h
    · split at h
      · rcases List.mem_cons.1 h with h | h
        · simp [h]
        · rcases ih h with h | h <;> simp [h]
      · rcases List.mem_cons.1 h with h | h <;> simp [h]

/-- Insertion keeps the keys strictly rising. -/
theorem pairwise_insertPair {key value : Text} {entries : List (Text × Text)}
    (h : entries.Pairwise (·.1 < ·.1)) : (insertPair key value entries).Pairwise (·.1 < ·.1) := by
  induction entries with
  | nil => simp [insertPair]
  | cons q rest ih =>
    obtain ⟨k, v⟩ := q
    rw [List.pairwise_cons] at h
    simp only [insertPair]
    split
    · next hlt =>
      refine List.pairwise_cons.2 ⟨fun p hp => ?_, List.pairwise_cons.2 h⟩
      rcases List.mem_cons.1 hp with rfl | hp
      · exact hlt
      · exact List.lt_trans hlt (h.1 p hp)
    · next hnlt =>
      split
      · next hgt =>
        refine List.pairwise_cons.2 ⟨fun p hp => ?_, ih h.2⟩
        rcases mem_insertPair hp with rfl | hp
        · exact hgt
        · exact h.1 p hp
      · next hngt =>
        have hk : key = k := List.le_antisymm hngt hnlt
        exact List.pairwise_cons.2 ⟨fun p hp => hk ▸ h.1 p hp, h.2⟩

end Dictionary

/-- **A dictionary**: pairs of a key and a value, with strictly rising keys. -/
structure Dictionary where
  /-- the pairs, in the order of their keys -/
  toList : List (Text × Text)
  /-- no key comes twice, and smaller keys come first -/
  rising : toList.Pairwise (·.1 < ·.1)
  deriving DecidableEq

namespace Dictionary

/-- The dictionary without pairs. -/
def empty : Dictionary :=
  ⟨[], List.Pairwise.nil⟩

/-- The value of a key. -/
def get? (d : Dictionary) (key : Text) : Option Text :=
  d.toList.lookup key

/-- The dictionary with the value of one key set. -/
def insert (d : Dictionary) (key value : Text) : Dictionary :=
  ⟨insertPair key value d.toList, pairwise_insertPair d.rising⟩

/-- The dictionary of the pairs of a list; of pairs with equal keys the last one counts. -/
def ofList (pairs : List (Text × Text)) : Dictionary :=
  pairs.foldl (fun d p => d.insert p.1 p.2) empty

/-- Setting the value of one key changes what is found under it, and nothing else. -/
theorem lookup_insertPair (key value k : Text) (entries : List (Text × Text)) :
    (insertPair key value entries).lookup k = if k = key then some value else entries.lookup k := by
  by_cases hk : k = key
  · subst hk
    rw [if_pos rfl]
    induction entries with
    | nil => simp [insertPair]
    | cons q rest ih =>
      rw [insertPair]
      split
      · rw [List.lookup_cons_self]
      · split
        · next hlt =>
          have hne : (k == q.1) = false :=
            beq_eq_false_iff_ne.2 fun h => List.lt_irrefl k (h ▸ hlt)
          rw [List.lookup_cons, hne, ih]
        · rw [List.lookup_cons_self]
  · have hb : (k == key) = false := beq_eq_false_iff_ne.2 hk
    rw [if_neg hk]
    induction entries with
    | nil => simp [insertPair, List.lookup_cons, hb]
    | cons q rest ih =>
      rw [insertPair]
      split
      · rw [List.lookup_cons, hb]
      · split
        · rw [List.lookup_cons, ih, List.lookup_cons]
        · next hnlt hngt =>
          have hkey : key = q.1 := List.le_antisymm hngt hnlt
          rw [List.lookup_cons, hb, List.lookup_cons, ← hkey, hb]

/-- **Reading after writing**: the value of the key just set, and of all others what it was. -/
theorem get?_insert (d : Dictionary) (key value k : Text) :
    (d.insert key value).get? k = if k = key then some value else d.get? k :=
  lookup_insertPair key value k d.toList

end Dictionary

end PageShell
