import PageShell.Text.Basic

/-!
# Byte offsets

A text is kept in memory as its bytes in UTF-8, and there its places are byte
offsets. A character takes from one to four bytes, so not every offset is a
place where a text can be cut, and the number of a character is not its offset.

* `Text.byteSize`, `Text.offset` — the size of a text in bytes, and the offset
  of the character of a number;
* `Text.IsBoundary` — whether an offset is between two characters;
* `Text.splitAt?` — a text cut at an offset;
* `Text.insertAt?`, `Text.removeAt?` — a text with a character put in or taken
  out at an offset;
* `Text.cutLast?` — a text cut off where its last character begins.

Those with a question mark fail exactly at offsets where a text cannot be cut,
or has no character to be taken out.
-/

namespace PageShell

namespace Text

/-- The number of bytes of a text. -/
def byteSize : Text → Nat
  | [] => 0
  | c :: cs => c.utf8Size + byteSize cs

/-- The characters of a text, each with its offset, if the first one has the offset `start`. -/
def charOffsets (start : Nat) : Text → List (Nat × Char)
  | [] => []
  | c :: cs => (start, c) :: charOffsets (start + c.utf8Size) cs

/-- **The offset of the character of a number**; the size of the text where there is none. -/
def offset (t : Text) (i : Nat) : Nat :=
  match (charOffsets 0 t)[i]? with
  | some (n, _) => n
  | none => t.byteSize

/-- **Whether an offset is between two characters** of a text, or at one of its ends. -/
def IsBoundary (t : Text) (n : Nat) : Prop :=
  String.Pos.Raw.IsValid (String.ofList t) ⟨n⟩

/-- The two parts of a text that is cut at an offset. -/
def splitAt? : Text → Nat → Option (Text × Text)
  | [], n => if n = 0 then some ([], []) else none
  | c :: cs, n =>
    if n = 0 then some ([], c :: cs)
    else if c.utf8Size ≤ n then (splitAt? cs (n - c.utf8Size)).map (Prod.map (c :: ·) id)
    else none

/-- The text with a character put in at an offset. -/
def insertAt? (t : Text) (n : Nat) (c : Char) : Option Text :=
  match t.splitAt? n with
  | some (before, after) => some (before ++ c :: after)
  | none => none

/-- The text without the character that begins at an offset. -/
def removeAt? (t : Text) (n : Nat) : Option Text :=
  match t.splitAt? n with
  | some (before, _ :: after) => some (before ++ after)
  | _ => none

/-- The text up to the offset of its last character; the empty text stays. -/
def cutLast? (t : Text) : Option Text :=
  match (charOffsets 0 t).getLast? with
  | some (n, _) => (t.splitAt? n).map Prod.fst
  | none => (t.splitAt? 0).map Prod.fst

/-! ### Sizes and offsets -/

@[simp] theorem byteSize_nil : byteSize [] = 0 := rfl

@[simp] theorem byteSize_cons (c : Char) (t : Text) :
    byteSize (c :: t) = c.utf8Size + byteSize t := rfl

@[simp] theorem byteSize_append (t u : Text) : byteSize (t ++ u) = byteSize t + byteSize u := by
  induction t with
  | nil => exact (Nat.zero_add _).symm
  | cons c cs ih => rw [List.cons_append, byteSize_cons, byteSize_cons, ih, Nat.add_assoc]

/-- A text that begins another one is smaller exactly if it is shorter. -/
theorem byteSize_lt_of_prefix_iff {t u : Text} (h : t <+: u) :
    t.byteSize < u.byteSize ↔ t.length < u.length := by
  obtain ⟨rest, rfl⟩ := h
  cases rest with
  | nil => simp
  | cons c cs =>
    have hpos := c.utf8Size_pos
    simp only [byteSize_append, byteSize_cons, List.length_append, List.length_cons]
    omega

/-- A text that ends another one is as large exactly if it is as long. -/
theorem byteSize_eq_of_suffix_iff {t u : Text} (h : t <:+ u) :
    t.byteSize = u.byteSize ↔ t.length = u.length := by
  obtain ⟨front, rfl⟩ := h
  cases front with
  | nil => simp
  | cons c cs =>
    have hpos := c.utf8Size_pos
    simp only [List.cons_append, byteSize_append, byteSize_cons, List.length_append,
      List.length_cons]
    omega

/-- The bytes are those of the string. -/
theorem utf8ByteSize_ofList (t : Text) : (String.ofList t).utf8ByteSize = t.byteSize := by
  induction t with
  | nil => rfl
  | cons c cs ih =>
    rw [String.ofList_cons, String.utf8ByteSize_append, String.utf8ByteSize_singleton, ih,
      byteSize_cons]

theorem getElem?_charOffsets (t : Text) (start i : Nat) :
    (charOffsets start t)[i]? = t[i]?.map fun c => (start + byteSize (t.take i), c) := by
  induction t generalizing start i with
  | nil => rfl
  | cons c cs ih =>
    cases i with
    | zero => simp [charOffsets]
    | succ i => simp [charOffsets, ih, Nat.add_assoc]

/-- **The offset of a character is the size of what stands before it.** -/
theorem offset_eq (t : Text) (i : Nat) : t.offset i = byteSize (t.take i) := by
  rw [offset, getElem?_charOffsets]
  by_cases hi : i < t.length
  · simp [hi]
  · rw [List.getElem?_eq_none (Nat.not_lt.1 hi), List.take_of_length_le (Nat.not_lt.1 hi)]
    rfl

/-! ### Cuts -/

theorem splitAt?_append (t u : Text) : (t ++ u).splitAt? t.byteSize = some (t, u) := by
  induction t with
  | nil => cases u <;> rfl
  | cons c cs ih =>
    have hpos := c.utf8Size_pos
    rw [byteSize_cons, List.cons_append, splitAt?, if_neg (by omega), if_pos (by omega),
      Nat.add_sub_cancel_left, ih]
    rfl

/-- A text is cut off before a part that ends it. -/
theorem splitAt?_sub (t u : Text) :
    (t ++ u).splitAt? ((t ++ u).byteSize - u.byteSize) = some (t, u) := by
  rw [byteSize_append, Nat.add_sub_cancel, splitAt?_append]

/-- **A text is cut into what it consists of**, with the first part as large as the offset. -/
theorem splitAt?_eq_some_iff {t before after : Text} {n : Nat} :
    t.splitAt? n = some (before, after) ↔ t = before ++ after ∧ before.byteSize = n := by
  constructor
  · intro h
    induction t generalizing n before with
    | nil => simp_all [splitAt?]
    | cons c cs ih =>
      rw [splitAt?] at h
      split at h
      · simp_all
      · split at h
        · simp only [Option.map_eq_some_iff, Prod.exists, Prod.map_apply, Prod.mk.injEq] at h
          obtain ⟨front, rest, hcut, rfl, rfl⟩ := h
          obtain ⟨rfl, hsize⟩ := ih hcut
          refine ⟨rfl, ?_⟩
          rw [byteSize_cons]
          omega
        · cases h
  · rintro ⟨rfl, rfl⟩
    exact splitAt?_append before after

/-- **A text can be cut exactly between its characters.** -/
theorem isBoundary_iff {t : Text} {n : Nat} :
    t.IsBoundary n ↔ ∃ before after, t.splitAt? n = some (before, after) := by
  simp only [splitAt?_eq_some_iff]
  rw [IsBoundary, String.Pos.Raw.isValid_ofList]
  constructor
  · rintro ⟨i, hi⟩
    rw [utf8ByteSize_ofList] at hi
    exact ⟨t.take i, t.drop i, (List.take_append_drop i t).symm, hi.symm⟩
  · rintro ⟨before, after, rfl, rfl⟩
    exact ⟨before.length, by rw [utf8ByteSize_ofList, List.take_left]⟩

/-- Between two characters there is room for another one, and nowhere else. -/
theorem isSome_insertAt?_iff {t : Text} {n : Nat} {c : Char} :
    (t.insertAt? n c).isSome = true ↔ t.IsBoundary n := by
  rw [isBoundary_iff, insertAt?]
  cases t.splitAt? n with
  | none => simp
  | some cut => exact iff_of_true rfl ⟨_, _, rfl⟩

/-- A character can be taken out where one begins, and nowhere else. -/
theorem isSome_removeAt?_iff {t : Text} {n : Nat} :
    (t.removeAt? n).isSome = true ↔ t.IsBoundary n ∧ n < t.byteSize := by
  rw [isBoundary_iff, removeAt?]
  match hcut : t.splitAt? n with
  | none => simp
  | some (before, after) =>
    obtain ⟨rfl, rfl⟩ := splitAt?_eq_some_iff.1 hcut
    cases after with
    | nil => simp
    | cons c cs => simpa using Nat.add_pos_left c.utf8Size_pos _

/-! ### Cuts at characters -/

/-- Before each character, and at its end, a text can be cut. -/
theorem splitAt?_offset (t : Text) (i : Nat) :
    t.splitAt? (t.offset i) = some (t.take i, t.drop i) := by
  rw [splitAt?_eq_some_iff, List.take_append_drop, offset_eq]
  exact ⟨rfl, rfl⟩

theorem insertAt?_offset (t : Text) (i : Nat) (c : Char) :
    t.insertAt? (t.offset i) c = some (t.take i ++ c :: t.drop i) := by
  rw [insertAt?, splitAt?_offset]

theorem removeAt?_offset {t : Text} {i : Nat} (h : i < t.length) :
    t.removeAt? (t.offset i) = some (t.eraseIdx i) := by
  rw [removeAt?, splitAt?_offset, List.drop_eq_getElem_cons h, List.eraseIdx_eq_take_drop_succ]

theorem charOffsets_append (start : Nat) (t u : Text) :
    charOffsets start (t ++ u) = charOffsets start t ++ charOffsets (start + t.byteSize) u := by
  induction t generalizing start with
  | nil => rfl
  | cons c cs ih => simp [charOffsets, ih, Nat.add_assoc]

/-- Nothing but the last character is cut off. -/
theorem cutLast?_eq (t : Text) : t.cutLast? = some t.dropLast := by
  rcases List.eq_nil_or_concat t with rfl | ⟨front, c, rfl⟩
  · rfl
  · simp [cutLast?, charOffsets_append, charOffsets, splitAt?_append]

end Text

end PageShell
