import PageShell.Proofs.CommandLine

/-!
# The language of command lines

A line is accepted exactly if it is made of words: printable words with spaces
between them, as many as one likes, and blanks of any kind around all of them.
No word is lost when such a line is read, and none is made up.

* `Text.IsWord`, `Text.Spaced` — words, and texts that are words with spaces
  between them;
* `Text.Spaced.words_eq`, `Text.spaced_words` — the words that a text is split
  into are the words it is made of;
* `CommandLine.WrittenAs` — how a command line is written;
* `CommandLine.read_eq_some_iff` — exactly what is written like this is accepted;
* `CommandLine.reading_of_line` — **what every line is read as.**
-/

namespace PageShell

namespace Text

/-! ### Texts made of words -/

/-- A word has at least one character, and all of them are printable and no spaces. -/
def IsWord (w : Text) : Prop :=
  w ≠ [] ∧ ∀ c ∈ w, 0x21 ≤ c.toNat ∧ c.toNat ≤ 0x7E

/-- **A text made of words**: these words in this order, with one or more spaces between them. -/
inductive Spaced : List Text → Text → Prop where
  /-- a word alone -/
  | last {w : Text} (hw : IsWord w) : Spaced [w] w
  /-- a word and spaces before a text made of words -/
  | more {w t : Text} {ws : List Text} (hw : IsWord w) (n : Nat) (ht : Spaced ws t) :
      Spaced (w :: ws) (w ++ List.replicate (n + 1) ' ' ++ t)

section Words

variable {w t : Text} {ws : List Text}

theorem IsWord.space_notMem (h : IsWord w) : ' ' ∉ w := by
  intro hmem
  obtain ⟨hlow, -⟩ := h.2 _ hmem
  exact absurd hlow (by decide)

theorem IsWord.isPrintable (h : IsWord w) {c : Char} (hc : c ∈ w) : isPrintable c = true := by
  obtain ⟨hlow, hhigh⟩ := h.2 c hc
  exact isPrintable_iff.2 ⟨by omega, hhigh⟩

/-- A word has no blanks. -/
theorem IsWord.isBlank_eq_false (h : IsWord w) {c : Char} (hc : c ∈ w) :
    PageShell.isBlank c = false := by
  by_contra hblank
  obtain rfl := eq_space_of_isBlank (by simpa using hblank) (h.isPrintable hc)
  exact h.space_notMem hc

theorem Spaced.isPrintable (h : Spaced ws t) : ∀ c ∈ t, isPrintable c = true := by
  induction h with
  | last hw => exact fun c hc => hw.isPrintable hc
  | @more w t ws hw n _ ih =>
    intro c hc
    rcases List.mem_append.1 hc with hc | hc
    · rcases List.mem_append.1 hc with hc | hc
      · exact hw.isPrintable hc
      · rw [List.eq_of_mem_replicate hc]
        decide
    · exact ih c hc

/-- It begins with a word, and so with no blank. -/
theorem Spaced.head? (h : Spaced ws t) :
    ∃ c, t.head? = some c ∧ PageShell.isBlank c = false := by
  cases h with
  | last hw =>
    obtain ⟨c, cs, rfl⟩ := List.exists_cons_of_ne_nil hw.1
    exact ⟨c, rfl, hw.isBlank_eq_false List.mem_cons_self⟩
  | more hw n ht =>
    obtain ⟨c, cs, rfl⟩ := List.exists_cons_of_ne_nil hw.1
    exact ⟨c, rfl, hw.isBlank_eq_false List.mem_cons_self⟩

theorem Spaced.ne_nil (h : Spaced ws t) : t ≠ [] := by
  obtain ⟨c, hc, -⟩ := h.head?
  rintro rfl
  cases hc

theorem Spaced.head?_ne_space (h : Spaced ws t) : t.head? ≠ some ' ' := by
  obtain ⟨c, hc, hblank⟩ := h.head?
  rw [hc]
  rintro ⟨⟩
  cases hblank

/-- It ends with a word, and so with no blank. -/
theorem Spaced.isBlank_of_getLast? (h : Spaced ws t) :
    ∀ c, t.getLast? = some c → PageShell.isBlank c = false := by
  induction h with
  | last hw => exact fun c hc => hw.isBlank_eq_false (List.mem_of_getLast? hc)
  | @more w t ws hw n ht ih =>
    intro c hc
    rw [List.getLast?_append_of_ne_nil _ ht.ne_nil] at hc
    exact ih c hc

theorem Spaced.words_ne_nil (h : Spaced ws t) : ws ≠ [] := by
  cases h with
  | last _ => exact List.cons_ne_nil _ _
  | more _ _ _ => exact List.cons_ne_nil _ _

theorem Spaced.trim_eq_self (h : Spaced ws t) : t.trim = t := by
  obtain ⟨d, hd, hblank⟩ := h.head?
  refine Text.trim_eq_self ?_ h.isBlank_of_getLast?
  intro c hc
  rw [hd] at hc
  obtain rfl := Option.some.inj hc
  exact hblank

/-- **No word is lost and none is made up**: a text made of words is split into these words. -/
theorem Spaced.words_eq (h : Spaced ws t) : words t = ws := by
  induction h with
  | last hw => exact words_of_notMem hw.1 hw.space_notMem
  | @more w t ws hw n _ ih =>
    calc words (w ++ List.replicate (n + 1) ' ' ++ t)
        = words (w ++ ' ' :: (List.replicate n ' ' ++ t)) := by
          rw [List.append_assoc, List.replicate_succ, List.cons_append]
      _ = w :: words t := by
          rw [words_append_space hw.1 hw.space_notMem, words_replicate_append]
      _ = w :: ws := by rw [ih]

/-- One more character makes the first word longer. -/
theorem Spaced.cons {c : Char} (hc : IsWord [c]) (h : Spaced ws t) :
    Spaced (ws.modifyHead (c :: ·)) (c :: t) := by
  have hlonger : ∀ {w : Text}, IsWord w → IsWord (c :: w) := fun {w} hw =>
    ⟨List.cons_ne_nil _ _, List.forall_mem_cons.2 ⟨hc.2 c List.mem_cons_self, hw.2⟩⟩
  cases h with
  | last hw => exact .last (hlonger hw)
  | more hw n ht => exact .more (hlonger hw) n ht

/-! ### Spaces before the first word -/

/-- **A text made of words, and perhaps indented**: spaces may stand before the first word. -/
def Indented (ws : List Text) (t : Text) : Prop :=
  ∃ n u, t = List.replicate n ' ' ++ u ∧ Spaced ws u

theorem Spaced.indented (h : Spaced ws t) : Indented ws t :=
  ⟨0, t, rfl, h⟩

/-- One more space before the first word. -/
theorem Indented.space (h : Indented ws t) : Indented ws (' ' :: t) := by
  obtain ⟨n, u, rfl, hspaced⟩ := h
  exact ⟨n + 1, u, rfl, hspaced⟩

/-- Without a space in front, the first word stands there. -/
theorem Indented.spaced (h : Indented ws t) (hhead : t.head? ≠ some ' ') : Spaced ws t := by
  obtain ⟨n, u, rfl, hspaced⟩ := h
  cases n with
  | zero => exact hspaced
  | succ n => exact absurd rfl hhead

/-- One more word, if there is a space to keep it apart. -/
theorem Indented.more (hw : IsWord w) (h : Indented ws (' ' :: t)) :
    Spaced (w :: ws) (w ++ ' ' :: t) := by
  obtain ⟨n, u, hu, hspaced⟩ := h
  cases n with
  | zero =>
    obtain rfl : ' ' :: t = u := hu
    exact absurd rfl hspaced.head?_ne_space
  | succ n =>
    rw [hu, ← List.append_assoc]
    exact .more hw n hspaced

end Words

/-- A printable character is a space, or a word of its own. -/
theorem isWord_singleton {c : Char} (hp : PageShell.isPrintable c = true) (hs : c ≠ ' ') :
    IsWord [c] := by
  obtain ⟨hlow, hhigh⟩ := isPrintable_iff.1 hp
  have hcode : c.toNat ≠ 0x20 := fun h => hs (Char.toNat_inj.1 h)
  refine ⟨List.cons_ne_nil _ _, List.forall_mem_singleton.2 ⟨?_, hhigh⟩⟩
  omega

/-- A printable text that does not end with a space is made of the words it is split into, after
some spaces. -/
theorem indented_words {t : Text} (hp : ∀ c ∈ t, isPrintable c = true) (hne : t ≠ [])
    (hlast : t.getLast? ≠ some ' ') : Indented (words t) t := by
  fun_induction words t with
  | case1 => exact absurd rfl hne
  | case2 => exact absurd rfl hlast
  | case3 c hc =>
    exact (Spaced.last (isWord_singleton (hp c List.mem_cons_self) hc)).indented
  | case4 d cs ih =>
    -- a space before the rest
    rw [List.getLast?_cons_cons] at hlast
    obtain ⟨-, hrest⟩ := List.forall_mem_cons.1 hp
    exact (ih hrest (List.cons_ne_nil _ _) hlast).space
  | case5 c cs hc ih =>
    -- a word of one character before the rest
    rw [List.getLast?_cons_cons] at hlast
    obtain ⟨hfirst, hrest⟩ := List.forall_mem_cons.1 hp
    have hword := isWord_singleton hfirst hc
    exact ((ih hrest (List.cons_ne_nil _ _) hlast).more hword).indented
  | case6 c d cs hc hd ih =>
    -- one more character of the first word
    rw [List.getLast?_cons_cons] at hlast
    obtain ⟨hfirst, hrest⟩ := List.forall_mem_cons.1 hp
    have hspaced := (ih hrest (List.cons_ne_nil _ _) hlast).spaced (by simpa using hd)
    exact (hspaced.cons (isWord_singleton hfirst hc)).indented

/-- **The words that a text is split into are the words it is made of.** -/
theorem spaced_words {t : Text} (hp : ∀ c ∈ t, isPrintable c = true) (hne : t ≠ [])
    (ht : t.trim = t) : Spaced (words t) t := by
  have hhead : t.head? ≠ some ' ' := by
    intro h
    rw [← ht] at h
    cases isBlank_of_head?_trim h
  have hlast : t.getLast? ≠ some ' ' := by
    intro h
    rw [← ht] at h
    cases isBlank_of_getLast?_trim h
  exact (indented_words hp hne hlast).spaced hhead

end Text

/-! ### Lines made of words -/

namespace CommandLine

/-- **How a command line is written**: its text is made of the first word, which is its name in
small letters, and of its arguments. The text is not too long, and stands between blanks. -/
def WrittenAs (command : CommandLine) (line : Text) : Prop :=
  ∃ before first after : Text,
    line = before ++ command.text ++ after ∧ before.isBlank = true ∧ after.isBlank = true ∧
      Text.Spaced (first :: command.args) command.text ∧ command.name = first.lowerAscii ∧
      command.text.length ≤ maxCommandLength

section Read

variable {line : Text} {command : CommandLine}

/-- **What a line is that is not blank**: too long, or else a command line, or else unprintable. -/
theorem read_cases (h : line.isBlank = false) :
    (maxCommandLength < line.trim.length ∧ read line = .error .tooLong) ∨
      (line.trim.length ≤ maxCommandLength ∧ (∀ c ∈ line.trim, isPrintable c = true) ∧
        read line = .ok (some (ofText line.trim))) ∨
      (line.trim.length ≤ maxCommandLength ∧ (∃ c ∈ line.trim, isPrintable c = false) ∧
        read line = .error .unprintable) := by
  rw [← read_trim, read_of_trim (Text.trim_trim line) (Text.trim_ne_nil_iff.2 h)]
  by_cases hlong : maxCommandLength < line.trim.length
  · exact .inl ⟨hlong, if_pos hlong⟩
  · rw [if_neg hlong]
    cases hprint : line.trim.all isPrintable with
    | true => exact .inr (.inl ⟨Nat.not_lt.1 hlong, List.all_eq_true.1 hprint, rfl⟩)
    | false => exact .inr (.inr ⟨Nat.not_lt.1 hlong, by simpa using hprint, rfl⟩)

theorem read_eq_tooLong_iff :
    read line = .error .tooLong ↔ line.isBlank = false ∧ maxCommandLength < line.trim.length := by
  cases hb : line.isBlank with
  | true => simp [read_eq_ok_none_iff.2 hb]
  | false =>
    obtain ⟨hlong, hread⟩ | ⟨hshort, -, hread⟩ | ⟨hshort, -, hread⟩ := read_cases hb
    · simp [hread, hlong]
    · simp [hread, hshort]
    · simp [hread, hshort]

theorem read_eq_unprintable_iff :
    read line = .error .unprintable ↔
      line.isBlank = false ∧ line.trim.length ≤ maxCommandLength ∧
        ∃ c ∈ line.trim, isPrintable c = false := by
  cases hb : line.isBlank with
  | true => simp [read_eq_ok_none_iff.2 hb]
  | false =>
    obtain ⟨hlong, hread⟩ | ⟨-, hprint, hread⟩ | ⟨hshort, hprint, hread⟩ := read_cases hb
    · simp [hread, Nat.not_le.2 hlong]
    · simpa [hread] using fun _ => hprint
    · simpa [hread, hshort] using hprint

/-- Which lines are accepted, and what they are. -/
theorem read_eq_ok_some_iff :
    read line = .ok (some command) ↔
      line.isBlank = false ∧ line.trim.length ≤ maxCommandLength ∧
        (∀ c ∈ line.trim, isPrintable c = true) ∧ command = ofText line.trim := by
  cases hb : line.isBlank with
  | true => simp [read_eq_ok_none_iff.2 hb]
  | false =>
    obtain ⟨hlong, hread⟩ | ⟨hshort, hprint, hread⟩ | ⟨-, ⟨c, hc, hprint⟩, hread⟩ := read_cases hb
    · simp [hread, Nat.not_le.2 hlong]
    · rw [hread]
      constructor
      · intro h
        obtain rfl : ofText line.trim = command := Option.some.inj (Except.ok.inj h)
        exact ⟨rfl, hshort, hprint, rfl⟩
      · rintro ⟨-, -, -, rfl⟩
        rfl
    · rw [hread]
      constructor
      · intro h
        cases h
      · rintro ⟨-, -, hall, -⟩
        rw [hall c hc] at hprint
        cases hprint

/-- **Exactly what is written as a command line is accepted.** -/
theorem read_eq_some_iff : read line = .ok (some command) ↔ command.WrittenAs line := by
  constructor
  · intro h
    obtain ⟨hb, hlen, hprint, rfl⟩ := read_eq_ok_some_iff.1 h
    obtain ⟨before, after, hbefore, hafter, hline⟩ := Text.exists_trim line
    have hspaced :=
      Text.spaced_words hprint (Text.trim_ne_nil_iff.2 hb) (Text.trim_trim line)
    -- there is a first word
    obtain ⟨first, rest, hwords⟩ := List.exists_cons_of_ne_nil hspaced.words_ne_nil
    refine ⟨before, first, after, hline, hbefore, hafter, ?_, ?_, hlen⟩
    · simpa [ofText, hwords] using hspaced
    · simp [ofText, hwords]
  · rintro ⟨before, first, after, hline, hbefore, hafter, hspaced, hname, hlen⟩
    have htrim : line.trim = command.text := by
      rw [hline, Text.trim_append_of_isBlank hbefore hafter, hspaced.trim_eq_self]
    rw [read_eq_ok_some_iff, htrim, ← Text.trim_ne_nil_iff, htrim]
    refine ⟨hspaced.ne_nil, hlen, hspaced.isPrintable, ?_⟩
    -- the words are found again
    obtain ⟨text, name, args⟩ := command
    simp_all [ofText, hspaced.words_eq]

-- blanks of any kind may stand around a line, but only spaces in it
example : read "\u3000 CD   About\t".toList =
    .ok (some ⟨"CD   About".toList, "cd".toList, ["About".toList]⟩) := by
  decide +kernel

/-- **What every line is read as.** Nothing exactly if it has nothing but blanks. If it is anything
else: refused as too long exactly if it is too long without the blanks around it, whatever its
characters; refused as unprintable exactly if it is not too long and one of these characters is; and
else accepted. Exactly the lines that are written as a command line are read as that command line,
and its text, which is the line without the blanks around it, is read as the same again. -/
theorem reading_of_line (line : Text) :
    (read line = .ok none ↔ ∀ c ∈ line, isBlank c = true) ∧
      (read line = .error .tooLong ↔
        (∃ c ∈ line, isBlank c = false) ∧ maxCommandLength < line.trim.length) ∧
      (read line = .error .unprintable ↔
        (∃ c ∈ line, isBlank c = false) ∧ line.trim.length ≤ maxCommandLength ∧
          ∃ c ∈ line.trim, c.toNat < 0x20 ∨ 0x7E < c.toNat) ∧
      ((∃ command, read line = .ok (some command)) ↔
        (∃ c ∈ line, isBlank c = false) ∧ line.trim.length ≤ maxCommandLength ∧
          ∀ c ∈ line.trim, 0x20 ≤ c.toNat ∧ c.toNat ≤ 0x7E) ∧
      (∀ command, read line = .ok (some command) ↔ command.WrittenAs line) ∧
      ∀ command, read line = .ok (some command) →
        command.text = line.trim ∧ read command.text = .ok (some command) := by
  have hblank : (∃ c ∈ line, isBlank c = false) ↔ line.isBlank = false := by
    simp [Text.isBlank]
  have hprint : ∀ c, (c.toNat < 0x20 ∨ 0x7E < c.toNat) ↔ isPrintable c = false := by
    intro c
    rw [← Bool.not_eq_true, isPrintable_iff]
    omega
  simp only [hblank, hprint, ← isPrintable_iff]
  refine ⟨?_, read_eq_tooLong_iff, read_eq_unprintable_iff, ?_, fun _ => read_eq_some_iff, ?_⟩
  · rw [read_eq_ok_none_iff, Text.isBlank, List.all_eq_true]
  · simp only [read_eq_ok_some_iff, exists_and_left, exists_eq, and_true]
  · intro command h
    obtain ⟨-, -, -, rfl⟩ := read_eq_ok_some_iff.1 h
    exact ⟨rfl, (read_trim line).trans h⟩

end Read

end CommandLine

end PageShell
