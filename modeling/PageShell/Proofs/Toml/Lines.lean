import PageShell.Proofs.Toml.Values
import PageShell.Toml.Document

/-!
# Written lines are read back

A document is written line by line, and every line says the same whatever
lines follow it. So the lines that are written one after another are read
back one after another.

* `keyPath_writeKey` — a written key is read back without dots;
* `line_writeEntry`, `line_writeHeader` — the two kinds of lines;
* `Tells` — the lines of a text and what they say, whatever follows;
* `tells_writeEntries` — **the lines of a dictionary say its pairs**;
* `statements?_of_tells` — a text that says something is read as a whole.
-/

namespace PageShell.Toml

/-! ### Keys -/

/-- The first character of a key is neither a space nor the mark of any other kind of line. -/
theorem exists_cons_writeKey (key : Text) :
    ∃ c cs, writeKey key = c :: cs ∧ c ∉ [' ', '\t', '[', '#', '\n', '\r', '\uFEFF'] := by
  have hread := @simpleKey_writeKey key [] nofun
  rw [List.append_nil] at hread
  cases hwritten : writeKey key with
  | nil =>
    rw [hwritten] at hread
    cases hread
  | cons c cs =>
    refine ⟨c, cs, rfl, fun hc => ?_⟩
    rw [hwritten] at hread
    simp only [List.mem_cons, List.not_mem_nil, or_false] at hc
    rcases hc with rfl | rfl | rfl | rfl | rfl | rfl | rfl <;> cases hread

theorem skipSpaces_of_notMem {c : Char} (h : c ∉ [' ', '\t']) (cs : Text) :
    skipSpaces (c :: cs) = c :: cs := by
  refine List.dropWhile_cons_of_neg fun hspace => h ?_
  simpa [isSpace] using hspace

/-- **A written key is read back as a key without dots**, together with the spaces after it. -/
theorem keyPath_writeKey (key : Text) {rest : Text}
    (hrest : ∀ c, rest.head? = some c → isBareKeyChar c = false)
    (hdot : (skipSpaces rest).head? ≠ some '.') :
    keyPath (writeKey key ++ rest) = some (.single key, skipSpaces rest) := by
  have hkey := simpleKey_writeKey key hrest
  have hspaced : spacedKey (writeKey key ++ rest) = some (key, skipSpaces rest) := by
    have hspaces : skipSpaces (writeKey key ++ rest) = writeKey key ++ rest := by
      obtain ⟨c, cs, hwritten, hc⟩ := exists_cons_writeKey key
      rw [hwritten]
      exact skipSpaces_of_notMem (fun h => hc (by grind)) _
    rw [spacedKey, hspaces, hkey]
    rfl
  have hliteral : literal ['.'] (skipSpaces rest) = none := by
    rw [Option.eq_none_iff_forall_ne_some]
    intro t hread
    rw [literal_eq_some_iff.1 hread] at hdot
    exact hdot rfl
  have hnone : (fun t => do spacedKey (← literal ['.'] t)) (skipSpaces rest) = none := by
    dsimp only
    rw [hliteral]
    rfl
  have hseparated : separated '.' spacedKey (writeKey key ++ rest) = ([key], skipSpaces rest) := by
    rw [separated, hspaced]
    dsimp only
    rw [many_of_none hnone]
  rw [keyPath, hseparated]
  rfl

/-! ### Lines -/

/-- A key with its value is read back, up to the end of the line. -/
theorem keyValue_writeEntry (key : Text) {written : Text} {v : Node} {rest : Text} {depth : Nat}
    (hvalue : value depth (written ++ '\n' :: rest) = some (v, '\n' :: rest)) :
    keyValue (value depth) (writeEntry key written ++ rest) =
      some ((.single key, v), '\n' :: rest) := by
  have hsplit : writeEntry key written ++ rest =
      writeKey key ++ ' ' :: '=' :: ' ' :: (written ++ '\n' :: rest) := by
    simp [writeEntry]
  have hpath : keyPath (writeEntry key written ++ rest) =
      some (.single key, '=' :: ' ' :: (written ++ '\n' :: rest)) := by
    rw [hsplit]
    refine keyPath_writeKey key ?_ ?_
    · rintro _ ⟨⟩
      decide
    · exact fun h => absurd (Option.some.inj h) (by decide)
  have hspaces : skipSpaces (' ' :: (written ++ '\n' :: rest)) = written ++ '\n' :: rest :=
    skipSpaces_of_value hvalue
  have hliteral : literal ['='] ('=' :: ' ' :: (written ++ '\n' :: rest)) =
      some (' ' :: (written ++ '\n' :: rest)) := literal_eq_some_iff.2 rfl
  simp only [keyValue, hpath, Option.bind_eq_bind, Option.bind_some, hliteral, hspaces, hvalue]
  rfl

/-- A line is read back if what it says is. -/
theorem line_of_statement {c : Char} {cs rest : Text} {said : Statement} (hc : c ∉ [' ', '\t'])
    (h : statement (c :: cs) = some (said, '\n' :: rest)) : line (c :: cs) = some (said, rest) := by
  rw [line, skipSpaces_of_notMem hc, h]
  rfl

/-- **A written entry is read back as an entry**, if its value is read back. -/
theorem line_writeEntry (key : Text) {written : Text} {v : Node} {rest : Text}
    (hvalue : value (depthLimit - 1) (written ++ '\n' :: rest) = some (v, '\n' :: rest)) :
    line (writeEntry key written ++ rest) = some (.entry (.single key) v, rest) := by
  have hentry := keyValue_writeEntry key hvalue
  obtain ⟨c, cs, hwritten, hc⟩ := exists_cons_writeKey key
  simp only [List.mem_cons, List.not_mem_nil, or_false, not_or] at hc
  obtain ⟨hspace, htab, hbracket, hcomment, hline, hreturn, -⟩ := hc
  rw [writeEntry, hwritten] at hentry ⊢
  simp only [List.cons_append, List.append_assoc] at hentry ⊢
  refine line_of_statement (by grind) ?_
  rw [statement, if_neg (by simp [hcomment, hline, hreturn]), hentry]
  · rfl
  · exact hbracket

/-- **A written header is read back as a header.** -/
theorem line_writeHeader (key rest : Text) :
    line (writeHeader key ++ rest) = some (.header (.single key), rest) := by
  have hpath : keyPath (writeKey key ++ ']' :: '\n' :: rest) =
      some (.single key, ']' :: '\n' :: rest) := by
    refine keyPath_writeKey key ?_ ?_
    · rintro _ ⟨⟩
      decide
    · exact fun h => absurd (Option.some.inj h) (by decide)
  have hliteral : literal [']'] (']' :: '\n' :: rest) = some ('\n' :: rest) :=
    literal_eq_some_iff.2 rfl
  have hsplit : writeHeader key ++ rest = '[' :: (writeKey key ++ ']' :: '\n' :: rest) := by
    simp [writeHeader]
  obtain ⟨c, cs, hwritten, hc⟩ := exists_cons_writeKey key
  rw [hsplit]
  rw [hwritten, List.cons_append] at hpath ⊢
  refine line_of_statement (by decide) ?_
  rw [statement, header, hpath, Option.bind_eq_bind, Option.bind_some]
  · dsimp only
    rw [hliteral]
    rfl
  · rintro tail ⟨⟩
    exact hc (by decide)

/-! ### Texts -/

/-- The lines of a text and what they say, whatever follows. -/
def Tells (written : Text) (said : List Statement) : Prop :=
  ∀ rest, many line (written ++ rest) = (said ++ (many line rest).1, (many line rest).2)

theorem tells_of_line {written : Text} {said : Statement}
    (h : ∀ rest, line (written ++ rest) = some (said, rest)) : Tells written [said] := fun rest =>
  many_of_some shrinks_line (h rest)

theorem Tells.append {written written' : Text} {said said' : List Statement}
    (h : Tells written said) (h' : Tells written' said') :
    Tells (written ++ written') (said ++ said') := by
  intro rest
  rw [List.append_assoc, h, h', List.append_assoc]

theorem Tells.flatMap {α : Type} {items : List α} {write : α → Text} {said : α → Statement}
    (h : ∀ a, Tells (write a) [said a]) : Tells (items.flatMap write) (items.map said) := by
  induction items with
  | nil => exact fun _ => rfl
  | cons a items ih =>
    rw [List.flatMap_cons, List.map_cons]
    exact (h a).append ih

theorem tells_writeEntry (key : Text) {written : Text} {v : Node}
    (h : ∀ rest, value (depthLimit - 1) (written ++ '\n' :: rest) = some (v, '\n' :: rest)) :
    Tells (writeEntry key written) [.entry (.single key) v] :=
  tells_of_line fun rest => line_writeEntry key (h rest)

theorem tells_emptyLine : Tells ['\n'] [.nothing] :=
  tells_of_line fun _ => rfl

theorem tells_writeHeader (key : Text) : Tells (writeHeader key) [.header (.single key)] :=
  tells_of_line fun rest => line_writeHeader key rest

/-- **The lines of a dictionary say its pairs**, in the order of the keys. -/
theorem tells_writeEntries (d : Dictionary) :
    Tells (writeEntries d) (d.toList.map fun p => .entry (.single p.1) (.text p.2)) :=
  Tells.flatMap fun p => tells_writeEntry p.1 (value_writeString _ p.2)

/-- **A text that says something is read as a whole**, if it has no mark at its front. -/
theorem statements?_of_tells {written : Text} {said : List Statement} (h : Tells written said)
    (hmark : written.head? ≠ some '\uFEFF') : statements? written = some said := by
  have hskip : skipMark written = written := by
    refine skipMark.eq_2 written ?_
    rintro rest rfl
    exact hmark rfl
  have hall : many line written = (said, []) := by
    have hread := h []
    have hend : many line [] = ([], []) := rfl
    rw [List.append_nil, hend, List.append_nil] at hread
    exact hread
  rw [statements?, hskip, hall]

/-- The text of a dictionary begins with a key, if with anything. -/
theorem head?_writeEntries (d : Dictionary) : (writeEntries d).head? ≠ some '\uFEFF' := by
  rw [writeEntries]
  cases d.toList with
  | nil => exact nofun
  | cons p rest =>
    obtain ⟨c, cs, hwritten, hc⟩ := exists_cons_writeKey p.1
    rw [List.flatMap_cons]
    dsimp only
    rw [writeEntry, hwritten]
    rintro ⟨⟩
    exact hc (by decide)

end PageShell.Toml
