import Mathlib.Tactic.SplitIfs
import PageShell.Proofs.Toml.Progress
import PageShell.Toml.Writer

/-!
# Written strings are read back

Every text has a written form, and the reader of strings takes exactly that
form off the front and answers with the text. The four forms differ in what
may stand in them; each is read back wherever it may be used, and the writer
only uses a form that the text may have.

* `basicUnit_escapeChar` — one character of an escaped line;
* `Content` — how the inside of a multi-line string stands for its text;
* `StringForm.Fits` — what a form asks of its text;
* `quoted_writeString` — **reading a written string gives the string**;
* `simpleKey_writeKey` — and reading a written key gives the key.
-/

namespace PageShell.Toml

/-! ### Characters -/

theorem charOfCode?_toNat (c : Char) : charOfCode? c.toNat = some c := by
  have hvalid : c.toNat.isValidChar := c.valid
  rw [charOfCode?, dif_pos hvalid]
  exact congrArg some (Char.ext (UInt32.toNat_inj.1 rfl))

/-- The four digits of a small code point are its number again. -/
theorem ofDigits_codeEscape : ∀ n < 128,
    let digits := [hexDigit (n / 4096 % 16), hexDigit (n / 256 % 16), hexDigit (n / 16 % 16),
      hexDigit (n % 16)]
    ofDigits 16 digits = n ∧ digits.all isHexDigit = true := by
  decide +kernel

theorem toNat_lt_of_isCode {c : Char} (h : isCode c = true) : c.toNat < 128 := by
  simp only [isCode, Bool.or_eq_true, Bool.and_eq_true, decide_eq_true_eq, beq_iff_eq] at h
  omega

/-- A code point in four digits is read as its character. -/
theorem escape_codeEscape {c : Char} (h : isCode c = true) (rest : Text) :
    escape ((codeEscape c).tail ++ rest) = some (c, rest) := by
  obtain ⟨hvalue, hdigits⟩ := ofDigits_codeEscape c.toNat (toNat_lt_of_isCode h)
  simp only [codeEscape, List.tail_cons, List.cons_append, List.nil_append, escape, codePoint]
  simp only [List.take_succ_cons, List.take_zero, List.drop_succ_cons, List.drop_zero, hvalue,
    hdigits, charOfCode?_toNat]
  rfl

/-- A character that is no code is plain, or ends a line. -/
theorem isPlain_of_not_isCode {c : Char} (h : isCode c = false) (hline : c ≠ '\n') :
    isPlain c = true := by
  simp only [isCode, isPlain, Bool.or_eq_false_iff, Bool.and_eq_false_iff, Bool.or_eq_true,
    Bool.and_eq_true, decide_eq_true_eq, decide_eq_false_iff_not, beq_iff_eq, bne_iff_ne,
    beq_eq_false_iff_ne, bne_eq_false_iff_eq] at h ⊢
  obtain ⟨(hlow | rfl) | rfl, hdelete⟩ := h
  · exact .inr ⟨by omega, hdelete⟩
  · exact .inl rfl
  · exact absurd rfl hline

/-- **How a character is written on one line**: as an escape, whose letter is neither a space nor
a line end, or as itself, and then it is plain. -/
theorem escapeChar_cases (c : Char) :
    (∃ letter digits, escapeChar c = '\\' :: letter :: digits ∧ isSpace letter = false ∧
      letter ≠ '\n' ∧ letter ≠ '\r' ∧ ∀ rest, escape (letter :: digits ++ rest) = some (c, rest)) ∨
    (escapeChar c = [c] ∧ isPlain c = true ∧ c ≠ '"' ∧ c ≠ '\\' ∧ c ≠ '\n' ∧ c ≠ '\r') := by
  rw [escapeChar]
  split_ifs with hb ht hn hf hr hquote hslash hcode
  case pos => exact .inl ⟨'b', [], rfl, rfl, by decide, by decide, fun _ => by rw [hb]; rfl⟩
  case pos => exact .inl ⟨'t', [], rfl, rfl, by decide, by decide, fun _ => by rw [ht]; rfl⟩
  case pos => exact .inl ⟨'n', [], rfl, rfl, by decide, by decide, fun _ => by rw [hn]; rfl⟩
  case pos => exact .inl ⟨'f', [], rfl, rfl, by decide, by decide, fun _ => by rw [hf]; rfl⟩
  case pos => exact .inl ⟨'r', [], rfl, rfl, by decide, by decide, fun _ => by rw [hr]; rfl⟩
  case pos => exact .inl ⟨'"', [], rfl, rfl, by decide, by decide, fun _ => by rw [hquote]; rfl⟩
  case pos => exact .inl ⟨'\\', [], rfl, rfl, by decide, by decide, fun _ => by rw [hslash]; rfl⟩
  case pos => exact .inl ⟨'u', _, rfl, rfl, by decide, by decide, escape_codeEscape hcode⟩
  case neg =>
    have hplain : isPlain c = true := isPlain_of_not_isCode (Bool.eq_false_iff.2 hcode) hn
    exact .inr ⟨rfl, hplain, hquote, hslash, hn, hr⟩

/-- One character of an escaped line is read back. -/
theorem basicUnit_escapeChar (c : Char) (rest : Text) :
    basicUnit (escapeChar c ++ rest) = some (c, rest) := by
  rcases escapeChar_cases c with ⟨letter, digits, hwritten, -, -, -, hread⟩ |
    ⟨hwritten, hplain, hquote, hslash, -⟩
  · rw [hwritten]
    exact hread rest
  · rw [hwritten, List.singleton_append, basicUnit.eq_2 _ _ fun h => hslash h, hplain]
    exact if_pos (Bool.and_eq_true_iff.2 ⟨rfl, bne_iff_ne.2 hquote⟩)

/-- So it is inside a multi-line string, even if it ends a line. -/
theorem basicPiece_escapeChar (c : Char) (rest : Text) :
    basicPiece (escapeChar c ++ rest) = some ([c], rest) := by
  rcases escapeChar_cases c with ⟨letter, digits, hwritten, hspace, hline, hreturn, hread⟩ |
    ⟨hwritten, hplain, hquote, hslash, -⟩
  · have hnone : continuation (letter :: digits ++ rest) = none := by
      have hskip : skipSpaces (letter :: digits ++ rest) = letter :: (digits ++ rest) :=
        List.dropWhile_cons_of_neg (Bool.eq_false_iff.1 hspace)
      rw [continuation, hskip, newline.eq_3 _ (fun _ h => hline (List.cons.inj h).1)
        fun _ h => hreturn (List.cons.inj h).1]
      rfl
    rw [hwritten]
    simp only [List.cons_append, basicPiece] at hnone hread ⊢
    rw [hnone, hread rest]
    rfl
  · rw [hwritten, List.singleton_append, basicPiece, if_pos hplain]
    · exact hslash
    · exact hquote

/-- The content of a basic string is read up to its closing quote. -/
theorem basic_escapeLine (t rest : Text) :
    basic (escapeLine t ++ '"' :: rest) = some (t, rest) := by
  have hmany : many basicUnit (escapeLine t ++ '"' :: rest) = (t, '"' :: rest) := by
    induction t with
    | nil => exact many_of_none rfl
    | cons c cs ih =>
      rw [escapeLine, List.flatMap_cons, List.append_assoc,
        many_of_some shrinks_basicUnit (basicUnit_escapeChar c _)]
      rw [escapeLine] at ih
      rw [ih]
  rw [basic, hmany]
  rfl

/-- The longest front of characters of a kind ends where the kind does. -/
theorem takeWhile_dropWhile_append {p : Char → Bool} {t rest : Text} (ht : ∀ c ∈ t, p c = true)
    (hrest : ∀ c, rest.head? = some c → p c = false) :
    (t ++ rest).takeWhile p = t ∧ (t ++ rest).dropWhile p = rest := by
  rw [List.takeWhile_append_of_pos ht, List.dropWhile_append_of_pos ht]
  cases rest with
  | nil => exact ⟨List.append_nil t, rfl⟩
  | cons c cs =>
    have hc : ¬p c = true := Bool.eq_false_iff.1 (hrest c rfl)
    rw [List.takeWhile_cons_of_neg hc, List.dropWhile_cons_of_neg hc, List.append_nil]
    exact ⟨rfl, rfl⟩

/-- The content of a literal string is read up to its closing quote. -/
theorem verbatim_append {t : Text} (h : ∀ c ∈ t, isPlain c = true ∧ c ≠ '\'') (rest : Text) :
    verbatim (t ++ '\'' :: rest) = some (t, rest) := by
  have hall : ∀ c ∈ t, (isPlain c && c != '\'') = true := fun c hc =>
    Bool.and_eq_true_iff.2 ⟨(h c hc).1, bne_iff_ne.2 (h c hc).2⟩
  have hend : ∀ c, ('\'' :: rest).head? = some c → (isPlain c && c != '\'') = false := by
    rintro _ ⟨⟩
    rfl
  obtain ⟨htake, hdrop⟩ := takeWhile_dropWhile_append hall hend
  rw [verbatim, htake, hdrop]
  rfl

/-! ### Multi-line forms -/

/-- **How the inside of a multi-line string stands for its text**, where `run` quotes stand right
before it: a quote stands for itself, never three in a row, and every other character is written
so that one piece reads it back. -/
inductive Content (quote : Char) (piece : Reader Text) : Nat → Text → Text → Prop where
  /-- nothing stands for nothing -/
  | nil {run : Nat} (few : run ≤ 2) : Content quote piece run [] []
  /-- one more quote -/
  | quote {run : Nat} {t written : Text} (few : run < 2)
      (content : Content quote piece (run + 1) t written) :
      Content quote piece run (quote :: t) (quote :: written)
  /-- any character, written with the character `front` first -/
  | other {run : Nat} {c front : Char} {back t written : Text} (few : run ≤ 2)
      (noQuote : front ≠ quote) (noReturn : front ≠ '\r') (line : front = '\n' → c = '\n')
      (read : ∀ rest, piece (front :: back ++ rest) = some ([c], rest))
      (content : Content quote piece 0 t written) :
      Content quote piece run (c :: t) (front :: back ++ written)

/-- A run of up to five quotes closes a string if there are three of them; the others belong to
the string. -/
theorem closing_replicate {quote : Char} {n : Nat} (hn : n ≤ 5) {rest : Text}
    (hrest : rest.head? ≠ some quote) :
    closing quote (List.replicate n quote ++ rest) =
      if 3 ≤ n then some (List.replicate (n - 3) quote, rest) else none := by
  have hrun : ((List.replicate n quote ++ rest).take 5).takeWhile (· == quote) =
      List.replicate n quote := by
    have hend : (rest.take (5 - n)).takeWhile (· == quote) = [] := by
      cases rest with
      | nil => rw [List.take_nil, List.takeWhile_nil]
      | cons d ds =>
        have hd : ¬(d == quote) = true := by simpa using hrest
        cases 5 - n with
        | zero => rfl
        | succ m => exact List.takeWhile_cons_of_neg hd
    rw [List.take_append, List.take_of_length_le (by simpa using hn), List.length_replicate,
      List.takeWhile_append_of_pos (by simp), hend, List.append_nil]
  rw [closing, hrun, List.length_replicate]
  split
  · rw [List.drop_replicate, List.drop_left' List.length_replicate]
  · rfl

theorem closing_quotes {quote : Char} {n : Nat} (hn : n ≤ 2) {rest : Text}
    (hrest : rest.head? ≠ some quote) :
    closing quote (List.replicate n quote ++ quote :: quote :: quote :: rest) =
      some (List.replicate n quote, rest) := by
  have happend : List.replicate n quote ++ quote :: quote :: quote :: rest =
      List.replicate (n + 3) quote ++ rest := by
    rw [← List.replicate_append_replicate, List.append_assoc]
    rfl
  rw [happend, closing_replicate (by omega) hrest, if_pos (by omega), Nat.add_sub_cancel]

/-- A quote is a piece where less than two others and then something else follow. -/
theorem innerQuote_cons {quote front : Char} {n : Nat} (hn : n ≤ 1) (hfront : front ≠ quote)
    (rest : Text) :
    innerQuote quote (quote :: (List.replicate n quote ++ front :: rest)) =
      some ([quote], List.replicate n quote ++ front :: rest) := by
  have hnone : closing quote (quote :: (List.replicate n quote ++ front :: rest)) = none := by
    rw [← List.cons_append, ← List.replicate_succ,
      closing_replicate (by omega) (by simpa using hfront), if_neg (by omega)]
  rw [innerQuote, hnone]
  dsimp only
  rw [literal_eq_some_iff.2 List.singleton_append.symm]
  rfl

/-- No piece is read from the quotes at the end. -/
theorem many_quotes {quote : Char} {piece : Reader Text} {n : Nat} {rest : Text}
    (hquote : ∀ s, piece (quote :: s) = innerQuote quote (quote :: s)) (hn : n ≤ 2)
    (hrest : rest.head? ≠ some quote) :
    many piece (List.replicate n quote ++ quote :: quote :: quote :: rest) =
      ([], List.replicate n quote ++ quote :: quote :: quote :: rest) := by
  refine many_of_none ?_
  have hclosing := closing_quotes hn hrest
  obtain ⟨s, hs⟩ : ∃ s, List.replicate n quote ++ quote :: quote :: quote :: rest = quote :: s := by
    cases n with
    | zero => exact ⟨_, rfl⟩
    | succ n => exact ⟨_, rfl⟩
  rw [hs] at hclosing ⊢
  rw [hquote, innerQuote, hclosing]

namespace Content

variable {quote : Char} {piece : Reader Text} {run : Nat} {t written : Text}

/-- A character may stand for itself. -/
theorem plain {c : Char} (few : run ≤ 2) (noQuote : c ≠ quote) (noReturn : c ≠ '\r')
    (read : ∀ rest, piece (c :: rest) = some ([c], rest))
    (content : Content quote piece 0 t written) :
    Content quote piece run (c :: t) (c :: written) :=
  show Content quote piece run (c :: t) ([c] ++ written) from
    .other few noQuote noReturn id read content

/-- A character may be written as an escape. -/
theorem escaped {c : Char} {escape : Text} (few : run ≤ 2) (noQuote : '\\' ≠ quote)
    (read : ∀ rest, piece ('\\' :: escape ++ rest) = some ([c], rest))
    (content : Content quote piece 0 t written) :
    Content quote piece run (c :: t) ('\\' :: escape ++ written) :=
  .other few noQuote (by decide) (fun h => absurd h (by decide)) read content

/-- The inside of a multi-line string is at most two quotes, or begins with at most two quotes
before some other character. -/
theorem eq_replicate_or (h : Content quote piece run t written) :
    (∃ n, t = List.replicate n quote ∧ written = List.replicate n quote ∧ n + run ≤ 2) ∨
    (∃ n front back, written = List.replicate n quote ++ front :: back ∧ n + run ≤ 2 ∧
      front ≠ quote) := by
  induction h with
  | nil few => exact .inl ⟨0, rfl, rfl, by omega⟩
  | quote few _ ih =>
    obtain ⟨n, ht, hwritten, hn⟩ | ⟨n, front, back, hwritten, hn, hfront⟩ := ih
    · exact .inl ⟨n + 1, by rw [ht]; rfl, by rw [hwritten]; rfl, by omega⟩
    · exact .inr ⟨n + 1, front, back, by rw [hwritten]; rfl, by omega, hfront⟩
  | other few noQuote => exact .inr ⟨0, _, _, rfl, by omega, noQuote⟩

/-- **The pieces of the inside are the text**, up to the last quotes, which are read with the
closing ones. -/
theorem many_piece (h : Content quote piece run t written) (hshrinks : Shrinks piece)
    (hquote : ∀ s, piece (quote :: s) = innerQuote quote (quote :: s)) {rest : Text}
    (hrest : rest.head? ≠ some quote) :
    ∃ pieces n, n ≤ 2 ∧ pieces.flatten ++ List.replicate n quote = t ∧
      many piece (written ++ quote :: quote :: quote :: rest) =
        (pieces, List.replicate n quote ++ quote :: quote :: quote :: rest) := by
  induction h with
  | nil few =>
    have hnone := many_quotes hquote (Nat.zero_le 2) hrest
    exact ⟨[], 0, by omega, rfl, hnone⟩
  | @quote run t written few content ih =>
    obtain ⟨n, ht, hwritten, hn⟩ | ⟨n, front, back, hwritten, hn, hfront⟩ :=
      content.eq_replicate_or
    · rw [ht, hwritten, ← List.replicate_succ]
      exact ⟨[], n + 1, by omega, rfl, many_quotes hquote (by omega) hrest⟩
    · obtain ⟨pieces, n', hn', hpieces, hmany⟩ := ih
      have hread : piece (quote :: written ++ quote :: quote :: quote :: rest) =
          some ([quote], written ++ quote :: quote :: quote :: rest) := by
        rw [hwritten, List.cons_append, hquote, List.append_assoc]
        exact innerQuote_cons (by omega) hfront _
      refine ⟨[quote] :: pieces, n', hn', ?_, ?_⟩
      · rw [List.flatten_cons, List.singleton_append, List.cons_append, hpieces]
      · rw [many_of_some hshrinks hread, hmany]
  | @other run c front back t written few noQuote noReturn line read content ih =>
    obtain ⟨pieces, n, hn, hpieces, hmany⟩ := ih
    refine ⟨[c] :: pieces, n, hn, ?_, ?_⟩
    · rw [List.flatten_cons, List.singleton_append, List.cons_append, hpieces]
    · rw [List.append_assoc, many_of_some hshrinks (read _), hmany]

/-- The inside begins with a line end only where its text has one. -/
theorem newline_eq_none (h : Content quote piece run t written) (hline : '\n' ∉ t)
    (hquote : quote ≠ '\n' ∧ quote ≠ '\r') (rest : Text) :
    newline (written ++ quote :: rest) = none := by
  have hfront : ∀ {front : Char} (back : Text), front ≠ '\n' → front ≠ '\r' →
      newline (front :: back) = none := fun back hn hr =>
    newline.eq_3 _ (fun _ heq => hn (List.cons.inj heq).1) fun _ heq => hr (List.cons.inj heq).1
  cases h with
  | nil => exact hfront _ hquote.1 hquote.2
  | quote => exact hfront _ hquote.1 hquote.2
  | other few noQuote noReturn line =>
    refine hfront _ (fun heq => hline ?_) noReturn
    rw [line heq]
    exact List.mem_cons_self

/-- **A multi-line string is read back**, with the line feed after its opening quotes dropped. -/
theorem multiline_opening (h : Content quote piece run t written) (hshrinks : Shrinks piece)
    (hpiece : ∀ s, piece (quote :: s) = innerQuote quote (quote :: s))
    (hquote : quote ≠ '\n' ∧ quote ≠ '\r') {rest : Text} (hrest : rest.head? ≠ some quote) :
    multiline quote piece (opening t ++ written ++ quote :: quote :: quote :: rest) =
      some (t, rest) := by
  have hopening : (newline (opening t ++ written ++ quote :: quote :: quote :: rest)).getD
      (opening t ++ written ++ quote :: quote :: quote :: rest) =
        written ++ quote :: quote :: quote :: rest := by
    rw [opening]
    split
    · rfl
    · next hline =>
      rw [List.nil_append, h.newline_eq_none (by simpa using hline) hquote]
      rfl
  obtain ⟨pieces, n, hn, hpieces, hmany⟩ := h.many_piece hshrinks hpiece hrest
  rw [multiline, hopening, hmany]
  dsimp only
  rw [closing_quotes hn hrest]
  exact congrArg (fun t => some (t, rest)) hpieces

end Content

/-- Escaped lines are the inside of a basic string. -/
theorem content_escapeLines {run : Nat} (hrun : run ≤ 2) (t : Text) :
    Content '"' basicPiece run t (escapeLines run t) := by
  fun_induction escapeLines run t with
  | case1 run => exact .nil hrun
  | case2 cs ih =>
    exact .escaped hrun (by decide) (basicPiece_escapeChar '"') (ih (by omega))
  | case3 run cs hne ih => exact .quote (by omega) (ih (by omega))
  | case4 run cs hquote ih =>
    exact .plain hrun hquote (by decide) (fun _ => rfl) (ih (by omega))
  | case5 run c cs hquote hline ih =>
    have hread := basicPiece_escapeChar c
    rcases escapeChar_cases c with ⟨letter, digits, hwritten, -⟩ | ⟨hwritten, -, -, -, -, hreturn⟩
    · rw [hwritten] at hread ⊢
      exact .escaped hrun (by decide) hread (ih (by omega))
    · rw [hwritten] at hread ⊢
      exact .plain hrun hquote hreturn hread (ih (by omega))

/-- The quotes right before a text belong to its longest run. -/
theorem le_longestRunFrom (c : Char) (run : Nat) (t : Text) : run ≤ longestRunFrom c run t := by
  fun_induction longestRunFrom c run t <;> omega

theorem notMem_of_longestRunFrom {c : Char} {run : Nat} {t : Text}
    (h : longestRunFrom c run t = 0) : c ∉ t := by
  fun_induction longestRunFrom c run t with
  | case1 run => exact List.not_mem_nil
  | case2 run ds ih =>
    have hle := le_longestRunFrom c (run + 1) ds
    omega
  | case3 run d ds hne ih =>
    have hds : c ∉ ds := ih (by omega)
    exact List.not_mem_cons_of_ne_of_not_mem (Ne.symm hne) hds

/-- A character that is no code stands for itself inside a literal string. -/
theorem verbatimPiece_cons {c : Char} (h : isCode c = false) (hquote : c ≠ '\'') (rest : Text) :
    verbatimPiece (c :: rest) = some ([c], rest) := by
  by_cases hline : c = '\n'
  · rw [hline]
    rfl
  · rw [verbatimPiece, if_pos (isPlain_of_not_isCode h hline)]
    exact hquote

/-- A text without codes and without three quotes in a row is the inside of a literal string. -/
theorem content_self {run : Nat} {t : Text} (hcodes : ∀ c ∈ t, isCode c = false)
    (hrun : longestRunFrom '\'' run t ≤ 2) : Content '\'' verbatimPiece run t t := by
  fun_induction longestRunFrom '\'' run t with
  | case1 run => exact .nil hrun
  | case2 run ds ih =>
    have hle := le_longestRunFrom '\'' (run + 1) ds
    exact .quote (by omega) (ih (fun c hc => hcodes c (List.mem_cons_of_mem _ hc)) hrun)
  | case3 run d ds hne ih =>
    have hd : isCode d = false := hcodes d List.mem_cons_self
    have hreturn : d ≠ '\r' := by
      rintro rfl
      cases hd
    exact .plain (by omega) hne hreturn (verbatimPiece_cons hd hne)
      (ih (fun c hc => hcodes c (List.mem_cons_of_mem _ hc)) (by omega))

/-! ### Whole strings -/

/-- What a form asks of its text. The escaped forms hold every text. -/
def StringForm.Fits : StringForm → Text → Prop
  | basic, _ => True
  | verbatim, t => ∀ c ∈ t, isPlain c = true ∧ c ≠ '\''
  | multilineBasic, _ => True
  | multilineVerbatim, t => (∀ c ∈ t, isCode c = false) ∧ longestRun '\'' t ≤ 2

/-- A text without codes and line ends fits between single quotes, if it has none of them. -/
theorem StringForm.fits_verbatim {t : Text} (hcodes : ∀ c ∈ t, isCode c = false) (hline : '\n' ∉ t)
    (hquote : '\'' ∉ t) : StringForm.verbatim.Fits t := fun c hc =>
  ⟨isPlain_of_not_isCode (hcodes c hc) (ne_of_mem_of_not_mem hc hline),
    ne_of_mem_of_not_mem hc hquote⟩

/-- The writer chooses a form that fits. -/
theorem StringForm.fits_ofText (t : Text) : (StringForm.ofText t).Fits t := by
  rw [ofText]
  split_ifs with hbasic hverbatim hdouble hsingle hlines
  case pos => trivial
  case pos =>
    simp only [Bool.and_eq_true, Bool.not_eq_true', List.any_eq_false, Bool.not_eq_true,
      beq_iff_eq, List.contains_eq_mem, decide_eq_false_iff_not] at hverbatim
    obtain ⟨⟨hcodes, hrun⟩, hline⟩ := hverbatim
    exact fits_verbatim hcodes hline (notMem_of_longestRunFrom hrun)
  case pos => trivial
  case pos =>
    simp only [Bool.and_eq_true, Bool.not_eq_true', List.any_eq_false, Bool.not_eq_true,
      decide_eq_true_eq] at hsingle
    exact hsingle
  case pos => trivial
  case neg => trivial

theorem singleQuoted_writeBasic (t rest : Text) :
    singleQuoted (StringForm.basic.write t ++ rest) = some (t, rest) := by
  simp only [StringForm.write, List.append_assoc, List.cons_append, List.nil_append, singleQuoted]
  exact basic_escapeLine t rest

theorem singleQuoted_writeVerbatim {t : Text} (h : StringForm.verbatim.Fits t) (rest : Text) :
    singleQuoted (StringForm.verbatim.write t ++ rest) = some (t, rest) := by
  simp only [StringForm.write, List.append_assoc, List.cons_append, List.nil_append, singleQuoted]
  exact verbatim_append h rest

/-- An escaped line does not begin with a quote. -/
theorem head?_escapeLine (t : Text) : (escapeLine t).head? ≠ some '"' := by
  cases t with
  | nil => exact nofun
  | cons c cs =>
    rw [escapeLine, List.flatMap_cons]
    rcases escapeChar_cases c with ⟨letter, digits, hwritten, -⟩ | ⟨hwritten, -, hquote, -⟩
    · rw [hwritten]
      exact fun h => absurd (Option.some.inj h) (by decide)
    · rw [hwritten]
      exact fun h => hquote (Option.some.inj h)

/-- Quotes around a content that does not begin with one are no tripled quotes. -/
theorem quoted_eq_singleQuoted {quote : Char} {content rest : Text}
    (hcontent : content.head? ≠ some quote) (hrest : rest.head? ≠ some quote) :
    quoted ([quote] ++ content ++ [quote] ++ rest) =
      singleQuoted ([quote] ++ content ++ [quote] ++ rest) := by
  have hno : ∀ c tail, [quote] ++ content ++ [quote] ++ rest ≠ c :: c :: c :: tail := by
    intro c tail h
    cases content with
    | nil =>
      obtain ⟨rfl, -, rfl⟩ : quote = c ∧ quote = c ∧ rest = c :: tail := by simpa using h
      exact hrest rfl
    | cons d ds =>
      obtain ⟨rfl, rfl, -⟩ : quote = c ∧ d = c ∧ _ := by simpa using h
      exact hcontent rfl
  exact quoted.eq_3 _ (hno _) (hno _)

/-- A string in a form that fits is read back, if no quote follows it. -/
theorem quoted_write {form : StringForm} {t : Text} (h : form.Fits t) {rest : Text}
    (hdouble : rest.head? ≠ some '"') (hsingle : rest.head? ≠ some '\'') :
    quoted (form.write t ++ rest) = some (t, rest) := by
  cases form with
  | basic =>
    rw [← singleQuoted_writeBasic t rest]
    exact quoted_eq_singleQuoted (head?_escapeLine t) hdouble
  | verbatim =>
    have hhead : t.head? ≠ some '\'' := fun hhead => (h _ (List.mem_of_head? hhead)).2 rfl
    rw [← singleQuoted_writeVerbatim h rest]
    exact quoted_eq_singleQuoted hhead hsingle
  | multilineBasic =>
    have hread := (content_escapeLines (by omega : 0 ≤ 2) t).multiline_opening shrinks_basicPiece
      (fun _ => rfl) (by decide) hdouble
    simpa only [StringForm.write, quoted, List.append_assoc, List.cons_append, List.nil_append]
      using hread
  | multilineVerbatim =>
    have hread := (content_self h.1 h.2).multiline_opening shrinks_verbatimPiece
      (fun _ => rfl) (by decide) hsingle
    simpa only [StringForm.write, quoted, List.append_assoc, List.cons_append, List.nil_append]
      using hread

/-- **A written string is read back.** -/
theorem quoted_writeString (t : Text) {rest : Text} (hdouble : rest.head? ≠ some '"')
    (hsingle : rest.head? ≠ some '\'') :
    quoted (writeString t ++ rest) = some (t, rest) :=
  quoted_write (StringForm.fits_ofText t) hdouble hsingle

/-- A key without quotes is read up to the first character that cannot belong to it. -/
theorem simpleKey_bare {key rest : Text} (hne : key ≠ [])
    (hkey : ∀ c ∈ key, isBareKeyChar c = true)
    (hrest : ∀ c, rest.head? = some c → isBareKeyChar c = false) :
    simpleKey (key ++ rest) = some (key, rest) := by
  obtain ⟨htake, hdrop⟩ := takeWhile_dropWhile_append hkey hrest
  obtain ⟨c, cs, rfl⟩ := List.exists_cons_of_ne_nil hne
  have hc : isBareKeyChar c = true := hkey c List.mem_cons_self
  rw [simpleKey, htake, hdrop]
  · rfl
  · rintro tail ⟨⟩
    cases hc
  · rintro tail ⟨⟩
    cases hc

/-- **A written key is read back**, if it does not go on. -/
theorem simpleKey_writeKey (key : Text) {rest : Text}
    (hrest : ∀ c, rest.head? = some c → isBareKeyChar c = false) :
    simpleKey (writeKey key ++ rest) = some (key, rest) := by
  rw [writeKey]
  split_ifs with hbare hbasic hverbatim
  case pos =>
    simp only [Bool.and_eq_true, Bool.not_eq_true', List.isEmpty_eq_false_iff, List.all_eq_true]
      at hbare
    exact simpleKey_bare hbare.1 hbare.2 hrest
  case pos => exact singleQuoted_writeBasic key rest
  case pos =>
    simp only [Bool.and_eq_true, Bool.not_eq_true', List.any_eq_false, Bool.or_eq_true, not_or,
      Bool.not_eq_true, beq_iff_eq, List.contains_eq_mem, decide_eq_false_iff_not] at hverbatim
    obtain ⟨hcodes, hquote⟩ := hverbatim
    have hfits : StringForm.verbatim.Fits key :=
      StringForm.fits_verbatim (fun c hc => (hcodes c hc).1) (fun hc => (hcodes _ hc).2 rfl) hquote
    exact singleQuoted_writeVerbatim hfits rest
  case neg => exact singleQuoted_writeBasic key rest

end PageShell.Toml
