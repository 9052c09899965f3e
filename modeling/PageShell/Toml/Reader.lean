import PageShell.Text.Basic

/-!
# Readers: taking a value off the front of a text

A reader answers with a value and the text that is left, or with nothing when
the text does not begin as it should. Larger readers are built with `do`, and
repetitions of items are instances of `many`.

* `many` — one item after another;
* `separated` — items with a separator between neighbours;
* `many_of_some`, `many_of_none` — how a repetition goes on and how it ends.
-/

namespace PageShell.Toml

/-- **A reader** of values: from a text to a value and the rest of the text, if it can. -/
abbrev Reader (α : Type) := Text → Option (α × Text)

/-- Reads exactly these characters and answers with the rest. -/
def literal (expected s : Text) : Option Text :=
  if expected.isPrefixOf s then some (s.drop expected.length) else none

/-- Reads at most `bound` items, until the next one cannot be read. -/
def manyUpTo {α : Type} (item : Reader α) : Nat → Text → List α × Text
  | 0, s => ([], s)
  | bound + 1, s =>
    match item s with
    | none => ([], s)
    | some (a, rest) =>
      let (more, rest') := manyUpTo item bound rest
      (a :: more, rest')

/-- **Reads items until the next one cannot be read.** An item takes at least one character, so a
text has no more items than characters. -/
def many {α : Type} (item : Reader α) (s : Text) : List α × Text :=
  manyUpTo item s.length s

/-- Whether every item that is read takes at least one character. -/
def Shrinks {α : Type} (item : Reader α) : Prop :=
  ∀ ⦃s rest : Text⦄ ⦃a : α⦄, item s = some (a, rest) → rest.length < s.length

/-- The number of characters is bound enough: more items cannot be read. -/
theorem manyUpTo_eq_many {α : Type} {item : Reader α} (h : Shrinks item) {bound : Nat} {s : Text}
    (hb : s.length ≤ bound) : manyUpTo item bound s = many item s := by
  suffices ∀ bound bound' (s : Text), s.length ≤ bound → s.length ≤ bound' →
      manyUpTo item bound s = manyUpTo item bound' s from this _ _ s hb (Nat.le_refl _)
  intro bound
  induction bound with
  | zero =>
    intro bound' s hs _
    cases bound' with
    | zero => rfl
    | succ n =>
      cases hi : item s with
      | none => simp [manyUpTo, hi]
      | some p =>
        have := h (show item s = some (p.1, p.2) from hi)
        omega
  | succ bound ih =>
    intro bound' s hs hs'
    cases hi : item s with
    | none => cases bound' <;> simp [manyUpTo, hi]
    | some p =>
      have hlt := h (show item s = some (p.1, p.2) from hi)
      cases bound' with
      | zero => omega
      | succ n => simp [manyUpTo, hi, ih n p.2 (by omega) (by omega)]

/-- A repetition ends where no item can be read. -/
theorem many_of_none {α : Type} {item : Reader α} {s : Text} (h : item s = none) :
    many item s = ([], s) := by
  unfold many
  cases s.length <;> simp [manyUpTo, h]

/-- A repetition goes on after every item. -/
theorem many_of_some {α : Type} {item : Reader α} {s rest : Text} {a : α} (hs : Shrinks item)
    (h : item s = some (a, rest)) :
    many item s = (a :: (many item rest).1, (many item rest).2) := by
  have hlt := hs h
  rw [← manyUpTo_eq_many hs (Nat.le_succ s.length), manyUpTo, h]
  simp [manyUpTo_eq_many hs (Nat.le_of_lt hlt)]

/-- Reads any number of items with the character `separator` between neighbours. A separator that
no item follows is left in the rest. -/
def separated {α : Type} (separator : Char) (item : Reader α) (s : Text) : List α × Text :=
  match item s with
  | none => ([], s)
  | some (a, rest) =>
    let (more, rest') := many (fun t => do item (← literal [separator] t)) rest
    (a :: more, rest')

/-! ### Spaces, line ends and comments -/

/-- Whether a character is a space or a tab. -/
def isSpace (c : Char) : Bool :=
  c == ' ' || c == '\t'

/-- The text after its leading spaces and tabs. -/
def skipSpaces (s : Text) : Text :=
  s.dropWhile isSpace

/-- Whether a character may stand in a comment or a string: a tab, or any character that is no
control. -/
def isPlain (c : Char) : Bool :=
  c == '\t' || (0x20 ≤ c.toNat && c.toNat != 0x7F)

/-- Reads the end of a line: a line feed, or a carriage return and a line feed. -/
def newline : Text → Option Text
  | '\n' :: rest => some rest
  | '\r' :: '\n' :: rest => some rest
  | _ => none

/-- The text after a comment, if one stands at its front. -/
def skipComment : Text → Text
  | '#' :: rest => rest.dropWhile isPlain
  | s => s

/-- Reads what may follow a statement on its line: spaces, a comment, and the end of the line or
of the text. -/
def lineEnd (s : Text) : Option Text :=
  match skipComment (skipSpaces s) with
  | [] => some []
  | rest => newline rest

/-- The text after its leading spaces, line ends and comments, where `inComment` says whether its
front belongs to a comment. -/
def skipGapsFrom : Bool → Text → Text
  | _, '\n' :: rest => skipGapsFrom false rest
  | _, '\r' :: '\n' :: rest => skipGapsFrom false rest
  | true, c :: rest => if isPlain c then skipGapsFrom true rest else c :: rest
  | false, '#' :: rest => skipGapsFrom true rest
  | false, c :: rest => if isSpace c then skipGapsFrom false rest else c :: rest
  | _, [] => []

/-- The text after the white space that is allowed inside arrays: spaces, line ends and
comments. -/
def skipGaps (s : Text) : Text :=
  skipGapsFrom false s

end PageShell.Toml
