/-!
# Text: sequences of characters

Everything the shell reads, keeps and shows is a `Text`, a list of Unicode
characters. Carets and lengths count characters, so no position can fall
inside one.

* `Text.dropEnd` — a text without its trailing characters of a kind;
* `Text.eraseFirst` — a text without the first occurrence of a pattern;
* `Text.padEnd` — a text filled up with spaces to a width.
-/

namespace PageShell

/-- A text: its characters, in order. -/
abbrev Text := List Char

namespace Text

/-- The text without its longest ending made of characters that satisfy `p`. -/
def dropEnd (p : Char → Bool) (t : Text) : Text :=
  (t.reverse.dropWhile p).reverse

/-- The text without the first occurrence of `pattern`, or the text itself when there is none. -/
def eraseFirst (pattern : Text) : Text → Text
  | [] => []
  | c :: cs =>
    if pattern.isPrefixOf (c :: cs) then (c :: cs).drop pattern.length
    else c :: eraseFirst pattern cs

/-- The text followed by as many spaces as it takes to be at least `width` characters long. -/
def padEnd (width : Nat) (t : Text) : Text :=
  t ++ List.replicate (width - t.length) ' '

/-- A natural number in decimal digits. -/
def ofNat (n : Nat) : Text :=
  Nat.toDigits 10 n

/-- A natural number in decimal, filled up on the left with zeros to `width` digits. -/
def ofNatPadded (width n : Nat) : Text :=
  List.replicate (width - (ofNat n).length) '0' ++ ofNat n

end Text

end PageShell
