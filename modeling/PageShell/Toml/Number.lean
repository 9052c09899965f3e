import PageShell.Toml.Reader

/-!
# Numbers

A number is one *token*, a run of letters, digits and the characters `+ - . _ :`.

* `integer?` — the value of a decimal, hexadecimal, octal or binary token of
  at most 64 bits;
* `isFloat` — whether a token is a floating-point number that is not too large.

No setting is a floating-point number, so of one it only matters that it is
well formed.
-/

namespace PageShell.Toml

/-- Whether a character may stand in a number, a boolean, a date or a time. -/
def isTokenChar (c : Char) : Bool :=
  c.isAlphanum || c == '+' || c == '-' || c == '.' || c == '_' || c == ':'

/-- The digits of a text that has single underscores at most, each between two digits. -/
def ungroup (isDigit : Char → Bool) : Text → Option Text
  | [] => none
  | [c] => if isDigit c then some [c] else none
  | c :: '_' :: rest => if isDigit c then (ungroup isDigit rest).map (c :: ·) else none
  | c :: rest => if isDigit c then (ungroup isDigit rest).map (c :: ·) else none

/-- The value of one digit, in any base up to sixteen. -/
def digitValue (c : Char) : Nat :=
  if c.isDigit then c.toNat - '0'.toNat else c.toLower.toNat - 'a'.toNat + 10

/-- The value of a sequence of digits. -/
def ofDigits (base : Nat) (digits : Text) : Nat :=
  digits.foldl (fun n c => base * n + digitValue c) 0

/-- Whether a character is a hexadecimal digit. -/
def isHexDigit (c : Char) : Bool :=
  c.isDigit || ('a' ≤ c && c ≤ 'f') || ('A' ≤ c && c ≤ 'F')

/-- The digits of a decimal number without sign; only zero itself begins with a zero. -/
def decimalDigits? (s : Text) : Option Text := do
  let digits ← ungroup Char.isDigit s
  if 1 < digits.length && digits.head? == some '0' then none else some digits

/-- A sign at the front of a text, as whether it is a minus, and the text after it. -/
def splitSign : Text → Bool × Text
  | '+' :: rest => (false, rest)
  | '-' :: rest => (true, rest)
  | s => (false, s)

/-- An integer, if 64 bits with a sign can hold it. -/
def inRange? (n : Int) : Option Int :=
  if -0x8000000000000000 ≤ n ∧ n < 0x8000000000000000 then some n else none

/-- **The value of an integer token.** Hexadecimal, octal and binary numbers have no sign. -/
def integer? : Text → Option Int
  | '0' :: 'x' :: s => (ungroup isHexDigit s).bind fun ds => inRange? (ofDigits 16 ds)
  | '0' :: 'o' :: s =>
    (ungroup (fun c => '0' ≤ c && c ≤ '7') s).bind fun ds => inRange? (ofDigits 8 ds)
  | '0' :: 'b' :: s =>
    (ungroup (fun c => c == '0' || c == '1') s).bind fun ds => inRange? (ofDigits 2 ds)
  | s => do
    let (negative, unsigned) := splitSign s
    let n : Int := ofDigits 10 (← decimalDigits? unsigned)
    inRange? (if negative then -n else n)

/-! ### Floating-point numbers -/

/-- The least number that is rounded to infinity in double precision. -/
def tooLarge : Nat :=
  Nat.pow 2 1024 - Nat.pow 2 970

/-- Whether the decimal number `digits · 10 ^ exponent` is rounded to infinity. Only numbers of
exactly 309 places before the point need the exact comparison. -/
def overflows (digits : Text) (exponent : Int) : Bool :=
  let significant := digits.dropWhile (· == '0')
  let places : Int := significant.length + exponent
  if significant.isEmpty || places < 309 then false
  else if 309 < places then true
  else
    let n := ofDigits 10 significant
    if 0 ≤ exponent then tooLarge ≤ n * Nat.pow 10 exponent.toNat
    else tooLarge * Nat.pow 10 (-exponent).toNat ≤ n

/-- The value of an exponent after its letter: digits with an optional sign. -/
def exponent? (s : Text) : Option Int := do
  let (negative, unsigned) := splitSign s
  let n : Int := ofDigits 10 (← ungroup Char.isDigit unsigned)
  pure (if negative then -n else n)

/-- The exponent that a token ends in, zero when it has none. -/
def exponentOfEnd? : Text → Option Int
  | [] => some 0
  | _ :: s => exponent? s

/-- The digits after the point that a mantissa ends in, none when it has no point. -/
def digitsOfEnd? : Text → Option Text
  | [] => some []
  | _ :: s => ungroup Char.isDigit s

/-- A sign, digits, and then a point with digits, an exponent, or both. -/
def isDecimalFloat (s : Text) : Bool :=
  let (negative, unsigned) := splitSign s
  let isExponentMark := fun c => c == 'e' || c == 'E'
  let mantissa := unsigned.takeWhile (!isExponentMark ·)
  let ending := unsigned.dropWhile (!isExponentMark ·)
  let whole := mantissa.takeWhile (· != '.')
  let fraction := mantissa.dropWhile (· != '.')
  if ending.isEmpty && fraction.isEmpty then false
  else
    match decimalDigits? whole, digitsOfEnd? fraction, exponentOfEnd? ending with
    | some ds, some fs, some e => negative || !overflows (ds ++ fs) (e - fs.length)
    | _, _, _ => false

/-- **Whether a token is a floating-point number.** A positive number that would be rounded to
infinity is refused. -/
def isFloat (s : Text) : Bool :=
  let unsigned := (splitSign s).2
  unsigned == "inf".toList || unsigned == "nan".toList || isDecimalFloat s

end PageShell.Toml
