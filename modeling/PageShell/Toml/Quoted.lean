import PageShell.Toml.Number

/-!
# Quoted strings

A string stands between quotes. *Basic* strings use `"` and know escapes;
*literal* strings use `'` and know none. Tripled quotes open the multi-line
forms of both, which may hold line ends.

* `escape` — the character that an escape stands for;
* `quoted` — reads a string in any of the four forms;
* `singleQuoted` — reads a string in one of the two single-line forms.
-/

namespace PageShell.Toml

/-! ### Escapes -/

/-- The character of a code point, unless it is a surrogate or too large. -/
def charOfCode? (n : Nat) : Option Char :=
  if h : n.isValidChar then some (Char.ofNatAux n h) else none

/-- Reads a character written as exactly `digits` hexadecimal digits of its code point. -/
def codePoint (digits : Nat) : Reader Char := fun s => do
  let code := s.take digits
  guard (code.length = digits ∧ code.all isHexDigit)
  let c ← charOfCode? (ofDigits 16 code)
  pure (c, s.drop digits)

/-- Reads an escape after its backslash: the character it stands for. -/
def escape : Reader Char
  | 'b' :: rest => some ('\x08', rest)
  | 't' :: rest => some ('\t', rest)
  | 'n' :: rest => some ('\n', rest)
  | 'f' :: rest => some ('\x0c', rest)
  | 'r' :: rest => some ('\r', rest)
  | '"' :: rest => some ('"', rest)
  | '\\' :: rest => some ('\\', rest)
  | 'u' :: rest => codePoint 4 rest
  | 'U' :: rest => codePoint 8 rest
  | _ => none

/-! ### Single-line forms -/

/-- Reads one character of a basic string: a plain one other than the quote, or an escape. -/
def basicUnit : Reader Char
  | '\\' :: rest => escape rest
  | c :: rest => if isPlain c && c != '"' then some (c, rest) else none
  | [] => none

/-- Reads a basic string after its opening quote. -/
def basic : Reader Text := fun s =>
  let (content, rest) := many basicUnit s
  (literal ['"'] rest).map (content, ·)

/-- Reads a literal string after its opening quote. -/
def verbatim : Reader Text := fun s =>
  let isContent := fun c => isPlain c && c != '\''
  (literal ['\''] (s.dropWhile isContent)).map (s.takeWhile isContent, ·)

/-! ### Multi-line forms -/

/-- Reads a run of quotes that closes a multi-line string: three quotes, with one or two more
before them that belong to the string. -/
def closing (quote : Char) : Reader Text := fun s =>
  let run := (s.take 5).takeWhile (· == quote)
  if 3 ≤ run.length then some (run.drop 3, s.drop run.length) else none

/-- Reads a quote inside a multi-line string, where it does not begin a closing run. -/
def innerQuote (quote : Char) : Reader Text := fun s =>
  match closing quote s with
  | some _ => none
  | none => (literal [quote] s).map ([quote], ·)

/-- Reads a line end inside a multi-line string; it counts as one line feed. -/
def innerNewline : Reader Text := fun s =>
  (newline s).map (['\n'], ·)

/-- Reads the end of a line after a backslash, with all the space and line ends that follow: the
string goes on at the next visible character. -/
def continuation : Reader Text := fun s => do
  let rest ← newline (skipSpaces s)
  pure ([], (many spaceOrNewline rest).2)
where
  /-- reads one space, tab or line end -/
  spaceOrNewline : Reader Unit
    | [] => none
    | c :: rest => if isSpace c then some ((), rest) else (newline (c :: rest)).map ((), ·)

/-- Reads one piece of a multi-line basic string. -/
def basicPiece : Reader Text := fun s =>
  match s with
  | '\\' :: rest => continuation rest <|> (escape rest).map fun (c, rest') => ([c], rest')
  | '"' :: _ => innerQuote '"' s
  | c :: rest => if isPlain c then some ([c], rest) else innerNewline s
  | [] => none

/-- Reads one piece of a multi-line literal string. -/
def verbatimPiece : Reader Text := fun s =>
  match s with
  | '\'' :: _ => innerQuote '\'' s
  | c :: rest => if isPlain c then some ([c], rest) else innerNewline s
  | [] => none

/-- Reads a multi-line string after its opening quotes; a line end right there is dropped. -/
def multiline (quote : Char) (piece : Reader Text) : Reader Text := fun s => do
  let (pieces, rest) := many piece ((newline s).getD s)
  let (quotes, rest') ← closing quote rest
  pure (pieces.flatten ++ quotes, rest')

/-! ### Choosing the form -/

/-- Reads a string in one of the single-line forms. -/
def singleQuoted : Reader Text
  | '"' :: rest => basic rest
  | '\'' :: rest => verbatim rest
  | _ => none

/-- **Reads a string** in any of its four forms; three quotes always open a multi-line form. -/
def quoted : Reader Text
  | '"' :: '"' :: '"' :: rest => multiline '"' basicPiece rest
  | '\'' :: '\'' :: '\'' :: rest => multiline '\'' verbatimPiece rest
  | s => singleQuoted s

end PageShell.Toml
