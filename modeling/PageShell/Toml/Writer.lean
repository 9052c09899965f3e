import PageShell.Dictionary
import PageShell.Toml.Key

/-!
# Writing documents

The written form of a string is the plainest one that can hold it: quotes that
the string does not use, then tripled quotes, then escapes.

* `StringForm.ofText`, `writeString` — the choice of form, and the form itself;
* `writeKey` — a key, bare where it can be;
* `writeEntries` — the lines of a dictionary.
-/

namespace PageShell.Toml

/-! ### Properties of a text -/

/-- Whether a character can only be written as an escape: a control other than a tab or a line
feed. -/
def isCode (c : Char) : Bool :=
  (c.toNat < 0x20 && c != '\t' && c != '\n') || c.toNat == 0x7F

/-- The length of the longest run of `c` in a text, where `run` of them stand right before it. -/
def longestRunFrom (c : Char) (run : Nat) : Text → Nat
  | [] => run
  | d :: ds => if d = c then longestRunFrom c (run + 1) ds else max run (longestRunFrom c 0 ds)

/-- The length of the longest run of a character in a text. -/
def longestRun (c : Char) (t : Text) : Nat :=
  longestRunFrom c 0 t

/-! ### Escapes -/

/-- The upper-case hexadecimal digit of a number below sixteen. -/
def hexDigit (n : Nat) : Char :=
  (Nat.digitChar n).toUpper

/-- The escape of a character by its code point, in four digits. -/
def codeEscape (c : Char) : Text :=
  let n := c.toNat
  ['\\', 'u', hexDigit (n / 4096 % 16), hexDigit (n / 256 % 16), hexDigit (n / 16 % 16),
    hexDigit (n % 16)]

/-- A character inside a basic string on one line. -/
def escapeChar (c : Char) : Text :=
  if c = '\x08' then ['\\', 'b']
  else if c = '\t' then ['\\', 't']
  else if c = '\n' then ['\\', 'n']
  else if c = '\x0c' then ['\\', 'f']
  else if c = '\r' then ['\\', 'r']
  else if c = '"' then ['\\', '"']
  else if c = '\\' then ['\\', '\\']
  else if isCode c then codeEscape c
  else [c]

/-- The content of a basic string on one line. -/
def escapeLine (t : Text) : Text :=
  t.flatMap escapeChar

/-- The content of a multi-line basic string, where `run` quotes stand right before it. Every third
quote in a row is escaped, so that no three stand together. -/
def escapeLines (run : Nat) : Text → Text
  | [] => []
  | c :: cs =>
    if c = '"' then
      if run = 2 then '\\' :: '"' :: escapeLines 0 cs else '"' :: escapeLines (run + 1) cs
    else if c = '\n' then '\n' :: escapeLines 0 cs
    else escapeChar c ++ escapeLines 0 cs

/-! ### Strings -/

/-- The four forms of a string. -/
inductive StringForm where
  | basic
  | verbatim
  | multilineBasic
  | multilineVerbatim
  deriving DecidableEq, Repr

/-- **The form a string is written in**, the first that fits: plain between double quotes, plain
between single quotes, the same with tripled quotes, and escaped. -/
def StringForm.ofText (t : Text) : StringForm :=
  let codes := t.any isCode
  let backslash := t.contains '\\'
  let lines := t.contains '\n'
  let double := longestRun '"' t
  let single := longestRun '\'' t
  if !codes && !backslash && double == 0 && !lines then basic
  else if !codes && single == 0 && !lines then verbatim
  else if !codes && !backslash && double ≤ 2 then multilineBasic
  else if !codes && single ≤ 2 then multilineVerbatim
  else if lines then multilineBasic
  else basic

/-- The line feed right after tripled quotes, which does not belong to the string. It is written
before every string that has line feeds. -/
def opening (t : Text) : Text :=
  if t.contains '\n' then ['\n'] else []

/-- A string in a given form. -/
def StringForm.write (form : StringForm) (t : Text) : Text :=
  match form with
  | basic => ['"'] ++ escapeLine t ++ ['"']
  | verbatim => ['\''] ++ t ++ ['\'']
  | multilineBasic => ['"', '"', '"'] ++ opening t ++ escapeLines 0 t ++ ['"', '"', '"']
  | multilineVerbatim => ['\'', '\'', '\''] ++ opening t ++ t ++ ['\'', '\'', '\'']

/-- A string as a value. -/
def writeString (t : Text) : Text :=
  (StringForm.ofText t).write t

/-! ### Keys and lines -/

/-- **A key.** It is bare if it can be, else between double quotes, else between single quotes,
else escaped between double quotes. -/
def writeKey (key : Text) : Text :=
  let codes := key.any fun c => isCode c || c == '\n'
  if !key.isEmpty && key.all isBareKeyChar then key
  else if !codes && !key.contains '\\' && !key.contains '"' then StringForm.basic.write key
  else if !codes && !key.contains '\'' then StringForm.verbatim.write key
  else StringForm.basic.write key

/-- A line that gives a key its value. -/
def writeEntry (key written : Text) : Text :=
  writeKey key ++ " = ".toList ++ written ++ ['\n']

/-- A boolean as a value. -/
def writeBoolean (b : Bool) : Text :=
  if b then "true".toList else "false".toList

/-- The lines of a dictionary, in the order of its keys. -/
def writeEntries (d : Dictionary) : Text :=
  d.toList.flatMap fun (key, t) => writeEntry key (writeString t)

/-- The line of a header. -/
def writeHeader (key : Text) : Text :=
  ['['] ++ writeKey key ++ [']', '\n']

end PageShell.Toml
