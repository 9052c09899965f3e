import PageShell.Toml.Key
import PageShell.Toml.Moment
import PageShell.Toml.Table

/-!
# Documents

A document is a sequence of lines. A line is empty, gives a key its value, or
is a header that says where the following keys belong.

* `value` — reads a value; the depth of nesting is limited;
* `Statement`, `line` — what one line says;
* `Builder` — the table built so far, and the header in force;
* `document?` — the table of a text, if it is a document.
-/

namespace PageShell.Toml

/-! ### Values -/

/-- Reads a value written as one token: a boolean, a number or a moment. A space may stand
between a date and a time of day. -/
def tokenValue : Reader Node := fun s =>
  let token := s.takeWhile isTokenChar
  let rest := s.dropWhile isTokenChar
  if token = "true".toList then some (.boolean true, rest)
  else if token = "false".toList then some (.boolean false, rest)
  else
    match integer? token with
    | some n => some (.integer n, rest)
    | none =>
      if isFloat token then some (.float, rest)
      else if isDate token then
        let time := (rest.drop 1).takeWhile isTokenChar
        if rest.head? = some ' ' ∧ isDatedTime time then
          some (.moment, (rest.drop 1).dropWhile isTokenChar)
        else some (.moment, rest)
      else if isMoment token then some (.moment, rest)
      else none

/-- Reads an array after its opening bracket. The last item may have a comma after it. -/
def array (item : Reader Node) : Reader Node := fun s => do
  let (items, rest) := separated ',' spacedItem s
  let rest := if items.isEmpty then rest else (literal [','] rest).getD rest
  pure (.array items, ← literal [']'] (skipGaps rest))
where
  /-- reads an item with the white space around it -/
  spacedItem : Reader Node := fun s => (item (skipGaps s)).map fun (v, rest) => (v, skipGaps rest)

/-- Reads a key, an equals sign and a value. -/
def keyValue (item : Reader Node) : Reader (KeyPath × Node) := fun s => do
  let (path, rest) ← keyPath s
  let (v, rest) ← item (skipSpaces (← literal ['='] rest))
  pure ((path, v), skipSpaces rest)

/-- Reads an inline table after its opening brace. -/
def inlineTable (item : Reader Node) : Reader Node := fun s => do
  let (pairs, rest) := separated ',' (keyValue item) s
  let rest ← literal ['\x7d'] (skipSpaces rest)
  let entries ← pairs.foldlM (fun t (path, v) => Table.insertDotted path.key v path.tables t) []
  pure (.inline entries, rest)

/-- **Reads a value** with at most `depth` arrays and inline tables around one another. -/
def value : Nat → Reader Node
  | 0 => fun s => (quoted s).map (fun (t, rest) => (.text t, rest)) <|> tokenValue s
  | depth + 1 => fun s =>
    match s with
    | '[' :: rest => array (value depth) rest
    | '\x7b' :: rest => inlineTable (value depth) rest
    | _ => (quoted s).map (fun (t, rest) => (.text t, rest)) <|> tokenValue s

/-! ### Lines -/

/-- What a line says. -/
inductive Statement where
  /-- nothing -/
  | nothing
  /-- the following keys belong to this table -/
  | header (path : KeyPath)
  /-- the following keys belong to a new element of this repeated table -/
  | element (path : KeyPath)
  /-- this key has this value -/
  | entry (path : KeyPath) (value : Node)

/-- Reads a header between its brackets, single or double. -/
def header : Reader Statement
  | '[' :: '[' :: rest => do
    let (path, rest) ← keyPath rest
    pure (.element path, ← literal [']', ']'] rest)
  | '[' :: rest => do
    let (path, rest) ← keyPath rest
    pure (.header path, ← literal [']'] rest)
  | _ => none

/-- Reads what a line says, up to a comment or the end of the line. -/
def statement : Reader Statement := fun s =>
  match s with
  | '[' :: _ => header s
  | c :: _ =>
    if c == '#' || c == '\n' || c == '\r' then some (.nothing, s)
    else (keyValue (value (depthLimit - 1)) s).map fun ((path, v), rest) => (.entry path v, rest)
  | [] => some (.nothing, s)

/-- Reads a line with its end; nothing is left to read at the end of the text. -/
def line : Reader Statement := fun s => do
  guard (s ≠ [])
  let (said, rest) ← statement (skipSpaces s)
  pure (said, ← lineEnd rest)

/-! ### Building the table -/

/-- **The state of building**: the table so far, and the keys of the header in force. -/
structure Builder where
  /-- everything said so far -/
  root : Table
  /-- the keys of the table that the next entries belong to -/
  current : List Text

namespace Builder

/-- The state before the first line. -/
def start : Builder :=
  ⟨[], []⟩

/-- The state after one more line, unless the line contradicts an earlier one. -/
def add (b : Builder) : Statement → Option Builder
  | .nothing => some b
  | .header path =>
    (Table.under (Table.openTable path.key) path.tables b.root).map (⟨·, path.toList⟩)
  | .element path =>
    (Table.under (Table.pushElement path.key) path.tables b.root).map (⟨·, path.toList⟩)
  | .entry path v =>
    (Table.under (Table.insertDotted path.key v path.tables) b.current b.root).map (⟨·, b.current⟩)

end Builder

/-- The text without a byte order mark at its front. -/
def skipMark : Text → Text
  | '\uFEFF' :: rest => rest
  | s => s

/-- The lines of a text, if all of it can be read. -/
def statements? (s : Text) : Option (List Statement) :=
  match many line (skipMark s) with
  | (lines, []) => some lines
  | _ => none

/-- **The table of a document**, unless the text is no document or its lines contradict each
other. -/
def document? (s : Text) : Option Table := do
  let b ← (← statements? s).foldlM Builder.add Builder.start
  pure b.root

end PageShell.Toml
