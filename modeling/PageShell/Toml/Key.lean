import PageShell.Toml.Quoted

/-!
# Keys

A key names a value in its table. A *dotted* key also names the tables on the
way to it.

* `KeyPath` — a dotted key;
* `simpleKey`, `keyPath` — read a key without dots and one with dots.
-/

namespace PageShell.Toml

/-- A dotted key: the keys of the tables it passes, and the key in the last of them. -/
structure KeyPath where
  /-- the tables on the way, outermost first -/
  tables : List Text
  /-- the key itself -/
  key : Text
  deriving DecidableEq

namespace KeyPath

/-- A key without dots. -/
def single (key : Text) : KeyPath :=
  ⟨[], key⟩

/-- The dotted key of a non-empty list of keys. -/
def ofList? (keys : List Text) : Option KeyPath :=
  keys.getLast?.map (⟨keys.dropLast, ·⟩)

/-- All the keys of a dotted key. -/
def toList (path : KeyPath) : List Text :=
  path.tables ++ [path.key]

end KeyPath

/-- Whether a character may stand in a key without quotes. -/
def isBareKeyChar (c : Char) : Bool :=
  c.isAlphanum || c == '_' || c == '-'

/-- Reads one key, quoted or bare. -/
def simpleKey : Reader Text := fun s =>
  match s with
  | '"' :: _ => singleQuoted s
  | '\'' :: _ => singleQuoted s
  | _ =>
    if (s.takeWhile isBareKeyChar).isEmpty then none
    else some (s.takeWhile isBareKeyChar, s.dropWhile isBareKeyChar)

/-- The number of nested arrays and inline tables, and of keys in a dotted key, from which on a
document is refused. -/
def depthLimit : Nat := 80

/-- Reads a key with the spaces around it. -/
def spacedKey : Reader Text := fun s =>
  (simpleKey (skipSpaces s)).map fun (key, rest) => (key, skipSpaces rest)

/-- Reads a dotted key, with spaces allowed around every part of it. -/
def keyPath : Reader KeyPath := fun s => do
  let (keys, rest) := separated '.' spacedKey s
  guard (keys.length < depthLimit)
  let path ← KeyPath.ofList? keys
  pure (path, rest)

end PageShell.Toml
