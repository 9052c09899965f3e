import PageShell.Settings.Toml

/-!
# Preferences

A visitor's preferences are pairs of texts. They live in memory or in a file,
or they are out of reach.

* `Preferences.get`, `Preferences.set` — look up and replace;
* a file holds a flat table of strings and is written anew as a whole;
* an access that fails leaves the preferences as they were.
-/

namespace PageShell

/-- A store of preferences. -/
inductive Preferences where
  /-- kept in memory -/
  | memory (values : Dictionary)
  /-- out of reach -/
  | unavailable
  /-- kept in a file -/
  | file (state : FileState)
  deriving DecidableEq

namespace Preferences

/-- The pairs in the text of a file: a document whose values are all strings. -/
def ofToml (s : Text) : Except Fault Dictionary :=
  match (Toml.document? s).bind Toml.Table.dictionary? with
  | none => .error .unreadable
  | some d => .ok d

/-- The pairs in a file; there are none where no file stands. -/
def ofFile (state : FileState) : Except Fault Dictionary := do
  match ← state.read with
  | none => pure .empty
  | some content => ofToml content

/-- All the pairs of the store. -/
def values : Preferences → Except Fault Dictionary
  | memory d => .ok d
  | unavailable => .error .storeUnavailable
  | file state => ofFile state

/-- The value of a key. -/
def get (store : Preferences) (key : Text) : Except Fault (Option Text) :=
  store.values.map (·.get? key)

/-- The store that holds these pairs in place of the old ones. -/
def replace (store : Preferences) (d : Dictionary) : Except Fault Preferences :=
  match store with
  | memory _ => .ok (.memory d)
  | unavailable => .error .storeUnavailable
  | file state => (state.write (Toml.writeEntries d)).map .file

/-- **Sets the value of a key**, and says whether that went well. If it did not, the store is what
it was. -/
def set (store : Preferences) (key value : Text) : Except Fault Unit × Preferences :=
  match store.values.bind fun d => store.replace (d.insert key value) with
  | .ok store' => (.ok (), store')
  | .error fault => (.error fault, store)

end Preferences

end PageShell
