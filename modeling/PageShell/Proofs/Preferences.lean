import PageShell.Preferences
import PageShell.Proofs.Toml.Documents

/-!
# Preferences in a file are a map

A file is read as a whole before every access and written as a whole by every
setting. Still its answers are those of a store in memory, from one access to
the next, whatever the keys and values are.

* `Operation`, `Preferences.perform`, `Preferences.performAll` — accesses to a
  store, and what they answer;
* `FileState.Holds` — the pairs that a path holds;
* `FileState.Holds.perform` — one access answers like memory, and the file
  holds what memory holds then;
* `Preferences.performAll_file` — **so does every sequence of accesses**, and
  after it a setting changes one key for every store at that path.
-/

namespace PageShell

/-- An access to preferences. -/
inductive Operation where
  /-- look up a key -/
  | get (key : Text)
  /-- set the value of a key -/
  | set (key value : Text)
  deriving DecidableEq, Repr

/-- What an access answers. -/
inductive Answer where
  /-- to a look-up: the value, if there is one -/
  | got (value : Except Fault (Option Text))
  /-- to a setting: whether it went well -/
  | done (result : Except Fault Unit)

namespace Preferences

/-- The answer to an access, and the store after it. -/
def perform (store : Preferences) : Operation → Answer × Preferences
  | .get key => (.got (store.get key), store)
  | .set key value => (.done (store.set key value).1, (store.set key value).2)

/-- The answers to accesses one after another, and the store after them. -/
def performAll (store : Preferences) : List Operation → List Answer × Preferences
  | [] => ([], store)
  | operation :: later =>
    let (answer, store') := store.perform operation
    let (answers, store'') := store'.performAll later
    (answer :: answers, store'')

end Preferences

/-- **The pairs that a path holds**: none if nothing is there, and those of a file that can be
read. -/
inductive FileState.Holds : FileState → Dictionary → Prop where
  /-- nothing is there -/
  | absent : Holds .absent .empty
  /-- a file is there, and its text is a flat table of strings -/
  | text {content : Text} {d : Dictionary} (read : Preferences.ofToml content = .ok d) :
    Holds (.text content) d

namespace Preferences

theorem ofToml_writeEntries (d : Dictionary) : ofToml (Toml.writeEntries d) = .ok d := by
  rw [ofToml, Toml.dictionary?_writeEntries]

end Preferences

namespace FileState.Holds

open Preferences

variable {state : FileState} {d : Dictionary}

theorem values_eq (h : state.Holds d) : (file state).values = .ok d := by
  cases h with
  | absent => rfl
  | text read => exact read

/-- A look-up finds what the path holds. -/
theorem get_eq (h : state.Holds d) (key : Text) : (file state).get key = .ok (d.get? key) := by
  rw [Preferences.get, h.values_eq]
  rfl

theorem written (d : Dictionary) : FileState.Holds (.text (Toml.writeEntries d)) d :=
  .text (ofToml_writeEntries d)

/-- A setting writes the pairs with the one pair set. -/
theorem set_eq (h : state.Holds d) (key value : Text) :
    (file state).set key value =
      (.ok (), file (.text (Toml.writeEntries (d.insert key value)))) := by
  have hreplace : (file state).replace (d.insert key value) =
      .ok (file (.text (Toml.writeEntries (d.insert key value)))) := by
    cases h with
    | absent => rfl
    | text read => rfl
  have hset : ((file state).values.bind fun d => (file state).replace (d.insert key value)) =
      .ok (file (.text (Toml.writeEntries (d.insert key value)))) := by
    rw [h.values_eq]
    exact hreplace
  rw [Preferences.set, hset]

/-- **One access answers like memory**, and the path holds what memory holds then. -/
theorem perform (h : state.Holds d) (operation : Operation) :
    ∃ answer state' d', (file state).perform operation = (answer, file state') ∧
      (memory d).perform operation = (answer, memory d') ∧ state'.Holds d' := by
  cases operation with
  | get key =>
    refine ⟨.got (.ok (d.get? key)), state, d, ?_, rfl, h⟩
    rw [Preferences.perform, h.get_eq]
  | set key value =>
    refine ⟨.done (.ok ()), _, d.insert key value, ?_, rfl, written (d.insert key value)⟩
    rw [Preferences.perform, h.set_eq]

/-- **So does every sequence of accesses.** -/
theorem performAll (h : state.Holds d) (operations : List Operation) :
    ∃ answers state' d', (file state).performAll operations = (answers, file state') ∧
      (memory d).performAll operations = (answers, memory d') ∧ state'.Holds d' := by
  induction operations generalizing state d with
  | nil => exact ⟨[], state, d, rfl, rfl, h⟩
  | cons operation later ih =>
    obtain ⟨answer, state₁, d₁, hfile, hmemory, hholds⟩ := h.perform operation
    obtain ⟨answers, state₂, d₂, hfile', hmemory', hholds'⟩ := ih hholds
    refine ⟨answer :: answers, state₂, d₂, ?_, ?_, hholds'⟩
    · rw [Preferences.performAll, hfile]
      dsimp only
      rw [hfile']
    · rw [Preferences.performAll, hmemory]
      dsimp only
      rw [hmemory']

/-- A setting changes one key, for every store at the path. -/
theorem get_set (h : state.Holds d) (key value : Text) :
    ∃ state', (file state).set key value = (.ok (), file state') ∧
      ∀ key', (file state').get key' =
        if key' = key then .ok (some value) else (file state).get key' := by
  refine ⟨_, h.set_eq key value, fun key' => ?_⟩
  rw [(written (d.insert key value)).get_eq, h.get_eq, Dictionary.get?_insert]
  split
  · rfl
  · rfl

end FileState.Holds

namespace Preferences

/-- **Preferences in a file answer like preferences in memory**, if the file holds what memory
holds at first: nothing, where there is no file. After all accesses, setting a key changes what is
found under that key and nothing else, for every store at that path. -/
theorem performAll_file {state : FileState} {d : Dictionary} (h : state.Holds d)
    (operations : List Operation) :
    ((file state).performAll operations).1 = ((memory d).performAll operations).1 ∧
      ∃ state', ((file state).performAll operations).2 = file state' ∧
        ∀ key value, ∃ state'', (file state').set key value = (.ok (), file state'') ∧
          ∀ key', (file state'').get key' =
            if key' = key then .ok (some value) else (file state').get key' := by
  obtain ⟨answers, state', d', hfile, hmemory, hholds⟩ := h.performAll operations
  rw [hfile, hmemory]
  exact ⟨rfl, state', rfl, hholds.get_set⟩

/-- Two settings and three look-ups without a file, with an empty key, quotes of both kinds, a
backslash and a line end. -/
theorem performAll_file_absent :
    FileState.Holds .absent .empty ∧
      ((file .absent).performAll
        [.get [], .set [] "'''\"\"\"".toList, .set "\n".toList "\\".toList, .get [],
          .get "\n".toList]).1 =
        [.got (.ok none), .done (.ok ()), .done (.ok ()), .got (.ok (some "'''\"\"\"".toList)),
          .got (.ok (some "\\".toList))] :=
  ⟨.absent, (performAll_file .absent _).1.trans rfl⟩

end Preferences

end PageShell
