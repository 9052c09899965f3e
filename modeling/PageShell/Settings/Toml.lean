import PageShell.FileState
import PageShell.Settings.Basic
import PageShell.Toml.Document
import PageShell.Toml.Writer

/-!
# Settings as a document

Settings are kept as a TOML document with a key for each of them. Keys that
mean nothing are passed over.

* `Settings.ofToml` — the settings of a text: read, typed and checked;
* `Settings.toToml` — the text of settings;
* `Settings.load` — the settings of a file, defaults where there is none.
-/

namespace PageShell

/-! ### Typed entries -/

namespace Toml.Table

/-- The string under a key, or a default where the key is missing. -/
def text? (t : Table) (key : String) (default : Text) : Option Text :=
  match t.get? key.toList with
  | none => some default
  | some (.text content) => some content
  | some _ => none

/-- The natural number under a key, or a default where the key is missing. -/
def natural? (t : Table) (key : String) (default : Nat) : Option Nat :=
  match t.get? key.toList with
  | none => some default
  | some (.integer n) => if 0 ≤ n then some n.toNat else none
  | some _ => none

/-- The boolean under a key, or a default where the key is missing. -/
def boolean? (t : Table) (key : String) (default : Bool) : Option Bool :=
  match t.get? key.toList with
  | none => some default
  | some (.boolean b) => some b
  | some _ => none

/-- The dictionary of a table, if all its values are strings. -/
def dictionary? (t : Table) : Option Dictionary :=
  (t.mapM fun entry : Text × Node => entry.2.text?.map (entry.1, ·)).map Dictionary.ofList

/-- The one key of a moment, when a moment stands where a table is expected. -/
def momentKey : Text :=
  "$__toml_private_datetime".toList

/-- The dictionary under a key, or a default where the key is missing. A moment counts as a
dictionary with a key of its own. -/
def dictionaryAt? (t : Table) (key : String) (default : Dictionary) : Option Dictionary :=
  match t.get? key.toList with
  | none => some default
  | some (.inline entries) => dictionary? entries
  | some (.table _ entries) => dictionary? entries
  | some .moment => some (Dictionary.empty.insert momentKey [])
  | some _ => none

end Toml.Table

namespace Settings

open Toml (writeEntry writeString writeBoolean writeHeader writeEntries)

/-- The settings of a table, if every setting in it has the right type. -/
def ofTable? (t : Toml.Table) : Option Settings := do
  pure {
    prompt := ← t.text? "prompt" default.prompt
    placeholder := ← t.text? "placeholder" default.placeholder
    helper := ← t.text? "helper_text" default.helper
    pages := ← t.dictionaryAt? "pages" default.pages
    navigationDelay := ← t.natural? "navigation_delay_ms" default.navigationDelay
    clockInterval := ← t.natural? "clock_interval_ms" default.clockInterval
    rainInterval := ← t.natural? "rain_interval_ms" default.rainInterval
    reducedMotion := ← t.boolean? "reduced_motion" default.reducedMotion
    prefersLight := ← t.boolean? "prefers_light" default.prefersLight
    preferencesPath := ← t.text? "preferences_path" default.preferencesPath
    logFile := ← t.text? "log_file" default.logFile
    maxOutputLines := ← t.natural? "max_output_lines" default.maxOutputLines }

/-- **The settings of a text.** It has to be a document, its entries have to have the right types,
and the settings must not break a rule. -/
def ofToml (s : Text) : Except Fault Settings :=
  match (Toml.document? s).bind ofTable? with
  | none => .error .unreadable
  | some settings =>
    match settings.violation? with
    | some v => .error v.fault
    | none => .ok settings

/-- The settings of a file. Without a file the defaults hold. -/
def load (file : FileState) : Except Fault Settings := do
  match ← file.read with
  | none => pure default
  | some content => ofToml content

/-- Whether a number can be written: it has to fit into 64 bits with a sign. -/
def isWritable (n : Nat) : Bool :=
  n < 0x8000000000000000

/-- The lines of all settings but the pages. -/
def writeScalars (s : Settings) : Text :=
  writeEntry "prompt".toList (writeString s.prompt) ++
  writeEntry "placeholder".toList (writeString s.placeholder) ++
  writeEntry "helper_text".toList (writeString s.helper) ++
  writeEntry "navigation_delay_ms".toList (Text.ofNat s.navigationDelay) ++
  writeEntry "clock_interval_ms".toList (Text.ofNat s.clockInterval) ++
  writeEntry "rain_interval_ms".toList (Text.ofNat s.rainInterval) ++
  writeEntry "reduced_motion".toList (writeBoolean s.reducedMotion) ++
  writeEntry "prefers_light".toList (writeBoolean s.prefersLight) ++
  writeEntry "preferences_path".toList (writeString s.preferencesPath) ++
  writeEntry "log_file".toList (writeString s.logFile) ++
  writeEntry "max_output_lines".toList (Text.ofNat s.maxOutputLines)

/-- **The text of settings**: a line for each of them, and the pages under a header. Numbers that
no document can hold have no text. -/
def toToml (s : Settings) : Except Fault Text :=
  if [s.navigationDelay, s.clockInterval, s.rainInterval, s.maxOutputLines].all isWritable then
    .ok (writeScalars s ++ ['\n'] ++ writeHeader "pages".toList ++ writeEntries s.pages)
  else .error .unwritable

end Settings

end PageShell
