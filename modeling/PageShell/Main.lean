import PageShell.Screen
import Std.Time.Zoned

/-!
# The command line

The shell runs over lines of the standard input: each line is typed and then
submitted, and the screen is drawn again. A tab inside a line completes, and
the control characters of the keyboard mean what they mean there.

The settings are read from the file that the first argument names, else the
variable `SITETERM_CONFIG`, else from `siteterm.toml`. The variable
`SITETERM_PAGE` is the path of the page to start on.
-/

namespace PageShell.Main

/-- The text of a string. -/
def textOf (s : String) : Text :=
  s.toList

/-- What stands at a path. -/
def readFile (path : Text) : IO FileState := do
  try
    let bytes ← IO.FS.readBinFile (String.ofList path)
    match String.fromUTF8? bytes with
    | some s => pure (.text (textOf s))
    | none => pure (.bytes bytes.toList)
  catch
    | .noFileOrDirectory .. => pure .absent
    | .inappropriateType .. => pure .directory
    | other => throw other

/-- Writes the preferences back if they are in a file. -/
def writePreferences (path : Text) : Preferences → IO Unit
  | .file (.text content) => IO.FS.writeFile (String.ofList path) (String.ofList content)
  | _ => pure ()

/-- The time of the local clock. -/
def readClock : IO ClockAnswer := do
  try
    let now ← Std.Time.DateTime.now
    let elapsed := now.timestamp.val
    pure (.ok ⟨elapsed.second.val, elapsed.nano.val.toNat, now.timezone.offset.second.val⟩)
  catch e => pure (.error (.platform (textOf (toString e))))

/-- The size of the screen under a name in the environment, or a usual one. -/
def screenSize (name : String) (usual : UInt16) : IO UInt16 := do
  let value := (← IO.getEnv name).bind String.toNat?
  pure ((value.map fun n => UInt16.ofNat (min n 65535)).getD usual)

/-- The key of a character in the input. -/
def keyOf (c : Char) : Option Key :=
  if c = '\t' then some .tab
  else if c = '\x1b' then Keyboard.Code.escape.key? false
  else if c.toNat < 0x20 then
    (Keyboard.Code.char (Char.ofNat (c.toNat + 0x60))).key? true
  else some (.char c)

/-- Hands keys to the shell; the answer says whether one of them asks to leave. -/
def pressAll (keys : List Key) (h : Host) : IO (Host × Bool) := do
  let clock ← readClock
  let now ← IO.monoMsNow
  let store ← readFile h.settings.preferencesPath
  let before : Host := { h with store := .file store }
  let typed := keys.takeWhile fun key => !Host.leavesOn key
  let after : Host := typed.foldl (fun h key => h.press now clock key) before
  if after.store ≠ before.store then writePreferences h.settings.preferencesPath after.store
  pure (after, typed.length < keys.length)

/-- Draws the shell, reads a line and hands it over, until there are no more lines or the visitor
leaves. -/
partial def run (width height : UInt16) (h : Host) : IO Unit := do
  let h := h.tick (← IO.monoMsNow) (← readClock)
  let out ← IO.getStdout
  out.putStr (String.ofList (h.screen width height))
  out.flush
  let line ← (← IO.getStdin).getLine
  unless line.isEmpty do
    let typed := (textOf line).dropEnd fun c => c == '\n' || c == '\r'
    let (h, leaves) ← pressAll (typed.filterMap keyOf ++ [.enter]) h
    unless leaves do run width height h

/-- Reads the settings and runs the shell. -/
def start (args : List String) : IO UInt32 := do
  let path := args.head? <|> (← IO.getEnv "SITETERM_CONFIG")
  let path := textOf (path.getD "siteterm.toml")
  match Settings.load (← readFile path) with
  | .error fault =>
    IO.eprintln (String.ofList
      ("Error: loading ".toList ++ path ++ "\n\nCaused by:\n    ".toList ++ fault.message))
    pure 1
  | .ok settings =>
    let width ← screenSize "COLUMNS" 80
    let height ← screenSize "LINES" 24
    let page := Page.ofPath (textOf ((← IO.getEnv "SITETERM_PAGE").getD ""))
    let store := Preferences.file (← readFile settings.preferencesPath)
    let seed := UInt64.ofNat (← IO.monoNanosNow)
    run width height (Host.start settings page width store seed)
    pure 0

end PageShell.Main

/-- Runs the shell with the arguments of the command line. -/
def main (args : List String) : IO UInt32 :=
  PageShell.Main.start args
