import PageShell.Text.Basic

/-!
# Faults

What can go wrong outside the prompt: in the settings, on the platform, in the
storage of preferences. Mistakes at the prompt are no faults; the session
answers them with a line of output.

* `Fault.message` — the text that reports a fault.
-/

namespace PageShell

/-- A failure of the settings, the platform or the storage. -/
inductive Fault where
  /-- the settings break a rule -/
  | settings (detail : Text)
  /-- the platform cannot answer -/
  | platform (detail : Text)
  /-- the preferences cannot be reached -/
  | storage (detail : Text)
  /-- a file cannot be read or written -/
  | file (detail : Text)
  /-- a text is not the TOML that was expected -/
  | unreadable
  /-- a value has no TOML form -/
  | unwritable
  deriving DecidableEq, Repr

namespace Fault

/-- The text that reports a fault. -/
def message : Fault → Text
  | settings detail => "config error: ".toList ++ detail
  | platform detail => "platform error: ".toList ++ detail
  | storage detail => "storage error: ".toList ++ detail
  | file detail => "I/O error: ".toList ++ detail
  | unreadable => "TOML parse error".toList
  | unwritable => "TOML serialize error".toList

/-- A file holds bytes that are not UTF-8. -/
def notUtf8 : Fault :=
  file "stream did not contain valid UTF-8".toList

/-- A directory stands where a file is to be written. -/
def isDirectory : Fault :=
  file "Is a directory (os error 21)".toList

/-- The store refuses every access. -/
def storeUnavailable : Fault :=
  storage "storage unavailable".toList

end Fault

end PageShell
