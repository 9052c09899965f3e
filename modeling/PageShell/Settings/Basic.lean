import PageShell.Dictionary
import PageShell.Fault
import PageShell.Page
import PageShell.Text.Blank

/-!
# Settings

What the owner of a site can choose. Every setting has a default, so a site
without settings works. The settings of pages say which file a page is served
from; the set of pages itself is fixed.

* `Settings.default` — the settings of a site that chooses nothing;
* `Settings.destination` — the file of a page;
* `Settings.violation?` — the first rule that the settings break.
-/

namespace PageShell

/-- The choices of a site's owner. Times are in milliseconds. -/
structure Settings where
  /-- what stands before the input -/
  prompt : Text
  /-- what stands in place of an empty input -/
  placeholder : Text
  /-- the hint under the prompt -/
  helper : Text
  /-- the files of pages, by the pages' names -/
  pages : Dictionary
  /-- how long a page fades before the next one is loaded -/
  navigationDelay : Nat
  /-- how often the status clock is refreshed -/
  clockInterval : Nat
  /-- how often the rain falls by a row -/
  rainInterval : Nat
  /-- whether the rain is switched off -/
  reducedMotion : Bool
  /-- whether a light theme is preferred where no theme was chosen -/
  prefersLight : Bool
  /-- where the chosen theme is kept -/
  preferencesPath : Text
  /-- where messages about the running program go -/
  logFile : Text
  /-- how many lines of output are kept -/
  maxOutputLines : Nat
  deriving DecidableEq

/-- A rule that settings can break. -/
inductive Violation where
  /-- a file is chosen for a name that no page has -/
  | unknownPage (name : Text)
  /-- the file chosen for a page is blank -/
  | blankDestination (name : Text)
  /-- not a single line of output would be kept -/
  | noOutput
  deriving DecidableEq, Repr

namespace Violation

/-- What is wrong with the settings. -/
def detail : Violation → Text
  | unknownPage name => "unknown page '".toList ++ name ++ "'".toList
  | blankDestination name => "empty destination for '".toList ++ name ++ "'".toList
  | noOutput => "max_output_lines must be > 0".toList

/-- The fault of settings that break a rule. -/
def fault (v : Violation) : Fault :=
  .settings v.detail

end Violation

namespace Settings

/-- The settings of a site that chooses nothing. -/
def default : Settings where
  prompt := "root@site:~$ ".toList
  placeholder := "Type 'help'. Press TAB for autocomplete.".toList
  helper := "[Hint: Type commands or use the navigation menu above]".toList
  pages := Dictionary.ofList (Page.all.map fun p => (p.name, p.defaultFile))
  navigationDelay := 280
  clockInterval := 1000
  rainInterval := 35
  reducedMotion := false
  prefersLight := false
  preferencesPath := "siteterm-prefs.toml".toList
  logFile := "siteterm.log".toList
  maxOutputLines := 500

/-- The file of a page: the chosen one, or the page's own. -/
def destination (s : Settings) (p : Page) : Text :=
  (s.pages.get? p.name).getD p.defaultFile

/-- **The first rule that the settings break.** Names come before destinations, and both are taken
in the order of the names. -/
def violation? (s : Settings) : Option Violation :=
  match s.pages.toList.find? fun (name, _) => (Page.ofName? name).isNone with
  | some (name, _) => some (.unknownPage name)
  | none =>
    match s.pages.toList.find? fun (_, destination) => destination.trim.isEmpty with
    | some (name, _) => some (.blankDestination name)
    | none => if s.maxOutputLines = 0 then some .noOutput else none

end Settings

end PageShell
