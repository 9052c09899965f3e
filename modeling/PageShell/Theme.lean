import PageShell.Preferences

/-!
# Themes

The shell is dark, with rain, or light, without. The button that switches
between the two remembers the choice among the preferences, as well as it can.

* `Theme.initial` — the theme to start with;
* `Theme.load`, `Theme.toggle` — restore the choice, and make a new one.
-/

namespace PageShell

/-- The look of the shell. -/
inductive Theme where
  /-- dark, green on black, with rain -/
  | hacker
  /-- light and plain -/
  | professional
  deriving DecidableEq, Repr

namespace Theme

/-- The name of a theme, as kept among the preferences. -/
def name : Theme → Text
  | hacker => "hacker".toList
  | professional => "professional".toList

/-- The other theme. -/
def toggled : Theme → Theme
  | hacker => professional
  | professional => hacker

/-- The key of the theme among the preferences. -/
def key : Text :=
  "theme".toList

/-- A second name of the light theme, which is read but never written. -/
def lightName : Text :=
  "light".toList

/-- **The theme to start with.** A stored name decides if it names a theme; otherwise the visitor's
liking for light does. -/
def initial (stored : Option Text) (prefersLight : Bool) : Theme :=
  if stored = some professional.name ∨ stored = some lightName then professional
  else if stored = some hacker.name then hacker
  else if prefersLight then professional
  else hacker

/-- The theme that the preferences ask for. Preferences out of reach ask for none. -/
def load (store : Preferences) (prefersLight : Bool) : Theme :=
  initial ((store.get key).toOption.join) prefersLight

/-- The other theme, and the preferences with that choice in them, if they can take it. -/
def toggle (theme : Theme) (store : Preferences) : Theme × Preferences :=
  (theme.toggled, (store.set key theme.toggled.name).2)

/-! ### The button -/

/-- The caption of the button: the look that a click leads to. -/
def buttonLabel : Theme → Text
  | professional => "Dark Mode".toList
  | hacker => "Light Mode".toList

/-- What the button does, in words. -/
def buttonHint : Theme → Text
  | professional => "Switch to dark mode".toList
  | hacker => "Switch to light mode".toList

/-- Whether the button is shown as pressed. -/
def isPressed (theme : Theme) : Bool :=
  theme == professional

end Theme

end PageShell
