import PageShell.Rain.Canvas
import PageShell.Session.Basic
import PageShell.Theme

/-!
# The running shell

The host holds the session of the page that is shown, and everything that
outlives it: the theme, the timer of page changes, the rain. It hands keys to
the session and the session's requests to the scrollback and the timer.

* `Host.start` — the shell on the page it was started on;
* `Host.press` — the shell after a key;
* `Host.tick` — the shell after whatever came due;
* `Host.loadPage` — the shell on another page.

Points in time are numbers of milliseconds from any fixed start.
-/

namespace PageShell

/-- The number of rows that the rain falls through. -/
def rainRows : Nat := 6

/-- **The running shell.** -/
structure Host where
  /-- the owner's choices -/
  settings : Settings
  /-- the files of the pages -/
  registry : Registry
  /-- the session of the page that is shown -/
  session : Session
  /-- its output and its input line -/
  scrollback : Scrollback
  /-- the page changes under way -/
  timer : Timer
  /-- the look of the shell -/
  theme : Theme
  /-- the visitor's preferences -/
  store : Preferences
  /-- the rain -/
  rain : Rain
  /-- the picture of the rain -/
  canvas : Canvas
  /-- what the status clock shows -/
  clockText : Text
  /-- when the status clock was last refreshed -/
  lastClock : Option Nat
  /-- when the rain last fell -/
  lastRain : Option Nat

namespace Host

/-- The session of a page that was just loaded. -/
def attach (settings : Settings) (registry : Registry) (page : Page) : Session :=
  .start ⟨registry, page, settings.navigationDelay⟩

/-- The scrollback of a page that was just loaded: it says where the visitor is. -/
def welcome (settings : Settings) (registry : Registry) (page : Page) : Scrollback :=
  (Scrollback.empty settings.maxOutputLines).apply
    (.append ["[ /".toList ++ page.name ++ " ] ".toList ++ registry.destination page] .normal)

/-- **The shell on the page it is started on**, for a screen of some width, with the preferences in
`store` and the rain from `seed`. -/
def start (settings : Settings) (page : Page) (width : UInt16) (store : Preferences)
    (seed : UInt64) : Host :=
  let registry := Registry.ofSettings settings
  { settings := settings
    registry := registry
    session := attach settings registry page
    scrollback := welcome settings registry page
    timer := .idle
    theme := .load store settings.prefersLight
    store := store
    rain := (Rain.start width.toNat rainRows seed).enable (!settings.reducedMotion)
    canvas := .blank width.toNat rainRows
    clockText := []
    lastClock := none
    lastRain := none }

/-- The page that is shown. -/
def page (h : Host) : Page :=
  h.session.page

/-- The shell after a turn of its session. -/
def follow (now : Nat) (turn : Turn) (h : Host) : Host :=
  { h with
    session := turn.session
    scrollback := h.scrollback.applyAll turn.display
    timer := h.timer.applyAll now turn.travel }

/-- **The shell after a key** that was pressed at a point in time. The theme key is the shell's own,
and the key for leaving changes nothing. -/
def press (now : Nat) (clock : ClockAnswer) (key : Key) (h : Host) : Host :=
  match key with
  | .quit => h
  | .toggleTheme =>
    let (theme, store) := h.theme.toggle h.store
    { h with theme := theme, store := store }
  | key => h.follow now (h.session.press clock key)

/-- Whether a key asks to leave the shell. -/
def leavesOn (key : Key) : Bool :=
  key == .quit

/-- The page of a file: the page that is served from it, else the one its name speaks of. -/
def pageOfDestination (h : Host) (destination : Text) : Page :=
  (h.registry.pageOf? destination).getD (Page.ofPath destination)

/-- The shell on the page of a file, with a new session and a new scrollback. -/
def loadPage (destination : Text) (h : Host) : Host :=
  let page := h.pageOfDestination destination
  { h with
    session := attach h.settings h.registry page
    scrollback := welcome h.settings h.registry page }

/-- Whether something that happens at intervals is due: it never happened, or long enough ago. -/
def isDue (last : Option Nat) (now interval : Nat) : Bool :=
  match last with
  | none => true
  | some t => interval ≤ now - t

/-- Changes the page, if a change is due. -/
def tickTimer (now : Nat) (h : Host) : Host :=
  match h.timer.poll now with
  | (some destination, timer) => loadPage destination { h with timer := timer }
  | (none, timer) => { h with timer := timer }

/-- Refreshes the status clock, if that is due. -/
def tickClock (now : Nat) (clock : ClockAnswer) (h : Host) : Host :=
  if isDue h.lastClock now h.settings.clockInterval then
    { h with
      lastClock := some now
      clockText := match clock with
        | .ok reading => reading.stamp
        | .error _ => [] }
  else h

/-- Lets the rain fall by a row, if that is due and the theme has rain. -/
def tickRain (now : Nat) (h : Host) : Host :=
  if isDue h.lastRain now h.settings.rainInterval then
    match h.theme with
    | .hacker =>
      let (cells, rain) := h.rain.tick
      { h with lastRain := some now, rain := rain, canvas := h.canvas.paint cells }
    | .professional => { h with lastRain := some now }
  else h

/-- **The shell after whatever came due** up to a point in time: first a page change, then the
status clock, then the rain. -/
def tick (now : Nat) (clock : ClockAnswer) (h : Host) : Host :=
  ((h.tickTimer now).tickClock now clock).tickRain now

/-- The shell on a screen of another width: the rain starts again. -/
def resize (width : UInt16) (h : Host) : Host :=
  { h with
    rain := h.rain.resize width.toNat rainRows
    canvas := .blank width.toNat rainRows }

end Host

end PageShell
