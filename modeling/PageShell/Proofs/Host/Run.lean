import PageShell.Host
import PageShell.Proofs.Session.Run
import PageShell.Proofs.Travel

/-!
# Runs of the shell

What happens to the shell is a key, a tick or a new width of the screen, in
any order and for any time. Keys go to the session and the scrollback of the
page that is shown; a tick replaces both when a page change is due, and leaves
both alone otherwise.

* `Host.Event`, `Host.step`, `Host.run` — what can happen, and what becomes of
  the shell;
* `Host.fileDue?` — the file whose page a tick loads, if any;
* `Host.tick_frame` — what a tick leaves alone;
* `Host.Rooted` — the shell and its session agree on the settings;
* `drawn_is_submitted` — **what is drawn is what will be submitted**, in every
  run of the shell and in every run of a session by itself.
-/

namespace PageShell

namespace Host

/-! ## Events -/

/-- **What can happen to the shell.** Keys and ticks happen at a point in time, and come with what
the clock answers, should it be asked. -/
inductive Event where
  /-- a key is pressed -/
  | press (now : Nat) (clock : ClockAnswer) (key : Key)
  /-- whatever came due is done -/
  | tick (now : Nat) (clock : ClockAnswer)
  /-- the screen has another width -/
  | resize (width : UInt16)

/-- The shell after an event. -/
def step (h : Host) : Event → Host
  | .press now clock key => h.press now clock key
  | .tick now clock => h.tick now clock
  | .resize width => h.resize width

/-- The shell after several events. -/
def run (h : Host) (events : List Event) : Host :=
  events.foldl step h

/-- What happens while a line is typed and submitted at a point in time. -/
def typeLine (now : Nat) (clock : ClockAnswer) (line : Text) : List Event :=
  line.map (.press now clock <| .char ·) ++ [.press now clock .enter]

/-- The session that is shown, with its scrollback. -/
def console (h : Host) : Console :=
  ⟨h.session, h.scrollback⟩

/-- The file whose page a tick at a point in time loads, if any. -/
def fileDue? (now : Nat) (h : Host) : Option Text :=
  (h.timer.poll now).1

/-! ## Keys -/

/-- A key is the session's, or changes nothing that the session and the scrollback show. -/
theorem console_press (now : Nat) (clock : ClockAnswer) (key : Key) (h : Host) :
    (h.press now clock key).console = h.console.step (.press clock key) := by
  cases key <;> rfl

/-- The timer gets the requests of the session's turn, at the time of the key. -/
theorem timer_press (now : Nat) (clock : ClockAnswer) (key : Key) (h : Host) :
    (h.press now clock key).timer =
      h.timer.applyAll now (h.session.press clock key).travel := by
  cases key <;> rfl

/-! ## Ticks -/

theorem tickClock_frame (now : Nat) (clock : ClockAnswer) (h : Host) :
    ∃ clockText lastClock,
      h.tickClock now clock = { h with clockText := clockText, lastClock := lastClock } := by
  by_cases hdue : isDue h.lastClock now h.settings.clockInterval = true
  · exact ⟨_, _, if_pos hdue⟩
  · exact ⟨h.clockText, h.lastClock, if_neg hdue⟩

theorem tickRain_frame (now : Nat) (h : Host) :
    ∃ lastRain rain canvas,
      h.tickRain now = { h with lastRain := lastRain, rain := rain, canvas := canvas } := by
  by_cases hdue : isDue h.lastRain now h.settings.rainInterval = true
  · rw [tickRain, if_pos hdue]
    -- only one of the themes has rain
    cases h.theme with
    | hacker => exact ⟨_, _, _, rfl⟩
    | professional => exact ⟨_, _, _, rfl⟩
  · exact ⟨h.lastRain, h.rain, h.canvas, if_neg hdue⟩

/-- **What a tick leaves alone.** After the page change, if there is one, only the status clock
and the rain are looked after. -/
theorem tick_frame (now : Nat) (clock : ClockAnswer) (h : Host) :
    ∃ clockText lastClock lastRain rain canvas, h.tick now clock =
      { h.tickTimer now with
        clockText := clockText
        lastClock := lastClock
        lastRain := lastRain
        rain := rain
        canvas := canvas } := by
  obtain ⟨clockText, lastClock, hclock⟩ := (h.tickTimer now).tickClock_frame now clock
  obtain ⟨lastRain, rain, canvas, hrain⟩ :=
    ((h.tickTimer now).tickClock now clock).tickRain_frame now
  refine ⟨clockText, lastClock, lastRain, rain, canvas, ?_⟩
  rw [tick, hrain, hclock]

theorem tickTimer_of_none {now : Nat} {h : Host} (hf : h.fileDue? now = none) :
    h.tickTimer now = h := by
  rw [tickTimer, Timer.poll_of_none hf]

theorem tickTimer_of_some {now : Nat} {h : Host} {file : Text} (hf : h.fileDue? now = some file) :
    h.tickTimer now = loadPage file { h with timer := .idle } := by
  rw [tickTimer, Timer.poll_of_some hf]

/-- A tick without a page change leaves the console alone. -/
theorem console_tick_of_none {now : Nat} {h : Host} (clock : ClockAnswer)
    (hf : h.fileDue? now = none) : (h.tick now clock).console = h.console := by
  obtain ⟨_, _, _, _, _, heq⟩ := h.tick_frame now clock
  rw [heq, tickTimer_of_none hf]
  rfl

/-- A page change puts a new session and a new scrollback in place of the old ones. -/
theorem console_tick_of_some {now : Nat} {h : Host} {file : Text} (clock : ClockAnswer)
    (hf : h.fileDue? now = some file) :
    (h.tick now clock).console =
      ⟨attach h.settings h.registry (h.pageOfDestination file),
        welcome h.settings h.registry (h.pageOfDestination file)⟩ := by
  obtain ⟨_, _, _, _, _, heq⟩ := h.tick_frame now clock
  rw [heq, tickTimer_of_some hf]
  rfl

theorem timer_tick_of_none {now : Nat} {h : Host} (clock : ClockAnswer)
    (hf : h.fileDue? now = none) : (h.tick now clock).timer = h.timer := by
  obtain ⟨_, _, _, _, _, heq⟩ := h.tick_frame now clock
  rw [heq, tickTimer_of_none hf]

theorem timer_tick_of_some {now : Nat} {h : Host} {file : Text} (clock : ClockAnswer)
    (hf : h.fileDue? now = some file) : (h.tick now clock).timer = .idle := by
  obtain ⟨_, _, _, _, _, heq⟩ := h.tick_frame now clock
  rw [heq, tickTimer_of_some hf]
  rfl

/-! ## Settings -/

theorem place_press (now : Nat) (clock : ClockAnswer) (key : Key) (h : Host) :
    (h.press now clock key).session.place = h.session.place := by
  have hc := congrArg Console.session (console_press now clock key h)
  exact (congrArg Session.place hc).trans (h.session.leads_press clock key).place_eq

/-- The shell and its session agree on the settings. -/
structure Rooted (settings : Settings) (h : Host) : Prop where
  /-- the shell runs by these settings -/
  settings_eq : h.settings = settings
  /-- the shell finds pages by these settings -/
  registry_eq : h.registry = .ofSettings settings
  /-- the session finds files by these settings -/
  place_registry : h.session.place.registry = .ofSettings settings
  /-- the session waits as long as these settings say -/
  place_delay : h.session.place.delay = settings.navigationDelay

theorem rooted_start (settings : Settings) (page : Page) (width : UInt16) (store : Preferences)
    (seed : UInt64) : (start settings page width store seed).Rooted settings :=
  ⟨rfl, rfl, rfl, rfl⟩

/-- Every event keeps the settings. -/
theorem Rooted.step {settings : Settings} {h : Host} (hr : h.Rooted settings) (e : Event) :
    (h.step e).Rooted settings := by
  cases e with
  | press now clock key =>
    have hplace := place_press now clock key h
    refine ⟨?_, ?_, ?_, ?_⟩
    · rw [← hr.settings_eq]
      cases key <;> rfl
    · rw [← hr.registry_eq]
      cases key <;> rfl
    · rw [Host.step, hplace, hr.place_registry]
    · rw [Host.step, hplace, hr.place_delay]
  | tick now clock =>
    obtain ⟨_, _, _, _, _, heq⟩ := h.tick_frame now clock
    rw [Host.step, heq]
    cases hf : h.fileDue? now with
    | none =>
      rw [tickTimer_of_none hf]
      exact ⟨hr.settings_eq, hr.registry_eq, hr.place_registry, hr.place_delay⟩
    | some file =>
      -- the new session is made from what the shell knows itself, not from the old session
      rw [tickTimer_of_some hf]
      exact ⟨hr.settings_eq, hr.registry_eq, hr.registry_eq,
        congrArg Settings.navigationDelay hr.settings_eq⟩
  | resize width => exact ⟨hr.settings_eq, hr.registry_eq, hr.place_registry, hr.place_delay⟩

theorem Rooted.run {settings : Settings} {h : Host} (hr : h.Rooted settings)
    (events : List Event) : (h.run events).Rooted settings := by
  induction events generalizing h with
  | nil => exact hr
  | cons e rest ih => exact ih (hr.step e)

/-! ## What is drawn -/

/-- A page that was just loaded has an empty input on both sides. -/
theorem faithful_attach (settings : Settings) (registry : Registry) (page : Page) :
    (Console.mk (attach settings registry page) (welcome settings registry page)).Faithful :=
  (Console.faithful_start ⟨registry, page, settings.navigationDelay⟩
    settings.maxOutputLines).follow_append _ _

theorem faithful_start (settings : Settings) (page : Page) (width : UInt16) (store : Preferences)
    (seed : UInt64) : (start settings page width store seed).console.Faithful :=
  faithful_attach settings (.ofSettings settings) page

/-- Every event keeps the console faithful. -/
theorem faithful_step {h : Host} (hf : h.console.Faithful) (e : Event) :
    (h.step e).console.Faithful := by
  cases e with
  | press now clock key =>
    rw [step, console_press]
    exact hf.step _
  | tick now clock =>
    cases hdue : h.fileDue? now with
    | none =>
      rw [step, console_tick_of_none clock hdue]
      exact hf
    | some file =>
      rw [step, console_tick_of_some clock hdue]
      exact faithful_attach _ _ _
  | resize width => exact hf

theorem faithful_run {h : Host} (hf : h.console.Faithful) (events : List Event) :
    (h.run events).console.Faithful := by
  induction events generalizing h with
  | nil => exact hf
  | cons e rest ih => exact ih (faithful_step hf e)

/-- Only a tick that loads a page changes the page. -/
theorem exists_fileDue_of_page_ne {h : Host} {e : Event} (hne : (h.step e).page ≠ h.page) :
    ∃ now clock file, e = .tick now clock ∧ h.fileDue? now = some file := by
  cases e with
  | press now clock key =>
    exact absurd (congrArg Place.page (place_press now clock key h)) hne
  | tick now clock =>
    cases hdue : h.fileDue? now with
    | none =>
      have hc := congrArg Console.session (console_tick_of_none clock hdue)
      exact absurd (congrArg Session.page hc) hne
    | some file => exact ⟨now, clock, file, rfl, hdue⟩
  | resize width => exact absurd rfl hne

end Host

/-- **What is drawn is what will be submitted.** After any run of the shell, and after any run of a
session by itself, the input line and the caret that are drawn are the session's; the caret is in
the line; the session waits for keys; and the history is sound: short enough, with a cursor inside
it, and of lines that are neither blank nor untrimmed. Only a tick that loads a page changes the
page of the shell, and nothing changes the page of a session. -/
theorem drawn_is_submitted :
    (∀ (settings : Settings) (page : Page) (width : UInt16) (store : Preferences) (seed : UInt64)
        (events : List Host.Event),
      ((Host.start settings page width store seed).run events).console.Faithful ∧
      ∀ e, (((Host.start settings page width store seed).run events).step e).page ≠
          ((Host.start settings page width store seed).run events).page →
        ∃ now clock file, e = .tick now clock ∧
          ((Host.start settings page width store seed).run events).fileDue? now = some file) ∧
    (∀ (place : Place) (maxLines : Nat) (events : List Session.Event),
      ((Console.start place maxLines).run events).Faithful ∧
      ((Console.start place maxLines).run events).session.page = place.page) := by
  refine ⟨fun settings page width store seed events => ⟨?_, ?_⟩,
    fun place maxLines events => ⟨?_, ?_⟩⟩
  · exact Host.faithful_run (Host.faithful_start settings page width store seed) events
  · intro e
    exact Host.exists_fileDue_of_page_ne
  · exact Console.faithful_run place maxLines events
  · exact congrArg Place.page (Console.place_run (Console.start place maxLines) events)

end PageShell
