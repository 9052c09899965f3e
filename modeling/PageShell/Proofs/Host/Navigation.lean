import PageShell.Proofs.Host.Run

/-!
# Page changes over whole runs

A submission may ask for a page change while others are under way. The delay
is the same for all of them and time does not run backwards, so the first one
that was asked for on a page is the first one that comes due, and it takes all
the others with it.

* `Trip`, `Host.trips` — the page changes that a run asked for since the last
  page was loaded, told by the outcomes of its submissions;
* `Host.Underway` — **the invariant**: the timer holds exactly these trips;
* `Host.navigation_of_run` — which tick loads a page, which page that is, and
  what is left afterwards.
-/

namespace PageShell

/-- A page change that a submission asked for. -/
structure Trip where
  /-- when the line was submitted -/
  time : Nat
  /-- the page to go to -/
  page : Page
  deriving DecidableEq

/-- The departure of a trip: it is due when the delay of the settings is over. -/
def Trip.departure (settings : Settings) (t : Trip) : Departure :=
  ⟨t.time + settings.navigationDelay, settings.destination t.page⟩

namespace Host

/-! ## Trips -/

/-- When an event happens; a new width of the screen has no time. -/
def Event.time? : Event → Option Nat
  | .press now _ _ => some now
  | .tick now _ => some now
  | .resize _ => none

/-- Time does not run backwards. -/
def Event.InOrder (events : List Event) : Prop :=
  (events.filterMap time?).Pairwise (· ≤ ·)

/-- The trips that are under way after an event: a submission may add one, and a page that is
loaded ends them all. -/
def note (h : Host) (trips : List Trip) : Event → List Trip
  | .press now clock key =>
    match (h.session.press clock key).outcome with
    | some (.navigating p) => trips ++ [⟨now, p⟩]
    | _ => trips
  | .tick now _ => if (h.fileDue? now).isSome then [] else trips
  | .resize _ => trips

/-- The trips that are under way after several events. -/
def noteAll (trips : List Trip) (h : Host) : List Event → List Trip
  | [] => trips
  | e :: rest => noteAll (h.note trips e) (h.step e) rest

/-- **The trips that a run asked for** since the last page was loaded, oldest first. -/
def trips (h : Host) (events : List Event) : List Trip :=
  noteAll [] h events

theorem noteAll_append (trips : List Trip) (h : Host) (first rest : List Event) :
    noteAll trips h (first ++ rest) = noteAll (noteAll trips h first) (h.run first) rest := by
  induction first generalizing trips h with
  | nil => rfl
  | cons e first ih => exact ih (h.note trips e) (h.step e)

/-- After a page was loaded, only what is asked for from then on counts. -/
theorem trips_append_tick {h : Host} {events : List Event} {now : Nat} (clock : ClockAnswer)
    {file : Text} (hf : (h.run events).fileDue? now = some file) (later : List Event) :
    h.trips (events ++ .tick now clock :: later) = ((h.run events).tick now clock).trips later := by
  rw [trips, noteAll_append, noteAll, note, hf]
  rfl

/-- The times of the trips are times of submissions, in order. -/
theorem time_note_sublist (h : Host) (trips : List Trip) (e : Event) :
    ((h.note trips e).map Trip.time).Sublist (trips.map Trip.time ++ e.time?.toList) := by
  cases e with
  | press now clock key =>
    rw [note]
    split
    · rw [List.map_append]
      exact List.Sublist.refl _
    · exact List.sublist_append_left _ _
  | tick now clock =>
    rw [note]
    split
    · exact List.nil_sublist _
    · exact List.sublist_append_left _ _
  | resize width => exact List.sublist_append_left _ _

theorem time_noteAll_sublist (trips : List Trip) (h : Host) (events : List Event) :
    ((noteAll trips h events).map Trip.time).Sublist
      (trips.map Trip.time ++ events.filterMap Event.time?) := by
  -- the trips so far are carried along, as the first event may add to them
  induction events generalizing trips h with
  | nil => simp [noteAll]
  | cons e rest ih =>
    have hfilter : (e :: rest).filterMap Event.time? =
        e.time?.toList ++ rest.filterMap Event.time? := by
      rw [List.filterMap_cons]
      cases e.time? <;> rfl
    rw [noteAll, hfilter, ← List.append_assoc]
    exact (ih _ _).trans ((h.time_note_sublist trips e).append_right _)

/-- When time does not run backwards, later trips have later times. -/
theorem pairwise_time_trips {events : List Event} (ho : Event.InOrder events) (h : Host) :
    (h.trips events).Pairwise (·.time ≤ ·.time) := by
  have hs : ((h.trips events).map Trip.time).Sublist (events.filterMap Event.time?) :=
    time_noteAll_sublist [] h events
  exact List.pairwise_map.1 (ho.sublist hs)

/-! ## The timer and the trips -/

variable {settings : Settings} {trips : List Trip} {h : Host}

/-- **The timer holds exactly the trips that are under way**, and the page fades exactly while
there are some. -/
structure Underway (settings : Settings) (trips : List Trip) (h : Host) : Prop where
  /-- every trip has its departure, in the order they were asked for -/
  pending_eq : h.timer.pending = trips.map (Trip.departure settings)
  /-- the page fades while somebody is about to leave it -/
  fading_iff : h.timer.fading = true ↔ trips ≠ []

theorem underway_start (settings : Settings) (page : Page) (width : UInt16) (store : Preferences)
    (seed : UInt64) : (start settings page width store seed).Underway settings [] where
  pending_eq := rfl
  fading_iff := by simp [start, Timer.idle]

/-- A key adds the trip of its submission, if there is one. -/
theorem Underway.press (hu : h.Underway settings trips) (hr : h.Rooted settings) (now : Nat)
    (clock : ClockAnswer) (key : Key) :
    (h.press now clock key).Underway settings (h.note trips (.press now clock key)) := by
  have htravel : (h.session.press clock key).travel =
      ((h.session.press clock key).outcome.map h.session.place.travelFor).getD [] :=
    (h.session.leads_press clock key).travel_eq
  have hkeep (htimer : (h.press now clock key).timer = h.timer)
      (hnote : h.note trips (.press now clock key) = trips) :
      (h.press now clock key).Underway settings (h.note trips (.press now clock key)) := by
    rw [hnote]
    exact ⟨htimer ▸ hu.pending_eq, htimer ▸ hu.fading_iff⟩
  cases ho : (h.session.press clock key).outcome with
  | none => exact hkeep (by rw [timer_press, htravel, ho]; rfl) (by rw [note, ho])
  | some o =>
    cases o with
    | navigating p =>
      -- the delay and the file are those of the settings, so the departure is the trip's
      have htimer : (h.press now clock key).timer =
          ⟨h.timer.pending ++ [Trip.departure settings ⟨now, p⟩], true⟩ := by
        rw [timer_press, htravel, ho, Option.map_some, Option.getD_some, Place.travelFor,
          hr.place_registry, hr.place_delay]
        rfl
      rw [note, ho]
      refine ⟨?_, ?_⟩
      · rw [htimer, hu.pending_eq, List.map_append]
        rfl
      · simp [htimer]
    | _ => exact hkeep (by rw [timer_press, htravel, ho]; rfl) (by rw [note, ho])

/-- A tick ends all trips, or none. -/
theorem Underway.tick (hu : h.Underway settings trips) (now : Nat) (clock : ClockAnswer) :
    (h.tick now clock).Underway settings (h.note trips (.tick now clock)) := by
  rw [note]
  cases hf : h.fileDue? now with
  | none =>
    have htimer := timer_tick_of_none clock hf
    exact ⟨htimer ▸ hu.pending_eq, htimer ▸ hu.fading_iff⟩
  | some file =>
    -- the timer is emptied by the very event that ends the trips
    have htimer := timer_tick_of_some clock hf
    refine ⟨?_, ?_⟩
    · rw [htimer]
      rfl
    · simp [htimer, Timer.idle]

/-- Every event keeps the timer and the trips together. -/
theorem Underway.step (hu : h.Underway settings trips) (hr : h.Rooted settings) (e : Event) :
    (h.step e).Underway settings (h.note trips e) := by
  cases e with
  | press now clock key => exact hu.press hr now clock key
  | tick now clock => exact hu.tick now clock
  | resize width => exact ⟨hu.pending_eq, hu.fading_iff⟩

theorem Underway.run (hu : h.Underway settings trips) (hr : h.Rooted settings)
    (events : List Event) : (h.run events).Underway settings (noteAll trips h events) := by
  induction events generalizing h trips with
  | nil => exact hu
  | cons e rest ih => exact ih (hu.step hr e) (hr.step e)

theorem underway_run (settings : Settings) (page : Page) (width : UInt16) (store : Preferences)
    (seed : UInt64) (events : List Event) :
    ((start settings page width store seed).run events).Underway settings
      ((start settings page width store seed).trips events) :=
  (underway_start settings page width store seed).run (rooted_start settings page width store seed)
    events

/-- **The first trip decides** which file is due. -/
theorem Underway.fileDue?_eq_some_iff (hu : h.Underway settings trips)
    (ho : trips.Pairwise (·.time ≤ ·.time)) {now : Nat} {file : Text} :
    h.fileDue? now = some file ↔ ∃ first, trips.head? = some first ∧
      first.time + settings.navigationDelay ≤ now ∧ settings.destination first.page = file := by
  have htimer : h.timer = ⟨trips.map (Trip.departure settings), h.timer.fading⟩ := by
    rw [← hu.pending_eq]
  rw [fileDue?, htimer]
  cases trips with
  | nil => simp [Timer.poll, Timer.earliest?]
  | cons first rest =>
    -- the delay is the same for all, so later trips have later deadlines
    have hdeadlines : Timer.InOrder ((first :: rest).map (Trip.departure settings)) := by
      rw [Timer.InOrder, List.pairwise_map]
      exact ho.imp fun hle => Nat.add_le_add_right hle _
    rw [List.map_cons] at hdeadlines ⊢
    rw [Timer.poll_of_inOrder hdeadlines, Trip.departure]
    simp

/-! ## Loaded pages -/

/-- **What a page load leaves behind**: a page that nobody leaves, with nothing typed or submitted
and only the welcome to be read. The look of the shell and the preferences outlive it. -/
structure Loaded (file : Text) (before after : Host) : Prop where
  /-- the page is the one of the file -/
  page_eq : after.page = before.pageOfDestination file
  /-- nobody is about to leave it -/
  timer_eq : after.timer = .idle
  /-- no line was submitted yet, so none is recalled -/
  history_eq : after.session.history = .empty
  /-- nothing was typed yet -/
  line_eq : after.session.line = []
  /-- the caret is where typing begins -/
  caret_eq : after.session.caret = 0
  /-- the only output says where the visitor is -/
  blocks_eq : after.scrollback.blocks = [.output .normal ["[ /".toList ++ after.page.name ++
    " ] ".toList ++ before.registry.destination after.page]]
  /-- the look stays -/
  theme_eq : after.theme = before.theme
  /-- nothing is kept that was not kept before -/
  store_eq : after.store = before.store

theorem loaded_tick {now : Nat} {file : Text} (clock : ClockAnswer)
    (hf : h.fileDue? now = some file) : Loaded file h (h.tick now clock) := by
  obtain ⟨_, _, _, _, _, heq⟩ := h.tick_frame now clock
  rw [heq, tickTimer_of_some hf]
  exact ⟨rfl, rfl, rfl, rfl, rfl, rfl, rfl, rfl⟩

/-- **Page changes over whole runs.** After any run in which time does not run backwards, the page
fades exactly while a page change is under way. A tick loads a page exactly if the first submission
since the last load that led to another page was made long enough ago, and then it loads the page
of the file that this submission asked for. The others that were under way are forgotten: from then
on, only later submissions count. -/
theorem navigation_of_run (settings : Settings) (page : Page) (width : UInt16)
    (store : Preferences) (seed : UInt64) (events : List Event)
    (hordered : Event.InOrder events) :
    let h₀ := start settings page width store seed
    let h := h₀.run events
    (h.timer.fading = true ↔ h.timer.pending ≠ []) ∧
    ∀ now clock,
      (∀ file, h.fileDue? now = some file ↔ ∃ first, (h₀.trips events).head? = some first ∧
        first.time + settings.navigationDelay ≤ now ∧ settings.destination first.page = file) ∧
      (h.fileDue? now = none →
        (h.tick now clock).console = h.console ∧ (h.tick now clock).timer = h.timer) ∧
      (∀ file, h.fileDue? now = some file →
        Loaded file h (h.tick now clock) ∧
        ∀ later, h₀.trips (events ++ .tick now clock :: later) =
          (h.tick now clock).trips later) := by
  intro h₀ h
  have hu : h.Underway settings (h₀.trips events) :=
    underway_run settings page width store seed events
  refine ⟨?_, fun now clock => ⟨?_, ?_, ?_⟩⟩
  · rw [hu.fading_iff, hu.pending_eq, ne_eq, ne_eq, List.map_eq_nil_iff]
  · intro file
    exact hu.fileDue?_eq_some_iff (pairwise_time_trips hordered h₀)
  · intro hnone
    exact ⟨console_tick_of_none clock hnone, timer_tick_of_none clock hnone⟩
  · intro file hfile
    exact ⟨loaded_tick clock hfile, trips_append_tick clock hfile⟩

/-- Two submissions on one page: the second one is forgotten when the page of the first is
loaded. -/
theorem navigation_of_two_trips :
    let clock : ClockAnswer := .error (.platform [])
    let h := (start .default .home 80 (.file .absent) 0).run
      (typeLine 0 clock "cd about".toList ++ typeLine 5 clock "cd certs".toList)
    h.timer.pending.length = 2 ∧ h.timer.fading = true ∧
      Loaded "about.html".toList h (h.tick 300 clock) ∧ (h.tick 300 clock).page = .about := by
  intro clock h
  have hordered : Event.InOrder
      (typeLine 0 clock "cd about".toList ++ typeLine 5 clock "cd certs".toList) := by
    rw [Event.InOrder]
    decide +kernel
  obtain ⟨hfading, htick⟩ := navigation_of_run .default .home 80 (.file .absent) 0 _ hordered
  obtain ⟨hdue, -, hload⟩ := htick 300 clock
  have hfile : h.fileDue? 300 = some "about.html".toList := by
    refine (hdue _).2 ⟨⟨0, .about⟩, ?_⟩
    decide +kernel
  refine ⟨by decide +kernel, hfading.2 (by decide +kernel), (hload _ hfile).1, ?_⟩
  decide +kernel

end Host

end PageShell
