import Mathlib.Algebra.Ring.Parity
import Mathlib.Logic.Function.Iterate
import PageShell.Proofs.Host.Run
import PageShell.Proofs.Preferences

/-!
# The theme outlives the shell

The button changes the theme at once, and remembers the choice as well as it
can. A file that holds preferences, or that is not there yet, holds the choice
afterwards, and all else that it held before. Anything else at the path is left
alone.

* `Theme.click` — a click on the button, with what becomes of the preferences;
* `Theme.iterate_toggled_eq_iff` — which theme it is after several changes;
* `Theme.Keeps` — a file that holds what it held, but for the theme;
* `FileState.set_of_not_holds` — what holds no preferences is never written;
* `Host.look_run` — a run of the shell clicks as often as the theme key is
  pressed;
* `Theme.persists` — **what becomes of the theme and of the file.**
-/

namespace PageShell

namespace FileState

open Preferences

/-- **What holds no preferences is never written**: neither a text that is no flat table of
strings, nor bytes that are no text, nor a directory. -/
theorem set_of_not_holds {state : FileState} (h : ¬∃ d, state.Holds d) (key value : Text) :
    ∃ fault, (file state).set key value = (.error fault, file state) := by
  cases state with
  | absent => exact absurd ⟨_, .absent⟩ h
  | text content =>
    cases hread : ofToml content with
    | ok d => exact absurd ⟨d, .text hread⟩ h
    | error fault =>
      have hvalues : (file (.text content)).values = .error fault := hread
      exact ⟨fault, by rw [Preferences.set, hvalues]; rfl⟩
  | bytes content => exact ⟨.notUtf8, rfl⟩
  | directory => exact ⟨.isDirectory, rfl⟩

end FileState

namespace Theme

/-! ## Clicks -/

/-- **A click on the button.** -/
def click (look : Theme × Preferences) : Theme × Preferences :=
  look.1.toggle look.2

/-- The theme changes with every click, whatever becomes of the preferences. -/
theorem fst_clicks (k : Nat) (look : Theme × Preferences) :
    (click^[k] look).1 = toggled^[k] look.1 := by
  have hclick : Function.Semiconj Prod.fst click toggled := fun _ => rfl
  exact hclick.iterate_right k look

/-- The other theme is another one. -/
theorem toggled_ne (theme : Theme) : theme.toggled ≠ theme := by
  cases theme <;> decide

/-- There are two themes only. -/
theorem involutive_toggled : Function.Involutive toggled := by
  intro theme
  cases theme <;> rfl

/-- **A theme that is changed several times** is the same again exactly if they are even in
number. -/
theorem iterate_toggled_eq_iff {k : Nat} {theme : Theme} :
    toggled^[k] theme = theme ↔ Even k := by
  rcases Nat.even_or_odd k with heven | hodd
  · rw [involutive_toggled.iterate_even heven]
    exact iff_of_true rfl heven
  · rw [involutive_toggled.iterate_odd hodd]
    exact iff_of_false (toggled_ne theme) (Nat.not_even_iff_odd.2 hodd)

/-- A theme that is stored by its name is the theme to start with. -/
theorem load_of_get {store : Preferences} {theme : Theme}
    (h : store.get key = .ok (some theme.name)) (prefersLight : Bool) :
    load store prefersLight = theme := by
  rw [load, h]
  cases theme <;> rfl

/-- Whether a store is a file that holds the pairs `d`, but for the theme. -/
def Keeps (d : Dictionary) (store : Preferences) : Prop :=
  ∃ state d', store = .file state ∧ state.Holds d' ∧ ∀ key', key' ≠ key → d'.get? key' = d.get? key'

/-- **A click stores the theme** in a file of preferences, and keeps all else. -/
theorem Keeps.click {d : Dictionary} {look : Theme × Preferences} (h : Keeps d look.2) :
    Keeps d (click look).2 ∧ (click look).2.get key = .ok (some (click look).1.name) := by
  obtain ⟨theme, store⟩ := look
  obtain ⟨state, d', rfl, hholds, hrest⟩ := h
  have hset : (Theme.click (theme, .file state)).2 =
      .file (.text (Toml.writeEntries (d'.insert key theme.toggled.name))) := by
    rw [Theme.click, toggle, hholds.set_eq]
  have hwritten := FileState.Holds.written (d'.insert key theme.toggled.name)
  rw [hset]
  refine ⟨⟨_, _, rfl, hwritten, fun key' hne => ?_⟩, ?_⟩
  · rw [Dictionary.get?_insert, if_neg hne, hrest key' hne]
  · rw [hwritten.get_eq, Dictionary.get?_insert, if_pos rfl]
    rfl

theorem Keeps.clicks {d : Dictionary} {look : Theme × Preferences} (h : Keeps d look.2) (k : Nat) :
    Keeps d (Theme.click^[k] look).2 := by
  induction k with
  | zero => exact h
  | succ k ih =>
    rw [Function.iterate_succ_apply']
    exact ih.click.1

/-- Clicks leave alone what holds no preferences. -/
theorem snd_clicks_of_not_holds {state : FileState} (h : ¬∃ d, state.Holds d) (theme : Theme)
    (k : Nat) : (click^[k] (theme, .file state)).2 = .file state := by
  induction k with
  | zero => rfl
  | succ k ih =>
    rw [Function.iterate_succ_apply', click, toggle, ih]
    obtain ⟨fault, hset⟩ := FileState.set_of_not_holds h key
      (click^[k] (theme, .file state)).1.toggled.name
    rw [hset]

end Theme

/-! ## The shell -/

namespace Host

/-- The theme of the shell, with the preferences. -/
def look (h : Host) : Theme × Preferences :=
  (h.theme, h.store)

/-- Whether an event is a click on the button. -/
def Event.isClick : Event → Bool
  | .press _ _ .toggleTheme => true
  | _ => false

/-- Only clicks change the look. -/
theorem look_step (h : Host) (e : Event) :
    (h.step e).look = Theme.click^[if e.isClick then 1 else 0] h.look := by
  cases e with
  | press now clock key => cases key <;> rfl
  | tick now clock =>
    obtain ⟨_, _, _, _, _, heq⟩ := h.tick_frame now clock
    rw [step, heq]
    cases hf : h.fileDue? now with
    | none =>
      rw [tickTimer_of_none hf]
      rfl
    | some file =>
      rw [tickTimer_of_some hf]
      rfl
  | resize width => rfl

/-- **A run of the shell clicks as often as the theme key is pressed.** -/
theorem look_run (h : Host) (events : List Event) :
    (h.run events).look = Theme.click^[events.countP Event.isClick] h.look := by
  induction events generalizing h with
  | nil => rfl
  | cons e rest ih =>
    rw [List.countP_cons, Function.iterate_add_apply, ← look_step]
    exact ih (h.step e)

end Host

/-- **The theme outlives the shell.** Whatever stands at the path of the preferences, the theme
after several clicks is the one to start with, changed as often: it is the same one after an even
number of clicks, and the other one after an odd number. If nothing stood there, or a file that
holds preferences, and there was a click, then whoever loads the theme from there afterwards has the
same one, whatever they like, and finds all else as it was. If anything else stood there, it still
stands there, and every setting fails. The clicks may be spread over a run of the shell, among any
other events. -/
theorem Theme.persists (state : FileState) (prefersLight : Bool) :
    let first := Theme.load (.file state) prefersLight
    (∀ k : Nat,
      let last := Theme.click^[k] (first, .file state)
      last.1 = Theme.toggled^[k] first ∧ (last.1 = first ↔ Even k) ∧
      ((∃ d, state.Holds d) → 0 < k →
        (∀ prefersLight', Theme.load last.2 prefersLight' = last.1) ∧
        ∀ key, key ≠ Theme.key → last.2.get key = (Preferences.file state).get key) ∧
      ((¬∃ d, state.Holds d) →
        last.2 = .file state ∧
        ∀ key value, ∃ fault, last.2.set key value = (.error fault, last.2))) ∧
    ∀ (settings : Settings) (page : Page) (width : UInt16) (seed : UInt64)
      (events : List Host.Event), settings.prefersLight = prefersLight →
      ((Host.start settings page width (.file state) seed).run events).look =
        Theme.click^[events.countP Host.Event.isClick] (first, .file state) := by
  intro first
  refine ⟨fun k => ⟨Theme.fst_clicks k _, ?_, ?_, fun hnone => ?_⟩, ?_⟩
  · rw [Theme.fst_clicks]
    exact Theme.iterate_toggled_eq_iff
  · rintro ⟨d, hholds⟩ hk
    obtain ⟨j, rfl⟩ := Nat.exists_eq_succ_of_ne_zero hk.ne'
    have hkeeps : Theme.Keeps d (Theme.click^[j] (first, .file state)).2 :=
      Theme.Keeps.clicks ⟨state, d, rfl, hholds, fun _ _ => rfl⟩ j
    obtain ⟨⟨state', d', hstore, hholds', hrest⟩, hget⟩ := hkeeps.click
    rw [Function.iterate_succ_apply']
    refine ⟨Theme.load_of_get hget, fun key hne => ?_⟩
    rw [hstore, hholds'.get_eq, hholds.get_eq, hrest key hne]
  · have hstore := Theme.snd_clicks_of_not_holds hnone first k
    rw [hstore]
    exact ⟨rfl, FileState.set_of_not_holds hnone⟩
  · rintro settings page width seed events rfl
    exact Host.look_run _ events

end PageShell
