import PageShell.Proofs.Host.Navigation
import PageShell.Proofs.Registry
import PageShell.Proofs.Scrollback
import PageShell.Proofs.Target
import PageShell.Settings.Toml

/-!
# Where page changes lead

A submission announces a page, but the timer holds no more than the file of
that page. The page that is loaded is found again from the file, and two pages
may share one. So what was announced is reached exactly if no page that is
listed before it is served from its file.

* `Page.cdLine` — the line that asks for a page;
* `Host.lastOutput?_press_cdLine` — what this line is answered with;
* `Host.landing_of_submission` — **which announcements come true**;
* `Host.landing_elsewhere` — settings that are accepted, and an announcement
  that does not.
-/

namespace PageShell

/-! ## The line that asks for a page -/

/-- The line that asks for a page by its name. -/
def Page.cdLine (p : Page) : Text :=
  "cd ".toList ++ p.name

namespace Place

/-- The line is understood as `cd` with the name of the page. -/
theorem respond_cdLine (place : Place) (clock : ClockAnswer) (p : Page) :
    place.respond clock p.cdLine = place.changePage p.name := by
  cases p <;> rfl

/-- Who asks for the page that is shown stays there, and who asks for another one is told so. -/
theorem changePage_name (place : Place) (p : Page) :
    (place.changePage p.name).display = [.append [if p = place.page
      then "Already at /".toList ++ p.name
      else "Navigating to /".toList ++ p.name ++ "...".toList] .normal] := by
  rw [changePage, Target.page?_ofText_name]
  dsimp only
  split
  · rfl
  · rfl

end Place

namespace Host

/-- **What the line is answered with.** -/
theorem lastOutput?_press_cdLine {h : Host} {p : Page} (now : Nat) (clock : ClockAnswer)
    (hline : h.session.line.trim = p.cdLine) :
    (h.press now clock .enter).scrollback.lastOutput? = some (.normal, [if p = h.page
      then "Already at /".toList ++ p.name
      else "Navigating to /".toList ++ p.name ++ "...".toList]) := by
  have hnb : h.session.line.isBlank = false := by
    rw [← Text.trim_ne_nil_iff, hline]
    exact List.cons_ne_nil _ _
  have hturn := Session.submit_of_not_isBlank clock h.session hnb
  have hpress : (h.press now clock .enter).scrollback =
      h.scrollback.applyAll (h.session.submit clock h.session.line).display := rfl
  rw [hpress, hturn, hline, Place.respond_cdLine, Place.changePage_name]
  exact Scrollback.lastOutput?_append _ _ _

/-! ## The page that is loaded -/

/-- The first trip ends on its page exactly if the file of that page leads back to it. -/
theorem Underway.page_tick_iff {settings : Settings} {trips : List Trip} {h : Host} {first : Trip}
    {now : Nat} (hu : h.Underway settings trips) (hr : h.Rooted settings)
    (ho : trips.Pairwise (·.time ≤ ·.time)) (hfirst : trips.head? = some first)
    (hdue : first.time + settings.navigationDelay ≤ now) (clock : ClockAnswer) :
    (h.tick now clock).page = first.page ↔ (Registry.ofSettings settings).Finds first.page := by
  have hfile : h.fileDue? now = some (settings.destination first.page) :=
    (hu.fileDue?_eq_some_iff ho).2 ⟨first, hfirst, hdue, rfl⟩
  rw [(loaded_tick clock hfile).page_eq, pageOfDestination, hr.registry_eq]
  exact Registry.getD_pageOf?_destination_iff _

/-- **Which announcements come true.** Whoever submits the line that asks for another page is told
that it is on the way. When the page change is carried out, that page is shown exactly if no page
that is listed before it is served from its file, and exactly then the same line is answered by
saying that the page is shown. -/
theorem landing_of_submission (settings : Settings) (page : Page) (width : UInt16)
    (store : Preferences) (seed : UInt64) (before later : List Event) (t now : Nat)
    (clock clock' : ClockAnswer) (p : Page) :
    let h₀ := start settings page width store seed
    let shown := h₀.run before
    let events := before ++ .press t clock .enter :: later
    let landed := (h₀.run events).tick now clock'
    Event.InOrder events → shown.session.line.trim = p.cdLine → p ≠ shown.page →
    (h₀.trips events).head? = some ⟨t, p⟩ → t + settings.navigationDelay ≤ now →
    (shown.press t clock .enter).scrollback.lastOutput? =
      some (.normal, ["Navigating to /".toList ++ p.name ++ "...".toList]) ∧
    (landed.page = p ↔ (Registry.ofSettings settings).Finds p) ∧
    ((Registry.ofSettings settings).pageOf? (settings.destination p) = some p ↔
      (Registry.ofSettings settings).Finds p) ∧
    ∀ typed t' clock'', (landed.run typed).page = landed.page →
      (landed.run typed).session.line.trim = p.cdLine →
      (((landed.run typed).press t' clock'' .enter).scrollback.lastOutput? =
        some (.normal, ["Already at /".toList ++ p.name]) ↔
        (Registry.ofSettings settings).Finds p) := by
  intro h₀ shown events landed hordered hline helse hfirst hdue
  have hpage : landed.page = p ↔ (Registry.ofSettings settings).Finds p :=
    (underway_run settings page width store seed events).page_tick_iff
      ((rooted_start settings page width store seed).run events) (pairwise_time_trips hordered h₀)
      hfirst hdue clock'
  refine ⟨?_, hpage, Registry.pageOf?_destination_iff, ?_⟩
  · rw [lastOutput?_press_cdLine t clock hline, if_neg helse]
  · intro typed t' clock'' hstay htyped
    rw [lastOutput?_press_cdLine t' clock'' htyped, hstay, ← hpage]
    constructor
    · intro hanswer
      -- the answer would begin with another word
      by_contra hne
      rw [if_neg (Ne.symm hne)] at hanswer
      simp at hanswer
    · intro heq
      rw [if_pos heq.symm]

/-- With the files of a site that chooses nothing, announcements come true. -/
theorem landing_on_certs :
    let clock : ClockAnswer := .error (.platform [])
    let landed := ((start .default .home 80 (.file .absent) 0).run
      (typeLine 0 clock "cd certs".toList)).tick 300 clock
    let asked := landed.run (typeLine 300 clock "cd certs".toList)
    landed.page = .certs ∧
      asked.scrollback.lastOutput? = some (.normal, ["Already at /certs".toList]) := by
  intro clock landed asked
  have hfinds : (Registry.ofSettings .default).Finds .certs := by decide +kernel
  have hordered : Event.InOrder (typeLine 0 clock "cd certs".toList) := by
    rw [Event.InOrder]
    decide +kernel
  obtain ⟨-, hpage, -, hanswer⟩ := landing_of_submission .default .home 80 (.file .absent) 0
    ("cd certs".toList.map (.press 0 clock <| .char ·)) [] 0 300 clock clock .certs hordered
    (by decide +kernel) (by decide +kernel) (by decide +kernel) (by decide +kernel)
  refine ⟨hpage.2 hfinds, ?_⟩
  exact (hanswer ("cd certs".toList.map (.press 300 clock <| .char ·)) 300 clock
    (by decide +kernel) (by decide +kernel)).2 hfinds

/-- **An announcement that does not come true.** These settings are accepted, and two pages have
one file: who asks for the second page is taken to the first, however often. -/
theorem landing_elsewhere :
    let clock : ClockAnswer := .error (.platform [])
    let settings := { Settings.default with
      pages := .ofList [("about".toList, "x.html".toList), ("certs".toList, "x.html".toList)] }
    let asked := (start settings .home 80 (.file .absent) 0).run
      (typeLine 0 clock "cd certs".toList)
    let landed := asked.tick 10000 clock
    let again := landed.run (typeLine 10000 clock "cd certs".toList)
    Settings.ofToml "[pages]\nabout = \"x.html\"\ncerts = \"x.html\"\n".toList = .ok settings ∧
      asked.scrollback.lastOutput? = some (.normal, ["Navigating to /certs...".toList]) ∧
      landed.page = .about ∧
      again.scrollback.lastOutput? = some (.normal, ["Navigating to /certs...".toList]) := by
  decide +kernel

end Host

end PageShell
