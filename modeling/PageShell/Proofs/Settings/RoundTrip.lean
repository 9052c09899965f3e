import PageShell.Proofs.Toml.Documents

/-!
# Written settings are read back

Settings have a text unless a number is too large for a document. Reading that
text gives the settings again if they obey the rules, and otherwise a fault
that names the first rule they break.

* `Settings.scalars` — the entries of all settings but the pages;
* `Settings.Verdict` — what the rules say of settings, without regard to texts;
* `Settings.verdict_answer`, `Settings.Verdict.unique` — the search for a
  violation gives that verdict, and there is no other;
* `Settings.ofToml_toToml` — **reading written settings gives the verdict on
  them**.
-/

namespace PageShell

namespace Settings

open Toml

/-! ### The document of settings -/

/-- The entries of all settings but the pages. -/
def scalars (s : Settings) : Table :=
  [("prompt".toList, .text s.prompt),
    ("placeholder".toList, .text s.placeholder),
    ("helper_text".toList, .text s.helper),
    ("navigation_delay_ms".toList, .integer s.navigationDelay),
    ("clock_interval_ms".toList, .integer s.clockInterval),
    ("rain_interval_ms".toList, .integer s.rainInterval),
    ("reduced_motion".toList, .boolean s.reducedMotion),
    ("prefers_light".toList, .boolean s.prefersLight),
    ("preferences_path".toList, .text s.preferencesPath),
    ("log_file".toList, .text s.logFile),
    ("max_output_lines".toList, .integer s.maxOutputLines)]

/-- The numbers among the settings. -/
def numbers (s : Settings) : List Nat :=
  [s.navigationDelay, s.clockInterval, s.rainInterval, s.maxOutputLines]

/-- The lines of the settings say their entries, if the numbers fit. -/
theorem tells_writeScalars {s : Settings} (h : ∀ n ∈ s.numbers, n < 0x8000000000000000) :
    Tells (writeScalars s) (s.scalars.map fun p => .entry (.single p.1) p.2) := by
  have hstring : ∀ key t, Tells (writeEntry key (writeString t)) [.entry (.single key) (.text t)] :=
    fun key t => tells_writeEntry key (value_writeString _ t)
  have hnumber : ∀ key, ∀ n ∈ s.numbers,
      Tells (writeEntry key (Text.ofNat n)) [.entry (.single key) (.integer n)] :=
    fun key n hn => tells_writeEntry key (value_ofNat _ (h n hn))
  have hboolean : ∀ key b,
      Tells (writeEntry key (writeBoolean b)) [.entry (.single key) (.boolean b)] :=
    fun key b => tells_writeEntry key (value_writeBoolean _ b)
  exact ((((((((((hstring _ _).append (hstring _ _)).append (hstring _ _)).append
    (hnumber _ s.navigationDelay (by simp [numbers]))).append
    (hnumber _ s.clockInterval (by simp [numbers]))).append
    (hnumber _ s.rainInterval (by simp [numbers]))).append
    (hboolean _ _)).append (hboolean _ _)).append (hstring _ _)).append (hstring _ _)).append
    (hnumber _ s.maxOutputLines (by simp [numbers]))

/-- The table of settings. -/
def table (s : Settings) : Table :=
  s.scalars ++ [("pages".toList, .table .header (tableOf s.pages))]

/-- **The table of settings has their types and values.** -/
theorem ofTable?_table (s : Settings) : ofTable? s.table = some s := by
  have htext : ∀ {key : String} {t default : Text}, s.table.get? key.toList = some (.text t) →
      s.table.text? key default = some t := fun h => by rw [Table.text?, h]
  have hnatural : ∀ {key : String} {n default : Nat},
      s.table.get? key.toList = some (.integer n) → s.table.natural? key default = some n := by
    intro key n default h
    rw [Table.natural?, h]
    exact if_pos (Int.natCast_nonneg n)
  have hboolean : ∀ {key : String} {b default : Bool},
      s.table.get? key.toList = some (.boolean b) → s.table.boolean? key default = some b :=
    fun h => by rw [Table.boolean?, h]
  have hpages : ∀ {default : Dictionary}, s.table.dictionaryAt? "pages" default = some s.pages := by
    intro default
    have hget : s.table.get? "pages".toList = some (.table .header (tableOf s.pages)) := rfl
    rw [Table.dictionaryAt?, hget]
    exact dictionary?_tableOf s.pages
  rw [ofTable?, htext rfl, htext rfl, htext rfl, hpages, hnatural rfl, hnatural rfl, hnatural rfl,
    hboolean rfl, hboolean rfl, htext rfl, htext rfl, hnatural rfl]
  rfl

theorem document?_toToml {s : Settings} (h : ∀ n ∈ s.numbers, n < 0x8000000000000000) :
    document? (writeScalars s ++ ['\n'] ++ writeHeader "pages".toList ++ writeEntries s.pages) =
      some s.table := by
  have hfirst : (writeScalars s).head? = some 'p' := rfl
  -- the keys are the same for all settings
  have hkeys : s.scalars.map Prod.fst = default.scalars.map Prod.fst := rfl
  refine document?_section (tells_writeScalars h) ?_ ?_ s.pages
  · rw [hfirst]
    decide
  · rw [hkeys]
    decide

/-! ### The rules -/

/-- **What the rules say of settings.** The rules come in this order: names, files, output. -/
inductive Verdict (s : Settings) : Except Fault Settings → Prop where
  /-- a file is chosen for a name that no page has -/
  | unknownPage {name : Text}
      (first : s.pages.First (fun name _ => ∀ p : Page, p.name ≠ name) name) :
      Verdict s (.error (.settings ("unknown page '".toList ++ name ++ "'".toList)))
  /-- all names are names of pages, and the file chosen for one of them is blank -/
  | blankDestination {name : Text}
      (known : ∀ name file, s.pages.get? name = some file → ∃ p : Page, p.name = name)
      (first : s.pages.First (fun _ file => file.isBlank = true) name) :
      Verdict s (.error (.settings ("empty destination for '".toList ++ name ++ "'".toList)))
  /-- names and files are right, and not a line of output would be kept -/
  | noOutput
      (known : ∀ name file, s.pages.get? name = some file → ∃ p : Page, p.name = name)
      (visible : ∀ name file, s.pages.get? name = some file → file.isBlank = false)
      (zero : s.maxOutputLines = 0) :
      Verdict s (.error (.settings "max_output_lines must be > 0".toList))
  /-- no rule is broken -/
  | accepted
      (known : ∀ name file, s.pages.get? name = some file → ∃ p : Page, p.name = name)
      (visible : ∀ name file, s.pages.get? name = some file → file.isBlank = false)
      (positive : 0 < s.maxOutputLines) :
      Verdict s (.ok s)

theorem isNone_ofName?_iff {name : Text} :
    (Page.ofName? name).isNone = true ↔ ∀ p : Page, p.name ≠ name := by
  rw [Option.isNone_iff_eq_none, Option.eq_none_iff_forall_ne_some]
  exact forall_congr' fun p => not_congr (Page.ofName?_eq_some_iff.trans eq_comm)

theorem isEmpty_trim_iff {file : Text} : file.trim.isEmpty = true ↔ file.isBlank = true :=
  List.isEmpty_iff.trans Text.trim_eq_nil_iff

/-- The answer to settings that were read. -/
def answer (s : Settings) : Except Fault Settings :=
  match s.violation? with
  | some v => .error v.fault
  | none => .ok s

/-- The violation is the first of three: of a name, of a file, of the output. -/
theorem violation?_eq (s : Settings) :
    s.violation? =
      ((s.pages.toList.find? fun q => (Page.ofName? q.1).isNone).map fun q => .unknownPage q.1).or
        (((s.pages.toList.find? fun q => q.2.trim.isEmpty).map fun q => .blankDestination q.1).or
          (if s.maxOutputLines = 0 then some .noOutput else none)) := by
  rw [violation?]
  split
  · next name file hname =>
    have hname : (s.pages.toList.find? fun q => (Page.ofName? q.1).isNone) = some (name, file) :=
      hname
    rw [hname]
    rfl
  · next hname =>
    have hname : (s.pages.toList.find? fun q => (Page.ofName? q.1).isNone) = none := hname
    rw [hname, Option.map_none, Option.none_or]
    split
    · next name file hfile =>
      have hfile : (s.pages.toList.find? fun q => q.2.trim.isEmpty) = some (name, file) := hfile
      rw [hfile]
      rfl
    · next hfile =>
      have hfile : (s.pages.toList.find? fun q => q.2.trim.isEmpty) = none := hfile
      rw [hfile, Option.map_none, Option.none_or]

/-- **The answer is the verdict.** -/
theorem verdict_answer (s : Settings) : s.Verdict s.answer := by
  rw [answer, violation?_eq]
  obtain ⟨q, hname, hfirst⟩ | ⟨hname, hnames⟩ :=
    s.pages.find?_cases fun q => (Page.ofName? q.1).isNone
  · simp only [isNone_ofName?_iff] at hfirst
    rw [hname]
    exact .unknownPage hfirst
  have hknown : ∀ name file, s.pages.get? name = some file → ∃ p : Page, p.name = name := by
    simp only [isNone_ofName?_iff] at hnames
    exact fun name file hget => Classical.not_forall_not.1 (hnames name file hget)
  obtain ⟨q, hfile, hfirst⟩ | ⟨hfile, hvisible⟩ :=
    s.pages.find?_cases fun q => q.2.trim.isEmpty
  · simp only [isEmpty_trim_iff] at hfirst
    rw [hname, hfile]
    exact .blankDestination hknown hfirst
  simp only [isEmpty_trim_iff, Bool.not_eq_true] at hvisible
  rw [hname, hfile]
  by_cases hzero : s.maxOutputLines = 0
  · rw [if_pos hzero]
    exact .noOutput hknown hvisible hzero
  · rw [if_neg hzero]
    exact .accepted hknown hvisible (Nat.pos_of_ne_zero hzero)

/-- The rules say one thing only. -/
theorem Verdict.unique {s : Settings} {a b : Except Fault Settings} (ha : s.Verdict a)
    (hb : s.Verdict b) : a = b := by
  have hunknown : ∀ {name}, s.pages.First (fun name _ => ∀ p : Page, p.name ≠ name) name →
      ¬∀ name file, s.pages.get? name = some file → ∃ p : Page, p.name = name := by
    rintro name ⟨⟨file, hget, hno⟩, -⟩ hknown
    obtain ⟨p, hp⟩ := hknown name file hget
    exact hno p hp
  have hblank : ∀ {name}, s.pages.First (fun _ file => file.isBlank = true) name →
      ¬∀ name file, s.pages.get? name = some file → file.isBlank = false := by
    rintro name ⟨⟨file, hget, hfile⟩, -⟩ hvisible
    rw [hvisible name file hget] at hfile
    cases hfile
  cases ha with
  | unknownPage first =>
    cases hb with
    | unknownPage first' => rw [first.unique first']
    | blankDestination known _ => exact absurd known (hunknown first)
    | noOutput known _ _ => exact absurd known (hunknown first)
    | accepted known _ _ => exact absurd known (hunknown first)
  | blankDestination known first =>
    cases hb with
    | unknownPage first' => exact absurd known (hunknown first')
    | blankDestination _ first' => rw [first.unique first']
    | noOutput _ visible _ => exact absurd visible (hblank first)
    | accepted _ visible _ => exact absurd visible (hblank first)
  | noOutput known visible zero =>
    cases hb with
    | unknownPage first' => exact absurd known (hunknown first')
    | blankDestination _ first' => exact absurd visible (hblank first')
    | noOutput _ _ _ => rfl
    | accepted _ _ positive => omega
  | accepted known visible positive =>
    cases hb with
    | unknownPage first' => exact absurd known (hunknown first')
    | blankDestination _ first' => exact absurd visible (hblank first')
    | noOutput _ _ zero => omega
    | accepted _ _ _ => rfl

/-! ### The round trip -/

/-- A text is answered by the rules if it holds the table of settings. -/
theorem ofToml_of_document? {s : Settings} {text : Text} (h : document? text = some s.table) :
    ofToml text = s.answer := by
  rw [ofToml, h, Option.bind_some, ofTable?_table]
  rfl

theorem toToml_of_le {s : Settings} (h : ∀ n ∈ s.numbers, n ≤ 0x7FFFFFFFFFFFFFFF) :
    s.toToml = .ok
      (writeScalars s ++ ['\n'] ++ writeHeader "pages".toList ++ writeEntries s.pages) :=
  if_pos (List.all_eq_true.2 fun n hn => decide_eq_true (by have hle := h n hn; omega))

theorem toToml_of_lt {s : Settings} (h : ∃ n ∈ s.numbers, 0x7FFFFFFFFFFFFFFF < n) :
    s.toToml = .error .unwritable := by
  obtain ⟨n, hn, hlt⟩ := h
  refine if_neg fun hall => ?_
  have hwritable : n < 0x8000000000000000 := of_decide_eq_true (List.all_eq_true.1 hall n hn)
  omega

/-- **Reading written settings gives the verdict on them.** Settings have no text exactly if one of
the four numbers is larger than `2 ^ 63 - 1`, which is the largest one in a document. -/
theorem ofToml_toToml (s : Settings) :
    (s.toToml = .error .unwritable ↔ ∃ n ∈ s.numbers, 0x7FFFFFFFFFFFFFFF < n) ∧
      ((∀ n ∈ s.numbers, n ≤ 0x7FFFFFFFFFFFFFFF) →
        ∃ text, s.toToml = .ok text ∧ ∀ answer, ofToml text = answer ↔ s.Verdict answer) := by
  refine ⟨⟨fun herror => ?_, toToml_of_lt⟩, fun hfits => ⟨_, toToml_of_le hfits, fun answer => ?_⟩⟩
  · refine Classical.byContradiction fun hno => ?_
    have hok := toToml_of_le fun n hn => Nat.le_of_not_lt fun hlt => hno ⟨n, hn, hlt⟩
    rw [herror] at hok
    cases hok
  · have hdocument := document?_toToml (s := s) fun n hn => by
      have hle := hfits n hn
      omega
    rw [ofToml_of_document? hdocument]
    constructor
    · rintro rfl
      exact s.verdict_answer
    · exact s.verdict_answer.unique

/-- A prompt with quotes of both kinds, a backslash, a line end and a control character, and no
chosen pages: both come back, and the pages are not the default ones. -/
theorem ofToml_toToml_oddPrompt :
    let s := { default with prompt := "\"\"\" '\\\n\x07$ ".toList, pages := .empty }
    (∀ n ∈ s.numbers, n ≤ 0x7FFFFFFFFFFFFFFF) ∧
      ∃ text, s.toToml = .ok text ∧ ofToml text = .ok s := by
  intro s
  have hfits : ∀ n ∈ s.numbers, n ≤ 0x7FFFFFFFFFFFFFFF := by decide
  obtain ⟨text, htext, hanswer⟩ := (ofToml_toToml s).2 hfits
  refine ⟨hfits, text, htext, (hanswer _).2 (.accepted ?_ ?_ (by decide))⟩
  · exact nofun
  · exact nofun

end Settings

end PageShell
