import PageShell.Proofs.Text.Trim
import PageShell.Target

/-!
# The language of targets

An argument of `cd` is a word in disguise: one lead may stand before it, and
any number of slashes behind. The disguise is ambiguous where the word itself
is empty or made of dots, and yet it never hides two words: what is left of an
argument tells which word it spells.

* `Target.Spells` — how a word may be written;
* `Target.homeWords` — the words that lead home;
* `Target.Settled`, `Target.normalize_eq_iff` — exactly the spellings of a word
  are normalized to it;
* `Target.Spells.unique` — no text spells two of these words;
* `Target.ofText_of_spelling` — **where every argument leads.**
-/

namespace PageShell

namespace Target

/-- What may stand before a word: nothing, `./` or `/`. -/
def leads : List Text :=
  [[], "./".toList, "/".toList]

/-- The words that lead home. -/
def homeWords : List Text :=
  [[], "~".toList, "..".toList]

/-- **How a word may be written**: after one lead, and before any number of slashes. -/
def Spells (word t : Text) : Prop :=
  ∃ lead ∈ leads, ∃ k, t = lead ++ word ++ List.replicate k '/'

/-! ### What is left of a spelling -/

/-- What is left of a text is the text without a lead. -/
theorem exists_dropLead (t : Text) : ∃ lead ∈ leads, t = lead ++ dropLead t := by
  fun_cases dropLead t with
  | case1 rest => exact ⟨"./".toList, by decide, rfl⟩
  | case2 rest => exact ⟨"/".toList, by decide, rfl⟩
  | case3 => exact ⟨[], by decide, rfl⟩

/-- **A settled word** is what is left of it when slashes are put behind it. -/
def Settled (word : Text) : Prop :=
  ∀ k, (dropLead (word ++ List.replicate k '/')).dropEnd (· == '/') = word

section Spelling

variable {word t : Text}

/-- All of an ending of slashes is dropped. -/
theorem dropEnd_append_slashes (t : Text) (k : Nat) :
    (t ++ List.replicate k '/').dropEnd (· == '/') = t.dropEnd (· == '/') :=
  Text.dropEnd_append_of_all (by simp [List.all_replicate]) t

/-- A settled word ends with no slash. -/
theorem Settled.dropEnd_eq_self (h : Settled word) : word.dropEnd (· == '/') = word := by
  refine Text.dropEnd_eq_self fun c hc => ?_
  rw [← h 0] at hc
  exact Text.eq_false_of_getLast?_dropEnd (p := (· == '/')) hc

/-- A word is settled if it does not go on where a lead stands, nor ends with a slash. -/
theorem settled_of_forall (hlead : ∀ rest, dropLead (word ++ rest) = word ++ rest)
    (hlast : word.getLast? ≠ some '/') : Settled word := by
  intro k
  rw [hlead, dropEnd_append_slashes]
  refine Text.dropEnd_eq_self fun c hc => ?_
  simpa using fun hslash : c = '/' => hlast (hslash ▸ hc)

/-- The empty word is settled, although a slash behind it is a lead before it. -/
theorem settled_nil : Settled [] := by
  intro k
  cases k with
  | zero => rfl
  | succ k =>
    calc (dropLead ([] ++ List.replicate (k + 1) '/')).dropEnd (· == '/')
        = Text.dropEnd (· == '/') (List.replicate k '/') := rfl
      _ = Text.dropEnd (· == '/') [] := dropEnd_append_slashes [] k
      _ = [] := rfl

/-- Names of pages are settled. -/
theorem settled_name (p : Page) : Settled p.name := by
  refine settled_of_forall (fun rest => ?_) ?_
  · cases p <;> rfl
  · cases p <;> decide

/-- The words that lead home are settled. -/
theorem settled_of_mem_homeWords (h : word ∈ homeWords) : Settled word := by
  simp only [homeWords, List.mem_cons, List.not_mem_nil, or_false] at h
  obtain rfl | rfl | rfl := h
  · exact settled_nil
  · exact settled_of_forall (fun _ => rfl) (by decide)
  · exact settled_of_forall (fun _ => rfl) (by decide)

/-- **What is left of exactly the spellings of a settled word is the word.** -/
theorem dropEnd_dropLead_eq_iff (h : Settled word) :
    (dropLead t).dropEnd (· == '/') = word ↔ Spells word t := by
  constructor
  · rintro rfl
    obtain ⟨lead, hlead, ht⟩ := exists_dropLead t
    obtain ⟨ending, hending, hrest⟩ := Text.exists_dropEnd (· == '/') (dropLead t)
    have hslashes : ending = List.replicate ending.length '/' :=
      List.eq_replicate_of_mem (by simpa using hending)
    refine ⟨lead, hlead, ending.length, ?_⟩
    rw [List.append_assoc, ← hslashes, ← hrest]
    exact ht
  · rintro ⟨lead, hlead, k, rfl⟩
    simp only [leads, List.mem_cons, List.not_mem_nil, or_false] at hlead
    obtain rfl | hlead := hlead
    · exact h k
    · -- either lead goes, and what follows it stays
      have hdrop : dropLead (lead ++ word ++ List.replicate k '/') =
          word ++ List.replicate k '/' := by
        obtain rfl | rfl := hlead
        · rfl
        · rfl
      rw [hdrop, dropEnd_append_slashes, h.dropEnd_eq_self]

/-- **Exactly the spellings of a settled word are normalized to it.** -/
theorem normalize_eq_iff {raw : Text} (h : Settled word) :
    normalize raw = word ↔ Spells word raw.trim.lowerAscii :=
  dropEnd_dropLead_eq_iff h

/-- **No text spells two settled words.** -/
theorem Spells.unique {word' : Text} (hs : Spells word t) (h : Settled word) (h' : Settled word')
    (hs' : Spells word' t) : word = word' := by
  rw [← dropEnd_dropLead_eq_iff h] at hs
  rw [← dropEnd_dropLead_eq_iff h'] at hs'
  exact hs.symm.trans hs'

end Spelling

/-! ### Where a word leads -/

section Leads

variable {raw : Text}

/-- No trailing slash is left. -/
theorem getLast?_normalize_ne (raw : Text) : (normalize raw).getLast? ≠ some '/' := by
  intro h
  cases Text.eq_false_of_getLast?_dropEnd (p := (· == '/')) h

theorem name_notMem_homeWords (p : Page) : p.name ∉ homeWords := by
  cases p <;> decide

/-- **Where a word leads.** The words that lead home are the aliases of the home page and the empty
word, but for the slash: that one is never left. -/
theorem ofText_eq (raw : Text) :
    ofText raw = if normalize raw ∈ homeWords then .home
      else (Page.ofName? (normalize raw)).elim .unknown .page := by
  have hslash : normalize raw ≠ ['/'] := by
    intro h
    exact getLast?_normalize_ne raw (by rw [h]; rfl)
  have hhome : ((normalize raw).isEmpty || aliases.contains (normalize raw)) = true ↔
      normalize raw ∈ homeWords := by
    simp [aliases, homeWords, hslash]
  simp only [ofText, hhome]
  cases Page.ofName? (normalize raw) <;> rfl

theorem ofText_eq_home_iff : ofText raw = .home ↔ normalize raw ∈ homeWords := by
  rw [ofText_eq]
  split
  · next h => simp [h]
  · next h => cases Page.ofName? (normalize raw) <;> simp [h]

theorem ofText_eq_page_iff {p : Page} : ofText raw = .page p ↔ normalize raw = p.name := by
  rw [ofText_eq, ← Page.ofName?_eq_some_iff]
  split
  · next h =>
    -- a word that leads home is the name of no page
    constructor
    · intro hpage
      cases hpage
    · intro hname
      rw [Page.ofName?_eq_some_iff.1 hname] at h
      exact absurd h (name_notMem_homeWords p)
  · cases Page.ofName? (normalize raw) <;> simp

/-- The name of a page leads there. -/
theorem page?_ofText_name (p : Page) : (ofText p.name).page? = some p := by
  cases p <;> rfl

/-- An argument names a page exactly if it leads there by its name. -/
theorem namesPage_iff : namesPage raw = true ↔ ∃ p, ofText raw = .page p := by
  simp only [namesPage, Option.isSome_iff_exists, Page.ofName?_eq_some_iff, ofText_eq_page_iff]

section DoubledSlash

variable {lead rest : Text} {p : Page}

/-- One of two slashes is left, since not all that follows them are slashes. -/
theorem head?_normalize (hlead : lead ∈ ["./".toList, "/".toList])
    (h : raw.trim.lowerAscii = lead ++ '/' :: (p.name ++ rest)) :
    (normalize raw).head? = some '/' := by
  have hdrop : dropLead raw.trim.lowerAscii = '/' :: (p.name ++ rest) := by
    simp only [List.mem_cons, List.not_mem_nil, or_false] at hlead
    rw [h]
    obtain rfl | rfl := hlead <;> rfl
  have hprefix : normalize raw <+: '/' :: (p.name ++ rest) := by
    rw [normalize, hdrop, Text.dropEnd_eq_rdropWhile]
    exact List.rdropWhile_prefix _ _
  have hne : normalize raw ≠ [] := by
    rw [normalize, hdrop, Text.dropEnd_eq_rdropWhile, ne_eq, List.rdropWhile_eq_nil_iff]
    intro hslashes
    have hname : p.name.any (· != '/') = true := by cases p <;> rfl
    obtain ⟨c, hc, hletter⟩ := List.any_eq_true.1 hname
    rw [bne, hslashes c (List.mem_cons_of_mem _ (List.mem_append_left _ hc))] at hletter
    cases hletter
  obtain ⟨c, cs, hcons⟩ := List.exists_cons_of_ne_nil hne
  rw [hcons] at hprefix ⊢
  obtain ⟨rfl, -⟩ := List.cons_prefix_cons.1 hprefix
  rfl

/-- **A doubled slash before a name leads nowhere**, also where a dot stands before it. -/
theorem ofText_of_doubled_slash (hlead : lead ∈ ["./".toList, "/".toList])
    (h : raw.trim.lowerAscii = lead ++ '/' :: (p.name ++ rest)) : ofText raw = .unknown := by
  have hhead := head?_normalize hlead h
  cases htarget : ofText raw with
  | home =>
    have hhome := ofText_eq_home_iff.1 htarget
    simp only [homeWords, List.mem_cons, List.not_mem_nil, or_false] at hhome
    obtain h | h | h := hhome <;> rw [h] at hhead <;> cases hhead
  | page q =>
    rw [ofText_eq_page_iff.1 htarget] at hhead
    cases q <;> cases hhead
  | unknown => rfl

end DoubledSlash

-- the slashes behind the alias go, and the lead before it
example : ofText " /..// ".toList = .home := by decide

/-- **Where every argument leads.** To a page exactly if it spells the name of that page; to the
home page, by an alias, exactly if it spells a word that leads home; and nowhere if it spells
neither, as with a doubled slash before a name. No trailing slash is left of it. An argument names a
page exactly if it leads to one by its name. It spells the name of one page at most, and no word
that leads home beside it. -/
theorem ofText_of_spelling (raw : Text) :
    let t := raw.trim.lowerAscii
    (∀ p, ofText raw = .page p ↔ Spells p.name t) ∧
      (ofText raw = .home ↔ ∃ word ∈ homeWords, Spells word t) ∧
      (ofText raw = .unknown ↔
        (∀ p : Page, ¬ Spells p.name t) ∧ ∀ word ∈ homeWords, ¬ Spells word t) ∧
      (∀ lead ∈ ["./".toList, "/".toList], ∀ (p : Page) (rest : Text),
        t = lead ++ '/' :: (p.name ++ rest) → ofText raw = .unknown) ∧
      (normalize raw).getLast? ≠ some '/' ∧
      (namesPage raw = true ↔ ∃ p, ofText raw = .page p) ∧
      (∀ p q : Page, Spells p.name t → Spells q.name t → p = q) ∧
      ∀ p : Page, Spells p.name t → ∀ word ∈ homeWords, ¬ Spells word t := by
  intro t
  have hpage : ∀ p, ofText raw = .page p ↔ Spells p.name t := fun p =>
    ofText_eq_page_iff.trans (normalize_eq_iff (settled_name p))
  have hhome : ofText raw = .home ↔ ∃ word ∈ homeWords, Spells word t := by
    rw [ofText_eq_home_iff]
    constructor
    · intro h
      exact ⟨_, h, (normalize_eq_iff (settled_of_mem_homeWords h)).1 rfl⟩
    · rintro ⟨word, hword, hspells⟩
      rwa [(normalize_eq_iff (settled_of_mem_homeWords hword)).2 hspells]
  refine ⟨hpage, hhome, ?_, fun lead hlead p rest => ofText_of_doubled_slash hlead,
    getLast?_normalize_ne raw, namesPage_iff, ?_, ?_⟩
  · constructor
    · intro hunknown
      have hnohome : ¬ ∃ word ∈ homeWords, Spells word t := by simp [← hhome, hunknown]
      exact ⟨fun p => by simp [← hpage, hunknown], by simpa using hnohome⟩
    · rintro ⟨hnopage, hnohome⟩
      cases htarget : ofText raw with
      | home => exact absurd (hhome.1 htarget) (by simpa using hnohome)
      | page p => exact absurd ((hpage p).1 htarget) (hnopage p)
      | unknown => rfl
  · intro p q hp hq
    have hname : p.name = q.name := hp.unique (settled_name p) (settled_name q) hq
    exact Option.some.inj ((Page.ofName?_eq_some_iff.2 rfl).symm.trans
      (Page.ofName?_eq_some_iff.2 hname))
  · intro p hp word hword hspells
    obtain rfl : p.name = word :=
      hp.unique (settled_name p) (settled_of_mem_homeWords hword) hspells
    exact name_notMem_homeWords p hword

end Leads

end Target

end PageShell
