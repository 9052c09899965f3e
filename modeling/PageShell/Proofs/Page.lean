import Mathlib.Data.List.TakeWhile
import PageShell.Page

/-!
# The pages that paths show

A path is judged by its file: what follows its last slash. Two things are not
as one might wish. A query string is cut off the file, and the file is found
first, so that a slash in the query makes a file of what follows it. And
`.html` is taken out of a file name wherever it stands.

* `Page.IsFileOf`, `Page.fileOfPath_eq_iff` — the file of a path;
* `Page.ofPath_eq` — a path is judged by its file, without special cases;
* `Page.ofPath_append_query` — **what a query string changes**;
* `Page.query_chooses_page` — a query string that leads to another page;
* `Text.eraseFirst_eq_iff` — where a pattern is taken out from;
* `Page.ofPath_eq_iff_file` — **which files belong to a page**;
* `Page.split_name_is_about` — a file that is taken for another one.
-/

namespace PageShell

namespace Text

/-! ### Taking a pattern out of a text -/

section EraseFirst

variable {d : Char} {pattern t : Text}

/-- A text without the first character of the pattern stays. -/
theorem eraseFirst_of_notMem (h : d ∉ t) : eraseFirst (d :: pattern) t = t := by
  induction t with
  | nil => rfl
  | cons c cs ih =>
    rw [List.mem_cons, not_or] at h
    have hno : ¬ (d :: pattern).isPrefixOf (c :: cs) = true := by
      rw [List.isPrefixOf_iff_prefix, List.cons_prefix_cons]
      exact fun hc => h.1 hc.1
    rw [eraseFirst, if_neg hno, ih h.2]

/-- The pattern is taken out where it stands first. -/
theorem eraseFirst_append (before after : Text) (h : d ∉ before) :
    eraseFirst (d :: pattern) (before ++ d :: pattern ++ after) = before ++ after := by
  induction before with
  | nil =>
    have hyes : (d :: pattern).isPrefixOf (d :: (pattern ++ after)) = true :=
      List.isPrefixOf_iff_prefix.2 ⟨after, rfl⟩
    rw [List.nil_append, List.cons_append, eraseFirst, if_pos hyes, List.length_cons,
      List.drop_succ_cons, List.drop_left]
    rfl
  | cons c cs ih =>
    rw [List.mem_cons, not_or] at h
    have hno : ¬ (d :: pattern).isPrefixOf (c :: (cs ++ d :: pattern ++ after)) = true := by
      rw [List.isPrefixOf_iff_prefix, List.cons_prefix_cons]
      exact fun hc => h.1 hc.1
    rw [List.cons_append, List.cons_append, eraseFirst, if_neg hno, ih h.2]
    rfl

/-- Nothing is taken out, or the pattern is. -/
theorem eraseFirst_cases (pattern t : Text) :
    eraseFirst pattern t = t ∨
      ∃ before after, t = before ++ pattern ++ after ∧ eraseFirst pattern t = before ++ after := by
  induction t with
  | nil => exact .inl rfl
  | cons c cs ih =>
    rw [eraseFirst]
    split
    · next h =>
      obtain ⟨after, hafter⟩ := List.isPrefixOf_iff_prefix.1 h
      refine .inr ⟨[], after, hafter.symm, ?_⟩
      rw [← hafter, List.drop_left]
      rfl
    · obtain hkept | ⟨before, after, ht, herased⟩ := ih
      · exact .inl (by rw [hkept])
      · exact .inr ⟨c :: before, after, by rw [ht]; rfl, by rw [herased]; rfl⟩

/-- **What a word without the first character of a pattern comes from**: itself, or the word with
the pattern put into it somewhere. -/
theorem eraseFirst_eq_iff {word : Text} (h : d ∉ word) :
    eraseFirst (d :: pattern) t = word ↔
      t = word ∨ ∃ before after, word = before ++ after ∧ t = before ++ d :: pattern ++ after := by
  constructor
  · rintro rfl
    obtain hkept | ⟨before, after, ht, herased⟩ := eraseFirst_cases (d :: pattern) t
    · exact .inl hkept.symm
    · exact .inr ⟨before, after, herased, ht⟩
  · rintro (rfl | ⟨before, after, rfl, rfl⟩)
    · exact eraseFirst_of_notMem h
    · exact eraseFirst_append before after fun hmem => h (List.mem_append_left _ hmem)

end EraseFirst

end Text

namespace Page

/-! ### The file of a path -/

/-- **The file of a path**: what follows its last slash, or all of it when it has none. -/
def IsFileOf (file path : Text) : Prop :=
  '/' ∉ file ∧ (path = file ∨ ∃ folder, path = folder ++ '/' :: file)

section File

variable {path file query : Text}

/-- A path has a file. -/
theorem exists_isFileOf (path : Text) : ∃ file, IsFileOf file path := by
  by_cases hslash : '/' ∈ path
  · -- the last slash of a path is the first one of the reversed path
    obtain ⟨front, back, hsplit, hfront⟩ :=
      List.eq_append_cons_of_mem (List.mem_reverse.2 hslash)
    refine ⟨front.reverse, by simpa using hfront, .inr ⟨back.reverse, ?_⟩⟩
    rw [← List.reverse_reverse path, hsplit]
    simp
  · exact ⟨path, hslash, .inl rfl⟩

/-- What is read off the end of a path, up to a slash, is its file. -/
theorem fileOfPath_of_isFileOf (h : IsFileOf file path) : fileOfPath path = file := by
  have hkept : ∀ c ∈ file.reverse, (c != '/') = true := by
    intro c hc
    simpa using fun hslash : c = '/' => h.1 (hslash ▸ List.mem_reverse.1 hc)
  obtain ⟨-, rfl | ⟨folder, rfl⟩⟩ := h
  · rw [fileOfPath, List.takeWhile_eq_self_iff.2 hkept, List.reverse_reverse]
  · rw [fileOfPath, List.reverse_append, List.reverse_cons, List.append_assoc,
      List.takeWhile_append_of_pos hkept]
    simp

/-- **Every path has exactly one file.** -/
theorem fileOfPath_eq_iff : fileOfPath path = file ↔ IsFileOf file path := by
  refine ⟨?_, fileOfPath_of_isFileOf⟩
  rintro rfl
  obtain ⟨file, hfile⟩ := exists_isFileOf path
  rwa [fileOfPath_of_isFileOf hfile]

/-- What is put behind a path is put behind its file, if it has no slash. -/
theorem fileOfPath_append_of_notMem (h : '/' ∉ query) :
    fileOfPath (path ++ query) = fileOfPath path ++ query := by
  obtain ⟨hslash, hpath⟩ : IsFileOf (fileOfPath path) path := fileOfPath_eq_iff.1 rfl
  refine fileOfPath_eq_iff.2 ⟨by simp [hslash, h], ?_⟩
  obtain hpath | ⟨folder, hpath⟩ := hpath
  · exact .inl (by rw [← hpath])
  · refine .inr ⟨folder, ?_⟩
    rw [← List.cons_append, ← List.append_assoc, ← hpath]

/-- What is put behind a path has the file, if it has a slash. -/
theorem fileOfPath_append_of_mem (h : '/' ∈ query) :
    fileOfPath (path ++ query) = fileOfPath query := by
  obtain ⟨hslash, hquery⟩ : IsFileOf (fileOfPath query) query := fileOfPath_eq_iff.1 rfl
  refine fileOfPath_eq_iff.2 ⟨hslash, .inr ?_⟩
  obtain hquery | ⟨folder, hquery⟩ := hquery
  · rw [hquery] at h
    exact absurd h hslash
  · refine ⟨path ++ folder, ?_⟩
    rw [List.append_assoc, ← hquery]

/-- Characters that are neither `?` nor `#` stay. -/
theorem forall_kept (hq : '?' ∉ file) (hf : '#' ∉ file) :
    ∀ c ∈ file, (c != '?' && c != '#') = true := by
  intro c hc
  have hc₁ : c ≠ '?' := fun h => hq (h ▸ hc)
  have hc₂ : c ≠ '#' := fun h => hf (h ▸ hc)
  simp [hc₁, hc₂]

/-- A file without query string and fragment stays. -/
theorem dropQuery_of_notMem (hq : '?' ∉ file) (hf : '#' ∉ file) : dropQuery file = file :=
  List.takeWhile_eq_self_iff.2 (forall_kept hq hf)

/-- A query string goes, and so does a fragment. -/
theorem dropQuery_append (hq : '?' ∉ file) (hf : '#' ∉ file)
    (hquery : query.head? = some '?' ∨ query.head? = some '#') :
    dropQuery (file ++ query) = file := by
  rw [dropQuery, List.takeWhile_append_of_pos (forall_kept hq hf)]
  obtain h | h := hquery
  · obtain ⟨rest, rfl⟩ := List.head?_eq_some_iff.1 h
    simp
  · obtain ⟨rest, rfl⟩ := List.head?_eq_some_iff.1 h
    simp

/-- The file of a path has no characters that the path has not. -/
theorem mem_of_mem_fileOfPath {c : Char} (h : c ∈ fileOfPath path) : c ∈ path :=
  List.mem_reverse.1 ((List.takeWhile_sublist _).mem (List.mem_reverse.1 h))

end File

/-! ### Judging a file -/

/-- **A path is judged by its file.** Neither the empty file nor the file of the home page need be
treated apart: no page has the name that is left of them. -/
theorem ofPath_eq (path : Text) :
    ofPath path =
      (ofName? (Text.eraseFirst ".html".toList (dropQuery (fileOfPath path)).lowerAscii)).getD
        home := by
  cases hfile : fileOfPath path with
  | nil =>
    simp only [ofPath, hfile]
    rfl
  | cons c cs =>
    simp only [ofPath, hfile, List.isEmpty_cons, Bool.false_eq_true, if_false]
    split
    · next hhome =>
      rw [hhome]
      rfl
    · rfl

section Query

variable {path query : Text}

/-- A path that ends on a file of its own is judged by that. -/
theorem ofPath_append_of_mem (h : '/' ∈ query) : ofPath (path ++ query) = ofPath query := by
  rw [ofPath_eq, ofPath_eq, fileOfPath_append_of_mem h]

/-- A query string without a slash does not count, and neither does a fragment. -/
theorem ofPath_append_of_notMem (hq : '?' ∉ path) (hf : '#' ∉ path)
    (hquery : query.head? = some '?' ∨ query.head? = some '#') (h : '/' ∉ query) :
    ofPath (path ++ query) = ofPath path := by
  have hq' : '?' ∉ fileOfPath path := fun hmem => hq (mem_of_mem_fileOfPath hmem)
  have hf' : '#' ∉ fileOfPath path := fun hmem => hf (mem_of_mem_fileOfPath hmem)
  rw [ofPath_eq, ofPath_eq, fileOfPath_append_of_notMem h, dropQuery_append hq' hf' hquery,
    dropQuery_of_notMem hq' hf']

/-- **What a query string changes**, or a fragment. Without a slash, nothing. With one, the path
before it does not count: the page is the one of what follows the last slash. So the page stays
what it was exactly if there is no slash, or by coincidence. -/
theorem ofPath_append_query (hq : '?' ∉ path) (hf : '#' ∉ path)
    (hquery : query.head? = some '?' ∨ query.head? = some '#') :
    ofPath (path ++ query) = (if '/' ∈ query then ofPath query else ofPath path) ∧
      (ofPath (path ++ query) = ofPath path ↔ '/' ∈ query → ofPath query = ofPath path) := by
  by_cases h : '/' ∈ query
  · simp [h, ofPath_append_of_mem h]
  · simp [h, ofPath_append_of_notMem hq hf hquery h]

end Query

/-- A query string without a slash. -/
theorem ofPath_about_with_query :
    ofPath ("/deep/About.HTML".toList ++ "?ref=nav#top".toList) = .about := by
  have hq : '?' ∉ "/deep/About.HTML".toList := by decide
  have hf : '#' ∉ "/deep/About.HTML".toList := by decide
  have hquery : "?ref=nav#top".toList.head? = some '?' := rfl
  obtain ⟨hpage, -⟩ := ofPath_append_query hq hf (.inl hquery)
  rw [hpage]
  decide

/-- **A query string that leads to another page**: the address of the page to go on with. -/
theorem query_chooses_page :
    let path := "/about.html".toList
    let query := "?next=/contact.html".toList
    '?' ∉ path ∧ '#' ∉ path ∧ query.head? = some '?' ∧
      ofPath path = .about ∧ ofPath (path ++ query) = .contact := by
  decide

/-! ### The files of a page -/

/-- **A name that `.html` is put into**: before it, inside it or behind it. -/
def Interrupted (name file : Text) : Prop :=
  ∃ before after, name = before ++ after ∧ file = before ++ ".html".toList ++ after

theorem dot_notMem_name (p : Page) : '.' ∉ p.name := by
  cases p <;> decide

section Files

variable {path file : Text}

/-- **Which files belong to a page** other than the home page: its name, and its name with `.html`
put into it. -/
theorem ofPath_eq_iff_interrupted (hfile : IsFileOf file path) (hq : '?' ∉ path) (hf : '#' ∉ path)
    {p : Page} (hp : p ≠ home) :
    ofPath path = p ↔ file.lowerAscii = p.name ∨ Interrupted p.name file.lowerAscii := by
  have hplain : dropQuery (fileOfPath path) = fileOfPath path :=
    dropQuery_of_notMem (fun hmem => hq (mem_of_mem_fileOfPath hmem))
      fun hmem => hf (mem_of_mem_fileOfPath hmem)
  have hfound : ∀ name, (ofName? name).getD home = p ↔ name = p.name := by
    intro name
    rw [← ofName?_eq_some_iff]
    cases ofName? name with
    | none => simp [hp.symm]
    | some q => simp
  rw [ofPath_eq, hplain, fileOfPath_eq_iff.2 hfile, hfound]
  exact Text.eraseFirst_eq_iff (dot_notMem_name p)

/-- `.html` behind a name is a case of `.html` put into it. -/
theorem interrupted_append_html (name : Text) : Interrupted name (name ++ ".html".toList) :=
  ⟨name, [], (List.append_nil name).symm, (List.append_nil _).symm⟩

/-- `.html` stands in a name without dots where it was put. -/
theorem eq_nil_of_append_html {before after : Text} (hdot : '.' ∉ before ++ after)
    (h : before ++ ".html".toList ++ after = before ++ after ++ ".html".toList) : after = [] := by
  rw [List.append_assoc, List.append_assoc, List.append_cancel_left_eq] at h
  cases after with
  | nil => rfl
  | cons c cs =>
    obtain rfl : '.' = c := (List.cons.inj h).1
    simp at hdot

/-- **Which files belong to a page** other than the home page: its name, and its name with `.html`
put into it; all other files belong to the home page. So the files of a page are its name and its
name with `.html` behind it exactly as far as `.html` is put nowhere else. -/
theorem ofPath_eq_iff_file (hfile : IsFileOf file path) (hq : '?' ∉ path) (hf : '#' ∉ path) :
    (∀ p : Page, p ≠ home →
        (ofPath path = p ↔ file.lowerAscii = p.name ∨ Interrupted p.name file.lowerAscii)) ∧
      ((∀ p : Page, p ≠ home →
          file.lowerAscii ≠ p.name ∧ ¬ Interrupted p.name file.lowerAscii) →
        ofPath path = home) ∧
      ∀ p : Page, p ≠ home →
        ((ofPath path = p ↔
            file.lowerAscii = p.name ∨ file.lowerAscii = p.name ++ ".html".toList) ↔
          ∀ before after, p.name = before ++ after →
            file.lowerAscii = before ++ ".html".toList ++ after → after = []) := by
  have hpage : ∀ p : Page, p ≠ home →
      (ofPath path = p ↔ file.lowerAscii = p.name ∨ Interrupted p.name file.lowerAscii) :=
    fun p hp => ofPath_eq_iff_interrupted hfile hq hf hp
  refine ⟨hpage, fun hnone => ?_, fun p hp => ⟨fun hclean before after hname hput => ?_, ?_⟩⟩
  · by_contra hother
    obtain ⟨hname, hput⟩ := hnone _ hother
    obtain h | h := (hpage _ hother).1 rfl
    · exact hname h
    · exact hput h
  · have hdot := dot_notMem_name p
    rw [hname] at hdot
    obtain h | h := hclean.1 ((hpage p hp).2 (.inr ⟨before, after, hname, hput⟩))
    · -- a name has no dot
      rw [← hname, ← h, hput] at hdot
      simp at hdot
    · rw [hput, hname] at h
      exact eq_nil_of_append_html hdot h
  · intro hbehind
    rw [hpage p hp]
    refine or_congr_right ⟨?_, ?_⟩
    · rintro ⟨before, after, hname, hput⟩
      obtain rfl := hbehind before after hname hput
      rw [hput, hname, List.append_nil, List.append_nil]
    · intro h
      rw [h]
      exact interrupted_append_html p.name

end Files

/-- A file in a deep folder, in capitals. -/
theorem ofPath_certs_in_folder :
    let path := "/deep/nested.html/CERTS.Html".toList
    IsFileOf "CERTS.Html".toList path ∧ '?' ∉ path ∧ '#' ∉ path ∧ ofPath path = .certs := by
  intro path
  have hfile : IsFileOf "CERTS.Html".toList path :=
    ⟨by decide, .inr ⟨"/deep/nested.html".toList, rfl⟩⟩
  have hq : '?' ∉ path := by decide
  have hf : '#' ∉ path := by decide
  obtain ⟨hpage, -, -⟩ := ofPath_eq_iff_file hfile hq hf
  exact ⟨hfile, hq, hf, (hpage .certs (by decide)).2 (.inr ⟨"certs".toList, [], rfl, rfl⟩)⟩

/-- **A file that is taken for another one**: neither the name of a page nor that with `.html`
behind it. -/
theorem split_name_is_about :
    let file : Text := "ab.htmlout".toList
    '?' ∉ file ∧ '#' ∉ file ∧ IsFileOf file file ∧ file.lowerAscii ≠ about.name ∧
      file.lowerAscii ≠ about.name ++ ".html".toList ∧ ofPath file = .about := by
  exact ⟨by decide, by decide, ⟨by decide, .inl rfl⟩, by decide, by decide, by decide⟩

end Page

end PageShell
