import PageShell.Registry

/-!
# Pages and their files

The file of a page leads back to that page unless a page that is listed before
it has the same file. It always leads to some page.

* `Page.listedBefore` — the pages before a page;
* `Registry.Finds` — no page before this one has its file;
* `Registry.pageOf?_destination_iff` — when a file leads back;
* `Registry.getD_pageOf?_destination_iff` — that it leads to this page or to another one.
-/

namespace PageShell

namespace Page

/-- The pages that are listed before a page. -/
def listedBefore (p : Page) : List Page :=
  all.takeWhile (· != p)

/-- Every page is listed, between those before it and those after it. -/
theorem all_eq (p : Page) : ∃ after, all = p.listedBefore ++ p :: after := by
  cases p <;> exact ⟨_, rfl⟩

theorem ne_of_mem_listedBefore {p q : Page} (h : q ∈ p.listedBefore) : q ≠ p := by
  rintro rfl
  have hall := List.all_takeWhile (p := (· != q)) (l := all)
  simpa using List.all_eq_true.1 hall q h

end Page

namespace Registry

/-- **No page that is listed before this one is served from its file.** -/
def Finds (r : Registry) (p : Page) : Prop :=
  ∀ q ∈ p.listedBefore, r.destination q ≠ r.destination p

instance (r : Registry) (p : Page) : Decidable (r.Finds p) :=
  inferInstanceAs (Decidable (∀ q ∈ p.listedBefore, r.destination q ≠ r.destination p))

/-- **When the file of a page leads back to it.** -/
theorem pageOf?_destination_iff {r : Registry} {p : Page} :
    r.pageOf? (r.destination p) = some p ↔ r.Finds p := by
  obtain ⟨after, hall⟩ := p.all_eq
  rw [pageOf?, hall, List.find?_append, List.find?_cons_of_pos (by simp)]
  constructor
  · intro hsome q hq heq
    cases hfound : p.listedBefore.find? (r.destination · == r.destination p) with
    | none => exact absurd (List.find?_eq_none.1 hfound q hq) (by simp [heq])
    | some earlier =>
      -- the search ends at an earlier page, and that is another one
      rw [hfound] at hsome
      obtain rfl : earlier = p := Option.some.inj hsome
      exact absurd rfl (Page.ne_of_mem_listedBefore (List.mem_of_find?_eq_some hfound))
  · intro hfinds
    have hnone : p.listedBefore.find? (r.destination · == r.destination p) = none := by
      rw [List.find?_eq_none]
      intro q hq
      simpa using hfinds q hq
    rw [hnone]
    rfl

/-- The file of a page always leads somewhere, and to this page only if it leads back. -/
theorem getD_pageOf?_destination_iff {r : Registry} {p : Page} (fallback : Page) :
    (r.pageOf? (r.destination p)).getD fallback = p ↔ r.Finds p := by
  rw [← pageOf?_destination_iff]
  have hsome : (r.pageOf? (r.destination p)).isSome = true := by
    rw [pageOf?, List.find?_isSome]
    obtain ⟨after, hall⟩ := p.all_eq
    exact ⟨p, by simp [hall], by simp⟩
  obtain ⟨q, hq⟩ := Option.isSome_iff_exists.1 hsome
  rw [hq, Option.getD_some, Option.some.injEq]

end Registry

end PageShell
