import PageShell.Settings.Basic

/-!
# The registry of pages

The registry knows the file of every page, and finds the page of a file again.

* `Registry.ofSettings` — the files that the settings choose;
* `Registry.pageOf?` — the first page that is served from a file.
-/

namespace PageShell

/-- The files that the pages are served from. -/
structure Registry where
  /-- the file of a page -/
  destination : Page → Text

namespace Registry

/-- The registry of the files that the settings choose. -/
def ofSettings (s : Settings) : Registry :=
  ⟨s.destination⟩

/-- **The page of a file**: of several pages with one file, the first in listing order. -/
def pageOf? (r : Registry) (destination : Text) : Option Page :=
  Page.all.find? (r.destination · == destination)

/-- What `ls` prints: the pages, and how to get there. -/
def listing : List Text :=
  [List.intercalate "  ".toList (Page.all.map (·.name ++ ['/'])), "Use: cd <dir>".toList]

end Registry

end PageShell
