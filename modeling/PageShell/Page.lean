import PageShell.Text.Lower

/-!
# Pages

A site has five pages. A page has a name, by which `cd` reaches it, and a file
it is served from unless the settings say otherwise.

* `Page.ofName?` — the page of exactly this name;
* `Page.ofName?_eq_some_iff` — names tell pages apart;
* `Page.ofPath` — the page that a path shows, judged by its file name alone.
-/

namespace PageShell

/-- A page of the site. -/
inductive Page where
  | home
  | about
  | projects
  | certs
  | contact
  deriving DecidableEq, Repr

namespace Page

/-- Every page, in listing order. -/
def all : List Page :=
  [home, about, projects, certs, contact]

/-- The name of a page, as typed after `cd`. -/
def name : Page → Text
  | home => "home".toList
  | about => "about".toList
  | projects => "projects".toList
  | certs => "certs".toList
  | contact => "contact".toList

/-- The page of exactly this name. -/
def ofName? (n : Text) : Option Page :=
  all.find? (·.name == n)

/-- A name belongs to one page at most, and every page has one. -/
theorem ofName?_eq_some_iff {n : Text} {p : Page} : ofName? n = some p ↔ n = p.name := by
  constructor
  · intro h
    have hp := List.find?_some h
    exact (by simpa using hp : p.name = n).symm
  · rintro rfl
    cases p <;> rfl

/-- The file of the home page. -/
def homeFile : Text :=
  "index.html".toList

/-- The file a page is served from by default. -/
def defaultFile : Page → Text
  | home => homeFile
  | about => "about.html".toList
  | projects => "projects.html".toList
  | certs => "certs.html".toList
  | contact => "contact.html".toList

/-- What follows the last slash of a path: the whole path when it has none. -/
def fileOfPath (path : Text) : Text :=
  (path.reverse.takeWhile (· != '/')).reverse

/-- The part of a file name before its query string or fragment. -/
def dropQuery (file : Text) : Text :=
  file.takeWhile fun c => c != '?' && c != '#'

/-- **The page that a path shows.** Only what follows the last slash counts, up to a `?` or `#` in
it, in any case of its ASCII letters and without the first `.html` in it. What is then the name of
no page shows the home page. -/
def ofPath (path : Text) : Page :=
  let file := fileOfPath path
  let plain := (dropQuery (if file.isEmpty then homeFile else file)).lowerAscii
  if plain = homeFile then home
  else (ofName? (Text.eraseFirst ".html".toList plain)).getD home

end Page

end PageShell
