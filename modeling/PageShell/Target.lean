import PageShell.Page
import PageShell.Text.Blank

/-!
# Targets of `cd`

The argument of `cd` names a page, asks for the home page in one of several
ways, or means nothing.

* `Target.normalize` — an argument without what does not count;
* `Target.ofText` — where an argument leads.
-/

namespace PageShell

/-- Where an argument of `cd` leads. -/
inductive Target where
  /-- to the home page, by an alias -/
  | home
  /-- to the page it names -/
  | page (p : Page)
  /-- nowhere -/
  | unknown
  deriving DecidableEq, Repr

namespace Target

/-- The aliases of the home page. -/
def aliases : List Text :=
  ["~".toList, "/".toList, "..".toList]

/-- A text without one leading `./` or `/`. Further slashes stay. -/
def dropLead : Text → Text
  | '.' :: '/' :: rest => rest
  | '/' :: rest => rest
  | t => t

/-- **An argument without what does not count**: blanks around it, the case of ASCII letters, one
leading `./` or `/`, and trailing slashes. -/
def normalize (raw : Text) : Text :=
  (dropLead raw.trim.lowerAscii).dropEnd (· == '/')

/-- Where an argument leads. The empty argument leads home. -/
def ofText (raw : Text) : Target :=
  let name := normalize raw
  if name.isEmpty || aliases.contains name then home
  else
    match Page.ofName? name with
    | some p => page p
    | none => unknown

/-- The page that a target leads to. -/
def page? : Target → Option Page
  | home => some .home
  | page p => some p
  | unknown => none

/-- Whether an argument names a page. -/
def namesPage (raw : Text) : Bool :=
  (Page.ofName? (normalize raw)).isSome

end Target

end PageShell
