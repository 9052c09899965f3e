import PageShell.Builtin
import PageShell.Target

/-!
# Completion

The Tab key completes the word left of the caret: a command, or a target when
the command is `cd`. What is left of the word is kept, what is right of the
caret is lost, and nothing happens where blanks follow the caret.

* `commonPrefix` — the longest beginning that texts share;
* `Completion.resolve` — completes a fragment from candidates;
* `Completion.ofLine` — completes the word at a caret.
-/

namespace PageShell

/-- The longest beginning that two texts share. -/
def sharedPrefix : Text → Text → Text
  | a :: as, b :: bs => if a = b then a :: sharedPrefix as bs else []
  | _, _ => []

/-- The longest beginning that all the texts of a list share; the empty text for the empty list. -/
def commonPrefix : List Text → Text
  | [] => []
  | t :: ts => ts.foldl sharedPrefix t

/-- What Tab does to the input. -/
inductive Completion where
  /-- nothing -/
  | unchanged
  /-- it puts another line there, with the caret at its end -/
  | replaced (line : Text) (caret : Nat)
  /-- it shows these candidates -/
  | suggestions (candidates : List Text)
  deriving DecidableEq, Repr

namespace Completion

/-- Puts a line there, with the caret at its end. -/
def put (line : Text) : Completion :=
  replaced line line.length

/-- **Completes a fragment.** The candidates that begin with it, in any case, are its matches. One
match is put in its place with a space after it; several are put there as far as they agree,
and shown when that is no further than the fragment itself. -/
def resolve (lead fragment : Text) (candidates : List Text) : Completion :=
  let lowered := fragment.lower
  match candidates.filter lowered.isPrefixOf with
  | [] => unchanged
  | [only] => put (lead ++ only ++ [' '])
  | found =>
    if lowered.length < (commonPrefix found).length then put (lead ++ commonPrefix found)
    else suggestions found

/-- The candidates after `cd`: the pages and the aliases of the home page. -/
def targetCandidates : List Text :=
  Page.all.map Page.name ++ Target.aliases

/-- The candidates at the front of a line: the commands. -/
def commandCandidates : List Text :=
  Builtin.all.map Builtin.name

/-- Whether two characters spell `cd` in any case. -/
def spellsCd (c d : Char) : Bool :=
  c.toLower == 'c' && d.toLower == 'd'

/-- Splits blanks, the word `cd`, blanks and a fragment into what is kept and the fragment. -/
def splitTarget? (left : Text) : Option (Text × Text) :=
  match left.trimStart with
  | c :: d :: rest =>
    let fragment := Text.trimStart rest
    if spellsCd c d && fragment.length < rest.length && !fragment.any isBlank then
      some (left.take (left.length - fragment.length), fragment)
    else none
  | _ => none

/-- Completes the last word of a text: a target after `cd`, else a command if it is the only
word. -/
def ofLeft (left : Text) : Completion :=
  match splitTarget? left with
  | some (lead, fragment) => resolve lead fragment targetCandidates
  | none =>
    let fragment := left.trimStart
    if fragment.any isBlank then unchanged
    else resolve (left.takeWhile isBlank) fragment commandCandidates

/-- **Completes the word at a caret.** A caret past the end counts as one at the end. -/
def ofLine (line : Text) (caret : Nat) : Completion :=
  if (line.drop caret).any isBlank then unchanged else ofLeft (line.take caret)

end Completion

end PageShell
