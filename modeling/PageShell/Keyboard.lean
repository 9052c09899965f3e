/-!
# Keys

The shell knows a dozen keys. A terminal reports more: it tells apart presses,
repeats and releases, and the keys that are held down meanwhile.

* `Key` — a key as the shell understands it;
* `Keyboard.Event`, `Keyboard.Event.key?` — an event of a terminal, and the key
  it means, if any.
-/

namespace PageShell

/-- A key as the shell understands it. -/
inductive Key where
  /-- submits the line -/
  | enter
  /-- completes the word at the caret -/
  | tab
  /-- recalls an older line -/
  | up
  /-- recalls a newer line -/
  | down
  /-- moves the caret to the left -/
  | left
  /-- moves the caret to the right -/
  | right
  /-- moves the caret to the start of the line -/
  | lineStart
  /-- moves the caret to the end of the line -/
  | lineEnd
  /-- deletes the character before the caret -/
  | backspace
  /-- deletes the character under the caret -/
  | delete
  /-- types a character -/
  | char (c : Char)
  /-- changes the theme -/
  | toggleTheme
  /-- leaves the shell -/
  | quit
  deriving DecidableEq, Repr

namespace Keyboard

/-- A key of a terminal's keyboard. -/
inductive Code where
  | char (c : Char)
  | function (n : Nat)
  | backspace
  | enter
  | left
  | right
  | up
  | down
  | lineStart
  | lineEnd
  | tab
  | delete
  | escape
  /-- any key that the shell has no use for -/
  | other
  deriving DecidableEq, Repr

/-- What happened to a key. -/
inductive Action where
  | press
  | repeated
  | release
  deriving DecidableEq, Repr

/-- An event of the keyboard. -/
structure Event where
  /-- the key -/
  code : Code
  /-- what happened to it -/
  action : Action
  /-- whether the control key is held down; the other modifiers do not matter -/
  control : Bool
  deriving DecidableEq, Repr

/-- The key that a keyboard's key means, with the control key held down or not. -/
def Code.key? (control : Bool) : Code → Option Key
  | char c =>
    if control then
      if c = 'c' ∨ c = 'd' then some .quit
      else if c = 't' then some .toggleTheme
      else none
    else some (.char c)
  | escape => some .quit
  | function n => if n = 2 then some .toggleTheme else none
  | enter => some .enter
  | tab => some .tab
  | up => some .up
  | down => some .down
  | left => some .left
  | right => some .right
  | lineStart => some .lineStart
  | lineEnd => some .lineEnd
  | backspace => some .backspace
  | delete => some .delete
  | other => none

/-- **The key that an event means.** Releases mean nothing. -/
def Event.key? (e : Event) : Option Key :=
  if e.action = .release then none else e.code.key? e.control

end Keyboard

end PageShell
