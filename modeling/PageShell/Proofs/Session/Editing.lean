import Mathlib.Data.List.Basic
import PageShell.Proofs.Session.Turns
import PageShell.Text.Offset

/-!
# Editing a line

To edit a line is to work at one place of it. So a line with its caret is best
seen as two parts, what stands before the caret and what stands after it: each
key changes them only where they meet. The session counts characters instead,
and the line itself is changed at byte offsets; all three agree.

* `Edit` — the keys that edit a line;
* `Editor`, `Editor.edit` — a line in two parts, and what a key makes of it;
* `Session.press_holding`, `Session.answerAll_holding` — a session does what its
  editor does, at one key and at several;
* `Splice`, `Session.splice?` — the change of the bytes that a key comes down to;
* `Session.editing_in_parts` — **the two parts, the session and the bytes agree**
  after any keys of this kind.
-/

namespace PageShell

/-- A key that edits the line, or moves the caret within it. -/
inductive Edit where
  | char (c : Char)
  | backspace
  | delete
  | left
  | right
  | lineStart
  | lineEnd
  deriving DecidableEq, Repr

/-- The key itself. -/
def Edit.key : Edit → Key
  | char c => .char c
  | backspace => .backspace
  | delete => .delete
  | left => .left
  | right => .right
  | lineStart => .lineStart
  | lineEnd => .lineEnd

/-! ## Lines in two parts -/

/-- **A line in two parts**, with the caret between them. -/
structure Editor where
  /-- what stands before the caret -/
  before : Text
  /-- what stands after the caret -/
  after : Text
  deriving DecidableEq, Repr

namespace Editor

/-- The line that is cut into two parts at a caret. -/
def ofLine (line : Text) (caret : Nat) : Editor :=
  ⟨line.take caret, line.drop caret⟩

/-- The whole line. -/
def text (ed : Editor) : Text :=
  ed.before ++ ed.after

/-- **What a key makes of the two parts.** A character that is typed goes to the end of the first
part, unless the line has two hundred characters already. A deletion takes the last character of the
first part, or the first one of the second. The caret moves when one character, or all of them, go
from one part to the other. Where there is nothing to take, both parts stay. -/
def edit (ed : Editor) : Edit → Editor
  | .char c => if 200 ≤ ed.text.length then ed else ⟨ed.before ++ [c], ed.after⟩
  | .backspace => ⟨ed.before.dropLast, ed.after⟩
  | .delete => ⟨ed.before, ed.after.tail⟩
  | .left => ⟨ed.before.dropLast, ed.before.getLast?.toList ++ ed.after⟩
  | .right => ⟨ed.before ++ ed.after.head?.toList, ed.after.tail⟩
  | .lineStart => ⟨[], ed.text⟩
  | .lineEnd => ⟨ed.text, []⟩

/-- Whether a key is refused: a character for a full line, or a deletion with nothing to delete. -/
def refuses (ed : Editor) : Edit → Bool
  | .char _ => 200 ≤ ed.text.length
  | .backspace => ed.before.isEmpty
  | .delete => ed.after.isEmpty
  | .left | .right | .lineStart | .lineEnd => false

/-- What is shown after a key: the line and its caret, unless the key is refused. -/
def shows (ed : Editor) (e : Edit) : List Display :=
  if ed.refuses e then [] else [.input (ed.edit e).text (ed.edit e).before.length]

/-- The two parts after several keys. -/
def run (ed : Editor) (edits : List Edit) : Editor :=
  edits.foldl edit ed

/-- What is shown during several keys. -/
def showsAll (ed : Editor) : List Edit → List Display
  | [] => []
  | e :: rest => ed.shows e ++ (ed.edit e).showsAll rest

/-- Nothing of the line is lost when it is cut. -/
theorem text_ofLine (line : Text) (caret : Nat) : (ofLine line caret).text = line :=
  List.take_append_drop caret line

theorem length_before_ofLine {line : Text} {caret : Nat} (h : caret ≤ line.length) :
    (ofLine line caret).before.length = caret :=
  List.length_take_of_le h

/-- A key that is refused changes nothing. -/
theorem edit_of_refuses {ed : Editor} {e : Edit} (h : ed.refuses e = true) : ed.edit e = ed := by
  obtain ⟨before, after⟩ := ed
  cases e with
  | char c => exact if_pos (of_decide_eq_true h)
  | backspace =>
    obtain rfl : before = [] := List.isEmpty_iff.1 h
    rfl
  | delete =>
    obtain rfl : after = [] := List.isEmpty_iff.1 h
    rfl
  | _ => cases h

end Editor

/-! ## Sessions and editors -/

namespace Session

/-- The session with the line and the caret of an editor. -/
def holding (ed : Editor) (s : Session) : Session :=
  { s with line := ed.text, caret := ed.before.length }

/-- The editor of a session's line. -/
def editor (s : Session) : Editor :=
  .ofLine s.line s.caret

theorem holding_editor {s : Session} (h : s.caret ≤ s.line.length) : s.holding s.editor = s := by
  rw [holding, editor, Editor.text_ofLine, Editor.length_before_ofLine h]

/-- The turn in which an editor carries out a key. -/
def edited (ed : Editor) (e : Edit) (s : Session) : Turn :=
  ⟨s.holding (ed.edit e), none, ed.shows e, []⟩

variable (s : Session) (ed : Editor) (clock : ClockAnswer)

/-- Nothing happens if the key is refused. -/
theorem still_holding {e : Edit} (h : ed.refuses e = true) :
    (s.holding ed).still = s.edited ed e := by
  rw [edited, Editor.edit_of_refuses h, Editor.shows, if_pos h]
  rfl

/-- The line is shown anew if it is not. -/
theorem setLine_holding {e : Edit} (h : ed.refuses e = false) :
    (s.holding ed).setLine (ed.edit e).text (ed.edit e).before.length = s.edited ed e := by
  have hmin : min (ed.edit e).before.length (ed.edit e).text.length = (ed.edit e).before.length :=
    Nat.min_eq_left (by simp [Editor.text])
  rw [setLine, withLine, hmin, edited, Editor.shows, h]
  rfl

/-! ### The keys, one by one -/

theorem insert_holding (c : Char) : (s.holding ed).insert c = s.edited ed (.char c) := by
  rw [insert]
  split
  · next hfull => exact s.still_holding ed (decide_eq_true hfull)
  · next hroom =>
    rw [← s.setLine_holding ed (e := .char c) (decide_eq_false hroom)]
    have hedit : ed.edit (.char c) = ⟨ed.before ++ [c], ed.after⟩ := if_neg hroom
    simp [hedit, holding, Editor.text]

theorem backspace_holding : (s.holding ed).backspace = s.edited ed .backspace := by
  rw [backspace]
  split
  · next hstart =>
    exact s.still_holding ed (List.isEmpty_iff.2 (List.length_eq_zero_iff.1 hstart))
  · next hpos =>
    have hne : ed.before ≠ [] := fun h => hpos (List.length_eq_zero_iff.2 h)
    obtain ⟨front, c, hfront⟩ := List.eq_nil_or_concat ed.before |>.resolve_left hne
    rw [← s.setLine_holding ed (by simp [Editor.refuses, hne])]
    simp [Editor.edit, holding, Editor.text, hfront, List.eraseIdx_append_of_length_le]

theorem delete_holding : (s.holding ed).delete = s.edited ed .delete := by
  have hlength : (s.holding ed).line.length = ed.before.length + ed.after.length := by
    simp [holding, Editor.text]
  have hcaret : (s.holding ed).caret = ed.before.length := rfl
  rw [delete, hlength, hcaret]
  split
  · next hend =>
    exact s.still_holding ed (List.isEmpty_iff.2 (List.length_eq_zero_iff.1 (by omega)))
  · next hroom =>
    have hne : ed.after ≠ [] := by
      rintro hnil
      exact hroom (by simp [hnil])
    rw [← s.setLine_holding ed (by simp [Editor.refuses, hne])]
    simp [Editor.edit, holding, Editor.text, List.eraseIdx_append_of_length_le]

/-- The caret moves to the left over the last character of the first part. -/
theorem left_holding : (s.holding ed).moveCaret ((s.holding ed).caret - 1) =
    s.edited ed .left := by
  rw [← s.setLine_holding ed (e := .left) rfl, moveCaret]
  rcases List.eq_nil_or_concat ed.before with hnil | ⟨front, c, hfront⟩
  · simp [Editor.edit, holding, Editor.text, hnil]
  · simp [Editor.edit, holding, Editor.text, hfront]

/-- It moves to the right over the first character of the second part. At the end of the line there
is no further place for it. -/
theorem right_holding : (s.holding ed).moveCaret ((s.holding ed).caret + 1) =
    s.edited ed .right := by
  rw [← s.setLine_holding ed (e := .right) rfl, moveCaret]
  cases hafter : ed.after with
  | nil => simp [Editor.edit, holding, Editor.text, hafter, setLine, withLine]
  | cons c cs => simp [Editor.edit, holding, Editor.text, hafter]

/-- **A session does what its editor does.** -/
theorem press_holding (e : Edit) : (s.holding ed).press clock e.key = s.edited ed e := by
  cases e with
  | char c => exact s.insert_holding ed c
  | backspace => exact s.backspace_holding ed
  | delete => exact s.delete_holding ed
  | left => exact s.left_holding ed
  | right => exact s.right_holding ed
  | lineStart =>
    rw [← s.setLine_holding ed (e := .lineStart) rfl]
    rfl
  | lineEnd =>
    rw [← s.setLine_holding ed (e := .lineEnd) rfl]
    simp [press, Edit.key, moveCaret, Editor.edit, holding, Editor.text]

/-! ### Several keys -/

/-- What happens while keys of this kind are pressed. -/
def editing (clock : ClockAnswer) (edits : List Edit) : List Event :=
  edits.map fun e => .press clock e.key

/-- **A session does what its editor does**, during any run of such keys. -/
theorem answerAll_holding (edits : List Edit) : (s.holding ed).answerAll (editing clock edits) =
    ⟨s.holding (ed.run edits), none, ed.showsAll edits, []⟩ := by
  induction edits generalizing ed with
  | nil => rfl
  | cons e rest ih =>
    show ((s.holding ed).press clock e.key).andThen
      (((s.holding ed).press clock e.key).session.answerAll (editing clock rest)) = _
    rw [press_holding, show (s.edited ed e).session = s.holding (ed.edit e) from rfl, ih]
    rfl

end Session

/-! ## Bytes -/

/-- **A change of a line's bytes**, at an offset. -/
inductive Splice where
  /-- a character is put in -/
  | insert (offset : Nat) (c : Char)
  /-- the character that begins there is taken out -/
  | remove (offset : Nat)
  deriving DecidableEq, Repr

namespace Splice

/-- Where the line is changed. -/
def offset : Splice → Nat
  | insert n _ => n
  | remove n => n

/-- The line after the change, if the change is possible. -/
def result? (line : Text) : Splice → Option Text
  | insert n c => line.insertAt? n c
  | remove n => line.removeAt? n

/-- A change that is possible is made between two characters, and inside the line if it takes one
out. -/
theorem isBoundary_of_result? {line line' : Text} {splice : Splice}
    (h : splice.result? line = some line') :
    line.IsBoundary splice.offset ∧ ∀ n, splice = .remove n → n < line.byteSize := by
  cases splice with
  | insert n c => exact ⟨Text.isSome_insertAt?_iff.1 (Option.isSome_of_eq_some h), nofun⟩
  | remove n =>
    obtain ⟨hboundary, hlt⟩ := Text.isSome_removeAt?_iff.1 (Option.isSome_of_eq_some h)
    refine ⟨hboundary, fun m hm => ?_⟩
    obtain rfl := Splice.remove.inj hm
    exact hlt

end Splice

namespace Session

/-- **The change of the bytes that a key comes down to**, if it changes the line. The caret counts
characters, so its place is looked up among the offsets first. -/
def splice? (s : Session) : Edit → Option Splice
  | .char c =>
    if maxCommandLength ≤ s.line.length then none else some (.insert (s.line.offset s.caret) c)
  | .backspace => if s.caret = 0 then none else some (.remove (s.line.offset (s.caret - 1)))
  | .delete => if s.line.length ≤ s.caret then none else some (.remove (s.line.offset s.caret))
  | .left | .right | .lineStart | .lineEnd => none

variable {s : Session}

/-- **Every change of the bytes is possible**, and leads to the line that the key leads to. -/
theorem result?_splice? (h : s.caret ≤ s.line.length) (clock : ClockAnswer) {e : Edit}
    {splice : Splice} (hs : s.splice? e = some splice) :
    splice.result? s.line = some (s.press clock e.key).session.line := by
  cases e with
  | char c =>
    rw [splice?] at hs
    split at hs
    · cases hs
    · next hroom =>
      obtain rfl := Option.some.inj hs
      rw [Splice.result?, Text.insertAt?_offset, Edit.key, press, insert, if_neg hroom]
      rfl
  | backspace =>
    rw [splice?] at hs
    split at hs
    · cases hs
    · next hpos =>
      obtain rfl := Option.some.inj hs
      rw [Splice.result?, Text.removeAt?_offset (by omega), Edit.key, press, backspace, if_neg hpos]
      rfl
  | delete =>
    rw [splice?] at hs
    split at hs
    · cases hs
    · next hroom =>
      obtain rfl := Option.some.inj hs
      rw [Splice.result?, Text.removeAt?_offset (by omega), Edit.key, press, delete, if_neg hroom]
      rfl
  | _ => cases hs

/-- The other keys leave the line as it is. -/
theorem line_press_of_splice? (clock : ClockAnswer) {e : Edit} (hs : s.splice? e = none) :
    (s.press clock e.key).session.line = s.line := by
  cases e with
  | char c =>
    rw [splice?, ite_eq_left_iff] at hs
    rw [Edit.key, press, insert, if_pos (by simpa using hs)]
    rfl
  | backspace =>
    rw [splice?, ite_eq_left_iff] at hs
    rw [Edit.key, press, backspace, if_pos (by simpa using hs)]
    rfl
  | delete =>
    rw [splice?, ite_eq_left_iff] at hs
    rw [Edit.key, press, delete, if_pos (by simpa using hs)]
    rfl
  | _ => rfl

/-- **The two parts, the session and the bytes agree.** Cut the line of any session at its caret,
and press any keys that edit it. The session then has the line and the caret that the two parts
have, and nothing else of it has changed; nothing was submitted, nobody is taken anywhere, and after
each key that was not refused the line was shown once, as it was then. Whatever key comes next, the
offset at which it changes the line is between two characters, and inside the line if it deletes; so
the change is possible, and leads to the new line. -/
theorem editing_in_parts (clock : ClockAnswer) (s : Session) (h : s.caret ≤ s.line.length)
    (edits : List Edit) :
    let ed := s.editor.run edits
    let turn := s.answerAll (editing clock edits)
    s.editor.text = s.line ∧ s.editor.before.length = s.caret ∧
      turn.session = { s with line := ed.text, caret := ed.before.length } ∧
      turn.outcome = none ∧ turn.display = s.editor.showsAll edits ∧ turn.travel = [] ∧
      ∀ e,
        (∀ splice, turn.session.splice? e = some splice →
          turn.session.line.IsBoundary splice.offset ∧
          (∀ n, splice = .remove n → n < turn.session.line.byteSize) ∧
          splice.result? turn.session.line = some (turn.session.press clock e.key).session.line) ∧
        (turn.session.splice? e = none →
          (turn.session.press clock e.key).session.line = turn.session.line) := by
  intro ed turn
  have hturn : turn = ⟨s.holding ed, none, s.editor.showsAll edits, []⟩ := by
    have hrun := s.answerAll_holding s.editor clock edits
    rwa [holding_editor h] at hrun
  have hcaret : turn.session.caret ≤ turn.session.line.length := by
    rw [hturn]
    simp [holding, Editor.text]
  refine ⟨Editor.text_ofLine _ _, Editor.length_before_ofLine h, ?_, ?_, ?_, ?_, fun e => ⟨?_, ?_⟩⟩
  · rw [hturn]
    rfl
  · rw [hturn]
  · rw [hturn]
  · rw [hturn]
  · intro splice hsplice
    have hresult := result?_splice? hcaret clock hsplice
    obtain ⟨hboundary, hlt⟩ := Splice.isBoundary_of_result? hresult
    exact ⟨hboundary, hlt, hresult⟩
  · exact line_press_of_splice? clock

/-- Characters of one, two and four bytes. The third deletion finds nothing to delete and shows
nothing; the letter that is typed last begins behind the four bytes of the crab. -/
theorem editing_in_parts_of_crab :
    let clock : ClockAnswer := .error (.platform [])
    let s : Session :=
      { start ⟨.ofSettings .default, .home, 280⟩ with line := "aé🦀".toList, caret := 2 }
    let turn := s.answerAll (editing clock [.backspace, .backspace, .backspace, .right, .char 'ß'])
    s.caret ≤ s.line.length ∧
      turn.session.line = "🦀ß".toList ∧ turn.session.caret = 2 ∧
      turn.display = [.input "a🦀".toList 1, .input "🦀".toList 0, .input "🦀".toList 1,
        .input "🦀ß".toList 2] ∧
      turn.session.splice? .backspace = some (.remove 4) ∧ turn.session.line.IsBoundary 4 := by
  intro clock s turn
  have hcaret : s.caret ≤ s.line.length := by decide
  obtain ⟨-, -, hsession, -, hdisplay, -, hbytes⟩ := editing_in_parts clock s hcaret
    [.backspace, .backspace, .backspace, .right, .char 'ß']
  have hsplice : turn.session.splice? .backspace = some (.remove 4) := by decide +kernel
  refine ⟨hcaret, ?_, ?_, hdisplay.trans (by decide +kernel), hsplice, ?_⟩
  · exact (congrArg Session.line hsession).trans (by decide +kernel)
  · exact (congrArg Session.caret hsession).trans (by decide +kernel)
  · exact ((hbytes .backspace).1 _ hsplice).1

end Session

end PageShell
