import PageShell.Scrollback

/-!
# The newest output

Blocks go at the front of the scrollback, and only while others follow them.
So what was added last is always there to be read.

* `Scrollback.shed_getLast?` — the newest block stays;
* `Scrollback.lastOutput?_append` — lines that were just added are the last
  output;
* `Scrollback.applyAll_isInput` — of several inputs, only the last one is seen.
-/

namespace PageShell

namespace Scrollback

/-- **The newest block stays**, whatever the limit is. -/
theorem shed_getLast? (limit : Nat) (blocks : List Block) (count : Nat) :
    (shed limit blocks count).1.getLast? = blocks.getLast? := by
  fun_induction shed limit blocks count with
  | case1 count b c rest hlt ih =>
    rw [ih, List.getLast?_cons_cons]
  | case2 count b c rest hle => rfl
  | case3 blocks count hshort => rfl

/-- A block that was pushed is the newest one. -/
theorem push_getLast? (b : Block) (s : Scrollback) : (s.push b).blocks.getLast? = some b := by
  have hshed := shed_getLast? s.limit (s.blocks ++ [b]) (s.lineCount + b.height)
  rw [List.getLast?_append] at hshed
  exact hshed

/-- **Lines that were just added are the last output.** -/
theorem lastOutput?_append (lines : List Text) (style : LineStyle) (s : Scrollback) :
    (s.apply (.append lines style)).lastOutput? = some (style, lines) := by
  obtain ⟨older, hblocks⟩ := List.getLast?_eq_some_iff.1 (push_getLast? (.output style lines) s)
  rw [lastOutput?, apply, hblocks, List.reverse_append]
  rfl

end Scrollback

/-! ### Inputs -/

/-- Whether a request changes nothing but the input. -/
def Display.IsInput (d : Display) : Prop :=
  ∃ line caret, d = .input line caret

/-- **Of several inputs, only the last one is seen.** -/
theorem Scrollback.applyAll_isInput {requests : List Display} (h : ∀ d ∈ requests, d.IsInput)
    (line : Text) (caret : Nat) (shown : Scrollback) :
    (shown.applyAll requests).apply (.input line caret) = shown.apply (.input line caret) := by
  induction requests generalizing shown with
  | nil => rfl
  | cons d rest ih =>
    obtain ⟨⟨line', caret', rfl⟩, hrest⟩ := List.forall_mem_cons.1 h
    exact ih hrest _

end PageShell
