import PageShell.Proofs.Screen.Picture

/-!
# The right edge of the screen

Every text is cut to the columns that are left in its row. There is one
exception. What follows the prompt always has room for one character, even if
the prompt fills the row, and then this character is printed past the edge.

* `Host.edge_le_of_mem_status`, `Host.edge_le_of_mem_rain`, `Host.edge_le_of_mem_output`,
  `Host.edge_le_of_mem_helper` — the parts that always fit;
* `Host.edge_le_of_mem_prompt_iff` — when the line of the prompt fits;
* `Host.right_edge` — **what stays on the screen**, for any size of it;
* `Host.placeholder_past_edge` — a screen that is too narrow for the prompt.
-/

namespace PageShell

/-- Without room a single character is in sight, the one before which the caret is. -/
theorem inputWindow_zero (line : Text) (caret : Nat) :
    (inputWindow line caret 0).1 = (line.drop caret).take 1 := by
  rw [inputWindow]
  dsimp only
  rw [Nat.zero_max, Nat.add_sub_cancel, ← List.drop_eq_drop_min]

/-- What is in sight is no longer than there is room. -/
theorem length_inputWindow_le (line : Text) (caret room : Nat) :
    (inputWindow line caret room).1.length ≤ max room 1 := by
  rw [inputWindow]
  exact List.length_take_le _ _

namespace Host

variable {width promptRow : Nat} {h : Host} {s : Stroke}

/-! ## The parts that always fit -/

/-- The length of the status line is counted right, if the status clock is not absurdly long. -/
theorem length_statusText_lt (hclock : h.clockText.length < 32768) :
    h.statusText.length < 65536 := by
  have hname : h.page.name.length ≤ 8 := by cases h.page <;> decide
  have hbefore : "  /".toList.length = 3 := rfl
  have hbehind : "  ".toList.length = 2 := rfl
  rw [statusText, List.length_append, List.length_append, List.length_append]
  omega

/-- The status line fits, piece by piece. -/
theorem edge_le_of_mem_status (hclock : h.clockText.length < 32768)
    (hs : s ∈ h.statusStrokes width) : s.edge ≤ width := by
  have hstatus : h.statusText.length % 65536 = h.statusText.length :=
    Nat.mod_eq_of_lt (length_statusText_lt hclock)
  simp only [statusStrokes, hstatus, List.mem_cons, List.not_mem_nil, or_false] at hs
  obtain rfl | rfl | rfl := hs <;>
    simp only [Stroke.edge, Pen.plainAt, List.length_take] <;> omega

theorem edge_le_of_mem_rain (hs : s ∈ h.rainStrokes width) : s.edge ≤ width := by
  obtain ⟨column, row, glyph, color, hcolumn, -, rfl⟩ := exists_of_mem_rain hs
  exact hcolumn

/-- A text that starts in the first column fits if it is cut to the width. -/
theorem edge_take_le (row : Nat) (color : Color) (text : Text) :
    Stroke.edge ⟨.plainAt 0 row color, text.take width⟩ ≤ width := by
  rw [Stroke.edge, List.length_take]
  exact (Nat.zero_add _).symm ▸ Nat.min_le_left _ _

theorem edge_le_of_mem_output (hs : s ∈ h.outputStrokes width promptRow) : s.edge ≤ width := by
  obtain ⟨⟨⟨line, style⟩, row⟩, -, rfl⟩ := List.mem_map.1 hs
  exact edge_take_le _ _ _

theorem edge_le_of_mem_helper (hs : s ∈ h.helperStrokes width promptRow) : s.edge ≤ width := by
  obtain rfl := List.mem_singleton.1 hs
  exact edge_take_le _ _ _

/-! ## The line of the prompt -/

/-- What follows the prompt, from the caret on: the input, or the placeholder as a whole. -/
def fromCaret (h : Host) : Text :=
  if h.scrollback.input = [] then h.settings.placeholder
  else h.scrollback.input.drop h.scrollback.caret

/-- What follows the prompt fits, if the prompt leaves room. -/
theorem length_entry_le (hwidth : h.settings.prompt.length < width) :
    (h.entry width).length ≤ width - h.settings.prompt.length := by
  have hroom : max (h.inputRoom width) 1 = width - h.settings.prompt.length := by
    rw [inputRoom_eq]
    omega
  rw [entry, ← hroom]
  split <;> exact length_inputWindow_le _ _ _

/-- If the prompt leaves no room, a single character follows it, if there is any. -/
theorem entry_of_le (hwidth : width ≤ h.settings.prompt.length) :
    h.entry width = h.fromCaret.take 1 := by
  have hroom : h.inputRoom width = 0 := by
    rw [inputRoom_eq]
    omega
  rw [entry, visibleInput, hroom, inputWindow_zero, inputWindow_zero, fromCaret]
  cases h.scrollback.input <;> rfl

/-- The line of the prompt fits, or a single character stands right behind the edge. -/
theorem edge_le_of_mem_prompt_or (hs : s ∈ h.promptStrokes width promptRow) :
    s.edge ≤ width ∨ width ≤ h.settings.prompt.length ∧ s.pen.row = promptRow ∧
      s.pen.column = width ∧ ∃ c, h.fromCaret.head? = some c ∧ s.text = [c] := by
  obtain ⟨pen, hrow, hcolumn, heq⟩ := h.exists_promptStrokes_eq width promptRow
  simp only [heq, List.mem_cons, List.not_mem_nil, or_false] at hs
  rw [List.length_take] at hcolumn
  obtain rfl | rfl := hs
  · exact .inl (edge_take_le _ _ _)
  rcases Nat.lt_or_ge h.settings.prompt.length width with hlt | hle
  · have hentry := length_entry_le hlt
    have hend : pen.column + (h.entry width).length ≤ width := by omega
    exact .inl hend
  · rw [Nat.min_eq_left hle] at hcolumn
    have hentry := entry_of_le hle
    cases hchars : h.fromCaret with
    | nil =>
      rw [hchars, List.take_nil] at hentry
      rw [Stroke.edge, hentry]
      exact .inl (Nat.le_of_eq hcolumn)
    | cons c rest =>
      rw [hchars] at hentry
      exact .inr ⟨hle, hrow, hcolumn, c, rfl, hentry⟩

/-- **When the line of the prompt fits**: exactly if the prompt leaves room, or there is nothing to
show behind it. -/
theorem edge_le_of_mem_prompt_iff (promptRow : Nat) :
    (∀ s ∈ h.promptStrokes width promptRow, s.edge ≤ width) ↔
      h.settings.prompt.length < width ∨ h.fromCaret = [] := by
  constructor
  · intro hfits
    rcases Nat.lt_or_ge h.settings.prompt.length width with hlt | hle
    · exact .inl hlt
    · -- what follows the prompt starts at the edge, so it is empty
      obtain ⟨pen, -, hcolumn, heq⟩ := h.exists_promptStrokes_eq width promptRow
      have hmem : ⟨pen, h.entry width⟩ ∈ h.promptStrokes width promptRow := by
        rw [heq]
        exact .tail _ (.head _)
      have hend : pen.column + (h.entry width).length ≤ width := hfits _ hmem
      rw [hcolumn, List.length_take, Nat.min_eq_left hle, entry_of_le hle] at hend
      have hempty : h.fromCaret.take 1 = [] := List.length_eq_zero_iff.1 (by omega)
      exact .inr ((List.take_eq_nil_iff.1 hempty).resolve_left Nat.one_ne_zero)
  · rintro hroom s hs
    obtain hfits | ⟨hle, -, -, c, hc, -⟩ := edge_le_of_mem_prompt_or hs
    · exact hfits
    · obtain hlt | hnil := hroom
      · exact absurd hlt (Nat.not_lt.2 hle)
      · simp [hnil] at hc

/-! ## The whole screen -/

/-- All but the line of the prompt fits. -/
theorem edge_le_or_mem_prompt (hclock : h.clockText.length < 32768) {height : Nat}
    (hs : s ∈ h.picture width height) :
    s.edge ≤ width ∨ s ∈ h.promptStrokes width (height - 2) := by
  simp only [picture, aboveStrokes, belowStrokes, List.mem_append] at hs
  obtain ((hs | hs) | hs) | (hs | hs) := hs
  · exact .inl (edge_le_of_mem_status hclock hs)
  · exact .inl (edge_le_of_mem_rain hs)
  · exact .inl (edge_le_of_mem_output hs)
  · exact .inr hs
  · exact .inl (edge_le_of_mem_helper hs)

/-- **What stays on the screen**, whatever its size, if the status clock is not absurdly long. Every
text ends at the right edge at the latest, with one exception: if the prompt fills its row, the
character before which the caret is, or the first one of the placeholder, is printed right behind
the edge. So all texts stay on the screen exactly if it is wider than the prompt, or there is no
such character. -/
theorem right_edge (width height : UInt16) (h : Host) (t : Terminal)
    (hclock : h.clockText.length < 32768) :
    let drawn := (t.followAll (h.draw width height)).strokes
    (∀ s ∈ drawn, s.edge ≤ width.toNat ∨ width.toNat ≤ h.settings.prompt.length ∧
      s.pen.row = height.toNat - 2 ∧ s.pen.column = width.toNat ∧
      ∃ c, h.fromCaret.head? = some c ∧ s.text = [c]) ∧
    ((∀ s ∈ drawn, s.edge ≤ width.toNat) ↔
      h.settings.prompt.length < width.toNat ∨ h.fromCaret = []) := by
  intro drawn
  have hdrawn : drawn = h.picture width.toNat height.toNat := h.strokes_draw t width height
  rw [hdrawn]
  refine ⟨fun s hs => ?_, fun hfits => ?_, fun hroom s hs => ?_⟩
  · obtain hfits | hprompt := edge_le_or_mem_prompt hclock hs
    · exact .inl hfits
    · exact edge_le_of_mem_prompt_or hprompt
  · refine (edge_le_of_mem_prompt_iff (height.toNat - 2)).1 fun s hs => hfits s ?_
    exact List.mem_append_right _ (List.mem_append_left _ hs)
  · obtain hfits | hprompt := edge_le_or_mem_prompt hclock hs
    · exact hfits
    · exact (edge_le_of_mem_prompt_iff _).2 hroom s hprompt

/-- On a wide screen all texts stay on it. -/
theorem right_edge_of_eighty :
    let h := start .default .home 80 (.file .absent) 0
    h.clockText.length < 32768 ∧
      ∀ s ∈ (Terminal.blank.followAll (h.draw 80 24)).strokes, s.edge ≤ 80 := by
  intro h
  have hclock : h.clockText.length < 32768 := by decide +kernel
  exact ⟨hclock, (right_edge 80 24 h .blank hclock).2.2 (.inl (by decide +kernel))⟩

/-- **A screen that is too narrow for the prompt**: the prompt fills the row, and the first
character of the placeholder is printed behind the edge. -/
theorem placeholder_past_edge :
    let h := start .default .home 13 (.file .absent) 0
    ∃ s ∈ (Terminal.blank.followAll (h.draw 13 24)).strokes,
      s.pen.row = 22 ∧ s.pen.column = 13 ∧ s.text = ['T'] ∧ ¬ s.edge ≤ 13 := by
  decide +kernel

end Host

end PageShell
