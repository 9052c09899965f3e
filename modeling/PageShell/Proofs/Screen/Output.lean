import PageShell.Proofs.Screen.Picture

/-!
# The newest output on the screen

Between the rain and the prompt there is a band of rows for the output. It may
be of any height, and there may be none. The newest lines of output stand in it,
as many as there are rows for, and nothing else does.

* `Host.filter_inBand_picture` — the band shows the newest output;
* `Host.filter_not_inBand_picture` — the rest of the screen shows none of it;
* `Host.row_of_moveTo_mem_draw` — which rows are drawn in;
* `Host.newest_output` — **what the screen shows of the output**.
-/

namespace PageShell

namespace Host

variable {width height promptRow : Nat} {h : Host}

/-- The shell with other output. -/
def withBlocks (blocks : List Block) (h : Host) : Host :=
  { h with scrollback := { h.scrollback with blocks := blocks } }

/-! ## The band of output -/

/-- A stroke stands in the rows between the rain and the prompt. -/
def inBand (promptRow : Nat) (s : Stroke) : Bool :=
  bandTop ≤ s.pen.row ∧ s.pen.row < promptRow

section Band

variable {s : Stroke}

theorem inBand_of_mem_output (hs : s ∈ h.outputStrokes width promptRow) : inBand promptRow s :=
  decide_eq_true (row_of_mem_output hs)

theorem not_inBand_of_mem_above (hs : s ∈ h.aboveStrokes width) : ¬ inBand promptRow s := by
  rw [inBand, decide_eq_true_eq]
  exact fun hband => Nat.not_lt.2 hband.1 (row_of_mem_above hs)

theorem not_inBand_of_mem_below (hs : s ∈ h.belowStrokes width promptRow) :
    ¬ inBand promptRow s := by
  rw [inBand, decide_eq_true_eq]
  have hrow := row_of_mem_below hs
  omega

end Band

/-- **The band shows the newest output**, and nothing else. -/
theorem filter_inBand_picture :
    (h.picture width height).filter (inBand (height - 2)) = h.outputStrokes width (height - 2) := by
  rw [picture, List.filter_append, List.filter_append,
    List.filter_eq_nil_iff.2 fun s => not_inBand_of_mem_above,
    List.filter_eq_self.2 fun s => inBand_of_mem_output,
    List.filter_eq_nil_iff.2 fun s => not_inBand_of_mem_below, List.nil_append, List.append_nil]

/-- **The rest of the screen** shows the other parts, which have nothing of the output in them. -/
theorem filter_not_inBand_picture :
    (h.picture width height).filter (!inBand (height - 2) ·) =
      h.aboveStrokes width ++ h.belowStrokes width (height - 2) := by
  rw [picture, List.filter_append, List.filter_append,
    List.filter_eq_self.2 fun s hs => by simpa using not_inBand_of_mem_above hs,
    List.filter_eq_nil_iff.2 fun s hs => by simpa using inBand_of_mem_output hs,
    List.filter_eq_self.2 fun s hs => by simpa using not_inBand_of_mem_below hs, List.append_nil]

/-! ## Rows of 16 bits -/

section MoveTo

variable {column row : Nat}

theorem row_of_moveTo_mem_rain (hmem : .moveTo column row ∈ h.drawRain width) : row < bandTop := by
  rw [drawRain] at hmem
  split at hmem
  · cases hmem
  · simp only [List.mem_flatMap, List.mem_range] at hmem
    obtain ⟨above, habove, _, -, hmark⟩ := hmem
    rw [drawMark] at hmark
    split at hmark
    · cases hmark
    · simp only [List.mem_cons, Instruction.moveTo.injEq, reduceCtorEq, List.not_mem_nil,
        or_false] at hmark
      rw [hmark.2]
      exact Nat.add_lt_add_right habove 1

theorem row_of_moveTo_mem_lines {top : Nat} {lines : List (Text × Color)}
    (hmem : .moveTo column row ∈ drawLines width top lines) : row < top + lines.length := by
  induction lines generalizing top with
  | nil => cases hmem
  | cons line rest ih =>
    rw [List.length_cons]
    rcases List.mem_append.1 hmem with hline | hrest
    · simp only [drawLine, List.mem_cons, Instruction.moveTo.injEq, reduceCtorEq, List.not_mem_nil,
        or_false] at hline
      omega
    · have := ih hrest
      omega

theorem row_of_moveTo_mem_output (hmem : .moveTo column row ∈ h.drawOutput width promptRow) :
    row < bandTop ∨ row < promptRow := by
  have hlt := row_of_moveTo_mem_lines hmem
  rw [List.length_drop] at hlt
  omega

theorem row_of_moveTo_mem_prompt (hmem : .moveTo column row ∈ h.drawPrompt width promptRow) :
    row = promptRow := by
  rcases List.mem_append.1 hmem with hmem | hmem
  · simp only [List.mem_cons, Instruction.moveTo.injEq, reduceCtorEq, List.not_mem_nil,
      or_false] at hmem
    exact hmem.2
  · split at hmem <;> simp at hmem

/-- **The rows that drawing goes to** are above the output, or not below the hint under the
prompt. -/
theorem row_of_moveTo_mem_draw {width height : UInt16}
    (hmem : .moveTo column row ∈ h.draw width height) :
    row < bandTop ∨ row ≤ height.toNat - 2 + 1 := by
  simp only [draw, List.mem_append] at hmem
  obtain (((((hmem | hmem) | hmem) | hmem) | hmem) | hmem) | hmem := hmem
  · simp at hmem
  · simp only [drawStatus, List.mem_cons, Instruction.moveTo.injEq, reduceCtorEq, List.not_mem_nil,
      or_false] at hmem
    exact .inl (hmem.2 ▸ Nat.succ_pos _)
  · exact .inl (row_of_moveTo_mem_rain hmem)
  · have := row_of_moveTo_mem_output hmem
    omega
  · exact .inr (row_of_moveTo_mem_prompt hmem ▸ Nat.le_succ _)
  · simp only [drawHelper, List.mem_cons, Instruction.moveTo.injEq, reduceCtorEq, List.not_mem_nil,
      or_false] at hmem
    exact .inr (Nat.le_of_eq hmem.2)
  · simp only [List.mem_singleton, Instruction.moveTo.injEq] at hmem
    exact .inr (hmem.2 ▸ Nat.le_succ _)

end MoveTo

/-- **What the screen shows of the output**, whatever was there before. Between the rain and the
prompt stand the newest lines of output, as many as there are or as there are rows, in order and one
in each row from the top of the band on, each cut to the width and in its colour, and nothing else
stands there. The other rows do not depend on the output, so none of it is printed on or below the
row of the prompt. All rows are small enough for 16 bits. -/
theorem newest_output (width height : UInt16) (h : Host) (t : Terminal) :
    let promptRow := height.toNat - 2
    let kept := min h.output.length (promptRow - 7)
    let newest := h.output.drop (h.output.length - kept)
    let drawn := (t.followAll (h.draw width height)).strokes
    newest.length = kept ∧
      drawn.filter (inBand promptRow) =
        (newest.zipIdx 7).map (fun ((line, style), row) =>
          ⟨.plainAt 0 row (h.outputColor style), line.take width.toNat⟩) ∧
      (∀ blocks,
        (t.followAll ((h.withBlocks blocks).draw width height)).strokes.filter
          (!inBand promptRow ·) = drawn.filter (!inBand promptRow ·)) ∧
      ∀ column row, .moveTo column row ∈ h.draw width height → row < 65536 := by
  intro promptRow kept newest drawn
  have htop : bandTop = 7 := rfl
  refine ⟨?_, ?_, fun blocks => ?_, fun column row hmem => ?_⟩
  · rw [List.length_drop]
    omega
  · have hoffset : h.output.length - (promptRow - bandTop) = h.output.length - kept := by omega
    change (t.followAll (h.draw width height)).strokes.filter (inBand (height.toNat - 2)) = _
    rw [strokes_draw, filter_inBand_picture, outputStrokes, hoffset, htop]
  · change _ = (t.followAll (h.draw width height)).strokes.filter (!inBand (height.toNat - 2) ·)
    rw [strokes_draw, strokes_draw, filter_not_inBand_picture, filter_not_inBand_picture]
    -- the other parts do not look at the output
    rfl
  · have hrow := row_of_moveTo_mem_draw hmem
    have hheight := height.toNat_lt
    omega

end Host

end PageShell
