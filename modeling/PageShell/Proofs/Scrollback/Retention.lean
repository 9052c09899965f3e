import Mathlib.Data.List.Infix
import Mathlib.Data.List.Induction
import PageShell.Proofs.Scrollback

/-!
# What the scrollback keeps

Blocks go one by one, whenever one is added and as long as there are too many
lines. It comes to the same as a rule for all the output at once: what is kept
is its longest ending within the limit, or its newest block alone if that one is
larger than the limit.

* `Block.lines`, `Block.totalHeight_eq` — the lines that are counted;
* `Display.output` — the blocks that were added and not forgotten;
* `Scrollback.Retains` — the rule;
* `Scrollback.Retains.append` — what was dropped before need not be looked at
  again;
* `Scrollback.Retains.cons`, `Scrollback.retains_shed` — a block that goes, and
  blocks that go one by one, follow the rule;
* `Scrollback.shed?` — the dropping of blocks with exact subtractions;
* `Scrollback.retention` — **the rule, for any requests**.
-/

namespace PageShell

/-- The number of lines of several blocks. -/
def Block.totalHeight : List Block → Nat
  | [] => 0
  | b :: rest => b.height + totalHeight rest

@[simp] theorem Block.totalHeight_nil : totalHeight [] = 0 := rfl

@[simp] theorem Block.totalHeight_cons (b : Block) (rest : List Block) :
    totalHeight (b :: rest) = b.height + totalHeight rest := rfl

@[simp] theorem Block.totalHeight_append (blocks more : List Block) :
    totalHeight (blocks ++ more) = totalHeight blocks + totalHeight more := by
  induction blocks with
  | nil => exact (Nat.zero_add _).symm
  | cons b rest ih => rw [List.cons_append, totalHeight_cons, totalHeight_cons, ih, Nat.add_assoc]

/-- The lines of a block: the one that was submitted, or those of the output. -/
def Block.lines : Block → List Text
  | echo line => [line]
  | output _ lines => lines

/-- **The lines of a block are counted one by one.** -/
theorem Block.height_eq (b : Block) : b.height = b.lines.length := by
  cases b <;> rfl

theorem Block.totalHeight_eq (blocks : List Block) :
    totalHeight blocks = (blocks.flatMap lines).length := by
  induction blocks with
  | nil => rfl
  | cons b rest ih => rw [totalHeight_cons, ih, height_eq, List.flatMap_cons, List.length_append]

/-- The block that a request adds to the output. -/
def Display.block? : Display → Option Block
  | echo line => some (.echo line)
  | append lines style => some (.output style lines)
  | clear => none
  | input _ _ => none

/-- **The output of several requests**: the blocks that were added since it was last forgotten. -/
def Display.output (requests : List Display) : List Block :=
  (requests.reverse.takeWhile (· ≠ .clear)).reverse.filterMap block?

theorem Display.output_append_clear (requests : List Display) :
    output (requests ++ [.clear]) = [] := by
  simp [output]

theorem Display.output_append_of_ne {d : Display} (h : d ≠ .clear) (requests : List Display) :
    output (requests ++ [d]) = output requests ++ d.block?.toList := by
  rw [output, List.reverse_append, List.reverse_singleton, List.singleton_append,
    List.takeWhile_cons_of_pos (by simpa using h), List.reverse_cons, List.filterMap_append,
    output]
  cases d <;> rfl

namespace Scrollback

open Block (totalHeight)

/-! ### The rule -/

/-- **What is kept of the output**, if there is a limit to its lines. -/
structure Retains (limit : Nat) (output kept : List Block) : Prop where
  /-- the end of the output is kept -/
  suffix : kept <:+ output
  /-- something is kept, if there is anything -/
  ne_nil : output ≠ [] → kept ≠ []
  /-- every end that is within the limit is kept -/
  longest : ∀ ending, ending <:+ output → totalHeight ending ≤ limit → ending <:+ kept
  /-- what is kept is within the limit, unless it is a single block -/
  within : totalHeight kept ≤ limit ∨ ∃ b, kept = [b] ∧ limit < b.height

/-- All of the output is kept if it is within the limit, or a single block. -/
theorem retains_self {limit : Nat} {output : List Block}
    (h : totalHeight output ≤ limit ∨ ∃ b, output = [b] ∧ limit < b.height) :
    Retains limit output output where
  suffix := List.suffix_rfl
  ne_nil := id
  longest _ hend _ := hend
  within := h

theorem retains_nil (limit : Nat) : Retains limit [] [] :=
  retains_self (.inl (Nat.zero_le limit))

theorem retains_singleton (limit : Nat) (b : Block) : Retains limit [b] [b] := by
  rcases Nat.lt_or_ge limit b.height with hlt | hle
  · exact retains_self (.inr ⟨b, rfl, hlt⟩)
  · exact retains_self (.inl hle)

/-- **The oldest block goes** if there are too many lines and it is not the only one. -/
theorem Retains.cons {limit : Nat} {rest kept : List Block} {b : Block}
    (h : Retains limit rest kept) (hne : rest ≠ []) (hlt : limit < totalHeight (b :: rest)) :
    Retains limit (b :: rest) kept where
  suffix := h.suffix.trans (List.suffix_cons b rest)
  ne_nil _ := h.ne_nil hne
  longest ending hend hfits := by
    rcases List.suffix_cons_iff.1 hend with rfl | hrest
    · exact absurd hfits (Nat.not_le.2 hlt)
    · exact h.longest ending hrest hfits
  within := h.within

/-- **What was dropped before need not be looked at again** when a block is added: an end of the
output that is within the limit now was within it without that block, and so it is still there. -/
theorem Retains.append {limit : Nat} {output kept kept' : List Block} {b : Block}
    (h : Retains limit output kept) (h' : Retains limit (kept ++ [b]) kept') :
    Retains limit (output ++ [b]) kept' where
  suffix := h'.suffix.trans (List.suffix_append_self_iff.2 h.suffix)
  ne_nil _ := h'.ne_nil (by simp)
  longest ending hend hfits := by
    rcases List.suffix_concat_iff.1 hend with rfl | ⟨front, rfl, hfront⟩
    · exact List.nil_suffix
    · have hfits' : totalHeight front ≤ limit := by
        rw [Block.totalHeight_append] at hfits
        omega
      have hkept : front <:+ kept := h.longest front hfront hfits'
      exact h'.longest _ (List.suffix_append_self_iff.2 hkept) hfits
  within := h'.within

/-- **The newest block decides** whether the limit can be kept. -/
theorem Retains.of_newest {limit : Nat} {older kept : List Block} {newest : Block}
    (h : Retains limit (older ++ [newest]) kept) :
    if limit < newest.height then kept = [newest]
    else kept ≠ [] ∧ totalHeight kept ≤ limit := by
  have hne : kept ≠ [] := h.ne_nil (by simp)
  obtain ⟨front, rfl, -⟩ := (List.suffix_concat_iff.1 h.suffix).resolve_left hne
  obtain hfits | ⟨b, hb, hlt⟩ := h.within
  · have hle : ¬ limit < newest.height := by
      rw [Block.totalHeight_append, Block.totalHeight_cons] at hfits
      omega
    rw [if_neg hle]
    exact ⟨hne, hfits⟩
  · -- a single block is the newest one
    obtain ⟨rfl, rfl⟩ : front = [] ∧ newest = b := by simpa using List.append_eq_singleton_iff.1 hb
    rw [if_pos hlt]
    rfl

/-! ### Blocks that go one by one -/

/-- **Blocks that go one by one** follow the rule, and the number of lines is carried along. -/
theorem retains_shed (limit : Nat) (blocks : List Block) :
    Retains limit blocks (shed limit blocks (totalHeight blocks)).1 ∧
      (shed limit blocks (totalHeight blocks)).2 =
        totalHeight (shed limit blocks (totalHeight blocks)).1 := by
  generalize hcount : totalHeight blocks = count
  fun_induction shed limit blocks count with
  | case1 b c rest count hlt ih =>
    have hrest : totalHeight (c :: rest) = count - b.height := by
      rw [← hcount, Block.totalHeight_cons b, Nat.add_sub_cancel_left]
    obtain ⟨hretains, hlines⟩ := ih hrest
    exact ⟨hretains.cons (List.cons_ne_nil c rest) (hcount ▸ hlt), hlines⟩
  | case2 b c rest count hle =>
    have hfits : totalHeight (b :: c :: rest) ≤ limit := by omega
    exact ⟨retains_self (.inl hfits), hcount.symm⟩
  | case3 blocks count hshort =>
    refine ⟨?_, hcount.symm⟩
    rcases blocks with _ | ⟨b, _ | ⟨c, rest⟩⟩
    · exact retains_nil limit
    · exact retains_singleton limit b
    · exact absurd rfl (hshort b c rest)

/-- `shed` with exact subtractions: it fails if a block has more lines than are left. -/
def shed? (limit : Nat) : List Block → Nat → Option (List Block × Nat)
  | b :: c :: rest, count =>
    if limit < count then
      if b.height ≤ count then shed? limit (c :: rest) (count - b.height) else none
    else some (b :: c :: rest, count)
  | blocks, count => some (blocks, count)

/-- No subtraction goes below zero if the lines are counted right. -/
theorem shed?_eq_shed (limit : Nat) (blocks : List Block) :
    shed? limit blocks (totalHeight blocks) = some (shed limit blocks (totalHeight blocks)) := by
  generalize hcount : totalHeight blocks = count
  fun_induction shed limit blocks count with
  | case1 b c rest count hlt ih =>
    have hsplit : count = b.height + totalHeight (c :: rest) := hcount.symm
    rw [shed?, if_pos hlt, if_pos (by omega), ih (by omega)]
  | case2 b c rest count hle => rw [shed?, if_neg hle]
  | case3 blocks count hshort =>
    rcases blocks with _ | ⟨b, _ | ⟨c, rest⟩⟩
    · rfl
    · rfl
    · exact absurd rfl (hshort b c rest)

/-! ### Any requests -/

/-- **What holds of a scrollback after any requests.** -/
structure Keeps (limit : Nat) (output : List Block) (s : Scrollback) : Prop where
  /-- the limit stays -/
  limit_eq : s.limit = limit
  /-- the lines are counted right -/
  lineCount_eq : s.lineCount = totalHeight s.blocks
  /-- the blocks follow the rule -/
  retains : Retains limit output s.blocks

namespace Keeps

variable {limit : Nat} {output : List Block} {s : Scrollback}

/-- The lines are counted right when a block is added, before any go. -/
theorem lineCount_add (h : Keeps limit output s) (b : Block) :
    s.lineCount + b.height = totalHeight (s.blocks ++ [b]) := by
  rw [h.lineCount_eq, Block.totalHeight_append]
  rfl

theorem push (h : Keeps limit output s) (b : Block) :
    Keeps limit (output ++ [b]) (s.push b) := by
  obtain ⟨hretains, hlines⟩ := retains_shed limit (s.blocks ++ [b])
  have hpush : s.push b = { s with
      blocks := (shed limit (s.blocks ++ [b]) (totalHeight (s.blocks ++ [b]))).1
      lineCount := (shed limit (s.blocks ++ [b]) (totalHeight (s.blocks ++ [b]))).2 } := by
    rw [Scrollback.push, h.lineCount_add b, h.limit_eq]
  rw [hpush]
  exact ⟨h.limit_eq, hlines, h.retains.append hretains⟩

theorem apply (h : Keeps limit output s) (d : Display) :
    Keeps limit (if d = .clear then [] else output ++ d.block?.toList) (s.apply d) := by
  cases d with
  | echo line => exact h.push _
  | append lines style => exact h.push _
  | clear => exact ⟨h.limit_eq, rfl, retains_nil limit⟩
  | input line caret =>
    exact ⟨h.limit_eq, h.lineCount_eq, (List.append_nil output).symm ▸ h.retains⟩

end Keeps

theorem keeps_applyAll (maxLines : Nat) (requests : List Display) :
    Keeps (max maxLines 1) (Display.output requests) ((empty maxLines).applyAll requests) := by
  induction requests using List.reverseRecOn with
  | nil => exact ⟨rfl, rfl, retains_nil _⟩
  | append_singleton requests d ih =>
    have happly := ih.apply d
    rw [applyAll, List.foldl_append]
    by_cases hclear : d = .clear
    · subst hclear
      rw [Display.output_append_clear]
      exact happly
    · rw [Display.output_append_of_ne hclear]
      rwa [if_neg hclear] at happly

/-- **What the scrollback keeps.** Whatever its limit, and whatever was asked of it: nothing is kept
if there was no output since it was last forgotten. If the newest block alone is larger than the
limit, it is all that is kept. Otherwise the blocks that are kept are some of the newest ones, in
order and at least one, within the limit, and any newest blocks within the limit are among them. The
lines are always counted right, each block with all of its own, so that no subtraction goes below
zero when a further block is added. -/
theorem retention (maxLines : Nat) (requests : List Display) :
    let s := (empty maxLines).applyAll requests
    let output := Display.output requests
    (output = [] → s.blocks = []) ∧
      (∀ older newest, output = older ++ [newest] →
        if max maxLines 1 < newest.height then s.blocks = [newest]
        else s.blocks ≠ [] ∧ s.blocks <:+ output ∧ totalHeight s.blocks ≤ max maxLines 1 ∧
          ∀ ending, ending <:+ output → totalHeight ending ≤ max maxLines 1 →
            ending <:+ s.blocks) ∧
      s.lineCount = totalHeight s.blocks ∧
      (∀ b : Block, b.height = b.lines.length) ∧
      (∀ blocks, totalHeight blocks = (blocks.flatMap Block.lines).length) ∧
      ∀ b, shed? s.limit (s.blocks ++ [b]) (s.lineCount + b.height) =
        some (shed s.limit (s.blocks ++ [b]) (s.lineCount + b.height)) := by
  intro s output
  have h : Keeps (max maxLines 1) output s := keeps_applyAll maxLines requests
  refine ⟨fun hnil => ?_, fun older newest houtput => ?_, h.lineCount_eq, Block.height_eq,
    Block.totalHeight_eq, fun b => ?_⟩
  · exact List.suffix_nil.1 (hnil ▸ h.retains.suffix)
  · have hnewest := Retains.of_newest (houtput ▸ h.retains)
    split at hnewest
    · next hlarge => rwa [if_pos hlarge]
    · next hsmall =>
      rw [if_neg hsmall]
      exact ⟨hnewest.1, h.retains.suffix, hnewest.2, h.retains.longest⟩
  · rw [h.lineCount_add b]
    exact shed?_eq_shed _ _

end Scrollback

end PageShell
