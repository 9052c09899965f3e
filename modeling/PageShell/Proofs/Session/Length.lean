import PageShell.Proofs.Completion
import PageShell.Proofs.Submission

/-!
# How long a typed line can get

Characters are typed up to a limit, which is also the limit of a submission.
What is recalled was submitted before. A completion, however, puts a whole
candidate and a space in place of a fragment, and does not look at the limit.
So the input keeps to the limit exactly as long as its completions do, and can
exceed it by no more than a candidate.

* `Session.pressAll` — a session after several keys;
* `Session.Everywhere` — what the line and all recalled lines have in common,
  and `Session.Everywhere.press` — how a key keeps to it;
* `Text.Loose` — what completions can make of lines that are typed;
* `Session.length_line_of_keys` — **how long a line is after any keys**;
* `Session.refused_after_completion` — keys after which a line is refused for
  its length.
-/

namespace PageShell

/-! ### Lines with a completed word -/

/-- **A text that is within the limit but for a completed word**: less than a full line, a piece of
a candidate, and the space after it. -/
def Text.Loose (t : Text) : Prop :=
  ∃ lead word ending : Text, t = lead ++ word ++ ending ∧ lead.length < maxCommandLength ∧
    word.any PageShell.isBlank = false ∧ word.length ≤ 8 ∧ ending.length ≤ 1

namespace Text

theorem Loose.length_le {t : Text} (h : t.Loose) : t.length ≤ maxCommandLength + 8 := by
  obtain ⟨lead, word, ending, rfl, hlead, -, hword, hending⟩ := h
  simp only [List.length_append]
  omega

/-- A text within the limit needs no completed word. -/
theorem loose_of_length_le {t : Text} (h : t.length ≤ maxCommandLength) : t.Loose := by
  refine ⟨t.take 199, [], t.drop 199, by simp, ?_, rfl, Nat.zero_le _, ?_⟩
  · rw [maxCommandLength, List.length_take]
    omega
  · rw [maxCommandLength] at h
    rw [List.length_drop]
    omega

/-- A text of which a part is left over stays like that. -/
theorem Loose.sublist {t u : Text} (h : t.Loose) (hu : u.Sublist t) : u.Loose := by
  obtain ⟨lead, word, ending, rfl, hlead, hblank, hword, hending⟩ := h
  obtain ⟨front, ending', rfl, hfront, hending'⟩ := List.sublist_append_iff.1 hu
  obtain ⟨lead', word', rfl, hlead', hword'⟩ := List.sublist_append_iff.1 hfront
  refine ⟨lead', word', ending', rfl, Nat.lt_of_le_of_lt hlead'.length_le hlead, ?_,
    hword'.length_le.trans hword, hending'.length_le.trans hending⟩
  rw [List.any_eq_false] at hblank ⊢
  exact fun c hc => hblank c (hword'.subset hc)

/-- Before its last word, such a text is less than a full line. -/
theorem Loose.length_lt {front tail : Text} (h : Loose (front ++ tail)) (hne : tail ≠ [])
    (hfront : ∀ c, front.getLast? = some c → PageShell.isBlank c = true) :
    front.length < maxCommandLength := by
  obtain ⟨lead, word, ending, heq, hlead, hblank, -, hending⟩ := h
  by_contra hlong
  have hpos : 0 < tail.length := List.length_pos_iff.2 hne
  have hlen := congrArg List.length heq
  simp only [List.length_append] at hlen
  -- a front that long ends within the word, which has no blanks
  have hend : front <+: lead ++ word := by
    refine List.prefix_of_prefix_length_le (List.prefix_append _ tail)
      (heq ▸ List.prefix_append _ _)
      ?_
    rw [List.length_append]
    omega
  obtain ⟨piece, rfl⟩ : lead <+: front :=
    List.prefix_of_prefix_length_le (List.prefix_append lead word) hend (by omega)
  have hpiece : piece <+: word := (List.prefix_append_right_inj lead).1 hend
  have hpne : piece ≠ [] := by
    rintro rfl
    rw [List.append_nil] at hlong
    exact hlong hlead
  have hlast := List.getLast?_eq_some_getLast hpne
  refine List.any_eq_false.1 hblank _ (hpiece.subset (List.getLast_mem hpne)) (hfront _ ?_)
  rw [List.getLast?_append, hlast, Option.some_or]

/-- A completion makes no more of it. -/
theorem Loose.completed {line l : Text} (h : line.Loose) {caret place : Nat}
    (hl : Completion.ofLine line caret = .replaced l place) : l.Loose := by
  obtain ⟨lead, word, candidates, candidate, rfl, hne, hcontext, hmem, rfl, -⟩ :=
    Completion.ofLine_eq_replaced hl
  obtain ⟨-, hblank, hlen⟩ := hcontext.candidate_spec hmem
  exact ⟨lead, candidate, [' '], rfl, h.length_lt hne fun _ => hcontext.isBlank_of_getLast?, hblank,
    hlen, Nat.le_refl _⟩

end Text

/-! ### Keys -/

namespace Session

/-- **A session after several keys**, each of them with what the clock answers. -/
def pressAll (s : Session) (keys : List (ClockAnswer × Key)) : Session :=
  keys.foldl (fun s k => (s.press k.1 k.2).session) s

/-- What the line and all lines of the history have in common. -/
structure Everywhere (P : Text → Prop) (s : Session) : Prop where
  /-- the line has it -/
  line : P s.line
  /-- the lines of the history have it -/
  entries : ∀ entry ∈ s.history.entries, P entry

section Everywhere

variable {P : Text → Prop} {s : Session}

theorem Everywhere.setLine (h : s.Everywhere P) {line : Text} (hl : P line) (caret : Nat) :
    (s.setLine line caret).session.Everywhere P :=
  ⟨hl, h.entries⟩

/-- Submitted lines go into the history without the blanks around them. -/
theorem Everywhere.submit (hpart : ∀ t u : Text, P t → u.Sublist t → P u) (h : s.Everywhere P)
    (clock : ClockAnswer) : (s.submit clock s.line).session.Everywhere P := by
  have hnil : P [] := hpart _ _ h.line (List.nil_sublist _)
  by_cases hb : s.line.isBlank = true
  · rw [submit_of_isBlank clock s hb]
    exact h.setLine hnil 0
  · rw [submit_of_not_isBlank clock s (by simpa using hb)]
    refine ⟨hnil, fun entry hentry => ?_⟩
    rcases List.mem_cons.1 (List.mem_of_mem_take hentry) with rfl | hold
    · exact hpart _ _ h.line (Text.trim_sublist _)
    · exact h.entries entry hold

theorem Everywhere.recallOlder (h : s.Everywhere P) : s.recallOlder.session.Everywhere P := by
  rw [Session.recallOlder, History.older]
  split
  · exact h
  · next line history holder =>
    split at holder
    · cases holder
    · rw [Prod.mk.injEq] at holder
      obtain ⟨hline, rfl⟩ := holder
      exact ⟨h.entries line (List.mem_of_getElem? hline), h.entries⟩

theorem Everywhere.recallNewer (hnil : P []) (h : s.Everywhere P) :
    s.recallNewer.session.Everywhere P := by
  rw [Session.recallNewer, History.newer]
  cases s.history.cursor with
  | none => exact ⟨hnil, h.entries⟩
  | some place =>
    cases place with
    | zero => exact ⟨hnil, h.entries⟩
    | succ i =>
      refine ⟨?_, h.entries⟩
      show P (s.history.entries[i]?.getD [])
      cases hentry : s.history.entries[i]? with
      | none => exact hnil
      | some entry => exact h.entries entry (List.mem_of_getElem? hentry)

/-- **How a key keeps to what lines have in common**: parts of such lines and all short lines have
it too, so only a completion can put a line there that has not. -/
theorem Everywhere.press (hpart : ∀ t u : Text, P t → u.Sublist t → P u)
    (hshort : ∀ t : Text, t.length ≤ maxCommandLength → P t) (h : s.Everywhere P)
    (clock : ClockAnswer) (key : Key)
    (hcompleted : key = .tab → ∀ line caret,
      Completion.ofLine s.line s.caret = .replaced line caret → P line) :
    (s.press clock key).session.Everywhere P := by
  have hnil : P [] := hshort [] (Nat.zero_le _)
  cases key with
  | enter => exact h.submit hpart clock
  | tab =>
    show s.complete.session.Everywhere P
    rw [complete]
    split
    · exact h
    · next line caret hline => exact h.setLine (hcompleted rfl line caret hline) caret
    · exact h
  | up => exact h.recallOlder
  | down => exact h.recallNewer hnil
  | left => exact h.setLine h.line _
  | right => exact h.setLine h.line _
  | lineStart => exact h.setLine h.line _
  | lineEnd => exact h.setLine h.line _
  | backspace =>
    show s.backspace.session.Everywhere P
    rw [backspace]
    split
    · exact h
    · exact h.setLine (hpart _ _ h.line (List.eraseIdx_sublist _ _)) _
  | delete =>
    show s.delete.session.Everywhere P
    rw [delete]
    split
    · exact h
    · exact h.setLine (hpart _ _ h.line (List.eraseIdx_sublist _ _)) _
  | char c =>
    show (s.insert c).session.Everywhere P
    rw [insert]
    split
    · exact h
    · next hroom =>
      refine h.setLine (hshort _ ?_) _
      simp only [List.length_append, List.length_cons, List.length_take, List.length_drop]
      omega
  | toggleTheme => exact h
  | quit => exact h

end Everywhere

/-! ### Runs -/

theorem pressAll_append (s : Session) (keys more : List (ClockAnswer × Key)) :
    s.pressAll (keys ++ more) = (s.pressAll keys).pressAll more :=
  List.foldl_append

/-- After any keys, all lines are within the limit but for a completed word. -/
theorem everywhere_loose (place : Place) (keys : List (ClockAnswer × Key)) :
    ((start place).pressAll keys).Everywhere Text.Loose := by
  induction keys using List.reverseRecOn with
  | nil => exact ⟨Text.loose_of_length_le (Nat.zero_le _), nofun⟩
  | append_singleton keys last ih =>
    rw [pressAll_append]
    exact ih.press (fun _ _ => Text.Loose.sublist) (fun _ => Text.loose_of_length_le) last.1 last.2
      fun _ _ _ => ih.line.completed

/-- **Whether all completions of a run stay within the limit.** -/
def CompletesWithin (s : Session) (keys : List (ClockAnswer × Key)) : Prop :=
  ∀ typed clock, typed ++ [(clock, .tab)] <+: keys →
    (s.pressAll (typed ++ [(clock, .tab)])).line.length ≤ maxCommandLength

/-- After keys whose completions stay within the limit, all lines do. -/
theorem everywhere_length_le {place : Place} {keys : List (ClockAnswer × Key)}
    (h : (start place).CompletesWithin keys) :
    ((start place).pressAll keys).Everywhere (·.length ≤ maxCommandLength) := by
  induction keys using List.reverseRecOn with
  | nil => exact ⟨Nat.zero_le _, nofun⟩
  | append_singleton keys last ih =>
    have hbefore := ih fun typed clock htyped =>
      h typed clock (htyped.trans (List.prefix_append _ _))
    rw [pressAll_append]
    refine hbefore.press (fun _ _ ht hu => hu.length_le.trans ht) (fun _ => id) last.1 last.2 ?_
    -- what the last key completes is what it leaves in the line
    intro htab line caret hline
    obtain ⟨clock, key⟩ := last
    obtain rfl : key = .tab := htab
    have hlast := h keys clock (List.prefix_refl _)
    rw [pressAll_append] at hlast
    have hcomplete : (((start place).pressAll keys).pressAll [(clock, .tab)]).line = line := by
      show ((start place).pressAll keys).complete.session.line = line
      rw [complete, hline]
      rfl
    rwa [hcomplete] at hlast

/-- A line is refused for its length exactly if it is too long without the blanks around it. -/
theorem submit_tooLong_iff (s : Session) (clock : ClockAnswer) (line : Text) :
    (s.submit clock line).outcome = some (.rejected .tooLong) ↔
      maxCommandLength < line.trim.length := by
  by_cases hb : line.isBlank = true
  · rw [submit_of_isBlank clock s hb, Text.trim_eq_nil_iff.2 hb]
    simp
  · have hnb : line.isBlank = false := by simpa using hb
    rw [submit_of_not_isBlank clock s hnb, Option.some.injEq,
      s.place.respond_eq_rejected_iff clock (Text.trim_trim line) (Text.trim_ne_nil_iff.2 hnb)]
    simp

/-- **How long a line is after any keys.** It is at most eight characters longer than the limit. As
long as the completions among the keys stay within the limit, and no longer than that, the line
does; and then it is never refused for its length. -/
theorem length_line_of_keys (place : Place) (keys : List (ClockAnswer × Key)) :
    ((start place).pressAll keys).line.length ≤ 200 + 8 ∧
      ((start place).CompletesWithin keys ↔
        ∀ typed, typed <+: keys → ((start place).pressAll typed).line.length ≤ 200) ∧
      ((start place).CompletesWithin keys → ∀ typed clock, typed <+: keys →
        (((start place).pressAll typed).press clock .enter).outcome ≠
          some (.rejected .tooLong)) := by
  have hwithin : (start place).CompletesWithin keys → ∀ typed, typed <+: keys →
      ((start place).pressAll typed).line.length ≤ 200 := by
    intro h typed htyped
    have hpart : (start place).CompletesWithin typed := fun earlier clock hearlier =>
      h earlier clock (hearlier.trans htyped)
    exact (everywhere_length_le hpart).line
  refine ⟨(everywhere_loose place keys).line.length_le, ⟨hwithin, ?_⟩, ?_⟩
  · exact fun h typed clock htab => h _ htab
  · intro h typed clock htyped hrefused
    have hlong := (submit_tooLong_iff _ clock _).1 hrefused
    have hshort := hwithin h typed htyped
    have htrim := (Text.trim_sublist ((start place).pressAll typed).line).length_le
    rw [maxCommandLength] at hlong
    omega

/-- Commands that are completed well before the limit are typed without harm. -/
theorem length_line_after_completion :
    let clock : ClockAnswer := .error (.platform [])
    let place : Place := ⟨.ofSettings .default, .home, 280⟩
    let keys : List (ClockAnswer × Key) := [(clock, .char 'h'), (clock, .tab)]
    (start place).CompletesWithin keys ∧
      ((start place).pressAll keys).line = "help ".toList ∧
      (((start place).pressAll keys).press clock .enter).outcome ≠ some (.rejected .tooLong) := by
  intro clock place keys
  have hwithin : (start place).CompletesWithin keys := by
    refine (length_line_of_keys place keys).2.1.2 fun typed htyped => ?_
    have hall : ∀ typed ∈ keys.inits, ((start place).pressAll typed).line.length ≤ 200 := by
      decide +kernel
    exact hall typed ((List.mem_inits _ _).2 htyped)
  exact ⟨hwithin, by decide +kernel,
    (length_line_of_keys place keys).2.2 hwithin keys clock (List.prefix_refl _)⟩

/-- **Characters are typed at the end of the line**, as many as fit. -/
theorem pressAll_chars (clock : ClockAnswer) {s : Session} (hcaret : s.caret = s.line.length)
    (t : Text) :
    s.pressAll (t.map (clock, .char ·)) =
      s.withLine (s.line ++ t.take (maxCommandLength - s.line.length))
        (s.line ++ t.take (maxCommandLength - s.line.length)).length := by
  induction t generalizing s with
  | nil =>
    rw [withLine, List.take_nil, List.append_nil, Nat.min_self, ← hcaret]
    rfl
  | cons c cs ih =>
    show ((s.press clock (.char c)).session).pressAll (cs.map (clock, .char ·)) = _
    by_cases hfull : maxCommandLength ≤ s.line.length
    · -- a full line stays as it is
      have hstill : (s.press clock (.char c)).session = s := by
        rw [press, insert, if_pos hfull]
        rfl
      rw [hstill, ih hcaret, Nat.sub_eq_zero_of_le hfull]
      rfl
    · have htyped : (s.press clock (.char c)).session =
          s.withLine (s.line ++ [c]) (s.line ++ [c]).length := by
        rw [press, insert, if_neg hfull, hcaret, List.take_length, List.drop_length,
          List.length_append]
        rfl
      have hroom : maxCommandLength - s.line.length =
          maxCommandLength - (s.line ++ [c]).length + 1 := by
        rw [List.length_append, List.length_singleton]
        omega
      rw [hroom, List.take_succ_cons, List.append_cons s.line c (cs.take _), htyped,
        ih (Nat.min_self _)]
      rfl

/-- Tab after characters that fit completes the word at their end. -/
theorem line_pressAll_chars_tab (place : Place) (clock : ClockAnswer) {t line : Text} {caret : Nat}
    (hfits : t.length ≤ maxCommandLength)
    (hcomplete : Completion.ofLine t t.length = .replaced line caret) :
    ((start place).pressAll (t.map (clock, .char ·) ++ [(clock, .tab)])).line = line := by
  have htyped : (start place).pressAll (t.map (clock, .char ·)) =
      (start place).withLine t t.length := by
    rw [pressAll_chars clock rfl, start, List.nil_append, List.length_nil, Nat.sub_zero,
      List.take_of_length_le hfits]
  rw [pressAll_append, htyped]
  show ((start place).withLine t t.length).complete.session.line = line
  rw [complete, withLine, Nat.min_self, hcomplete]
  rfl

/-- **A line that is refused for its length after a completion.** Two hundred characters are typed,
the last of them a fragment, and Tab makes a target of it. -/
theorem refused_after_completion :
    let clock : ClockAnswer := .error (.platform [])
    let place : Place := ⟨.ofSettings .default, .home, 280⟩
    let typed := "cd".toList ++ List.replicate 197 ' ' ++ "p".toList
    let s := (start place).pressAll (typed.map (clock, .char ·) ++ [(clock, .tab)])
    s.line.length = 208 ∧ (s.press clock .enter).outcome = some (.rejected .tooLong) := by
  -- a let-bound session would be run to its end to read its line
  dsimp only
  obtain ⟨t, ht⟩ : ∃ t, t = "cd".toList ++ List.replicate 197 ' ' ++ "p".toList := ⟨_, rfl⟩
  obtain ⟨line, hcomplete, hlength, hlong⟩ : ∃ line, Completion.ofLine t t.length =
      .replaced line 208 ∧ line.length = 208 ∧ maxCommandLength < line.trim.length := by
    rw [ht]
    exact ⟨"cd".toList ++ List.replicate 197 ' ' ++ "projects ".toList, by decide +kernel⟩
  have hfits : t.length ≤ maxCommandLength := by
    rw [ht]
    decide +kernel
  rw [← ht, line_pressAll_chars_tab _ _ hfits hcomplete]
  refine ⟨hlength, ?_⟩
  rw [press, submit_tooLong_iff, line_pressAll_chars_tab _ _ hfits hcomplete]
  exact hlong

end Session

end PageShell
