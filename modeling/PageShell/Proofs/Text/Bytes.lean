import Mathlib.Tactic.SplitIfs
import PageShell.Text.Basic

/-!
# The order of texts is the order of their bytes

Texts are compared by their first differing character. A text written in
UTF-8 is compared by its first differing byte, and that is the same order: of
two different characters the smaller one has the smaller byte where their
encodings differ, and neither encoding begins the other.

* `Text.utf8` — the bytes of a text;
* `utf8EncodeChar_lt` — the smaller character decides, whatever follows it;
* `Text.utf8_lt_utf8` — **bytes are in the order of the texts**.
-/

namespace PageShell

/-- The bytes of a text in UTF-8. -/
def Text.utf8 (t : Text) : List UInt8 :=
  t.flatMap String.utf8EncodeChar

theorem utf8EncodeChar_lt {c d : Char} (h : c < d) (s t : List UInt8) :
    String.utf8EncodeChar c ++ s < String.utf8EncodeChar d ++ t := by
  have hlt : c.val.toNat < d.val.toNat := h
  have hc := c.val.toNat_lt
  have hd : d.val.toNat < 1114112 := by
    rcases d.valid with hd | ⟨-, hd⟩
    · exact Nat.lt_trans hd (by decide)
    · exact hd
  simp only [String.utf8EncodeChar]
  generalize c.val.toNat = m at *
  generalize d.val.toNat = n at *
  -- the first digit to the base 64 in which the two differ
  have hlast : m / 64 < n / 64 ∨ m / 64 = n / 64 ∧ m % 64 < n % 64 := by omega
  have hthird : m / 64 < n / 64 →
      m / 4096 < n / 4096 ∨ m / 4096 = n / 4096 ∧ m / 64 % 64 < n / 64 % 64 := by omega
  have hsecond : m / 4096 < n / 4096 →
      m / 262144 < n / 262144 ∨ m / 262144 = n / 262144 ∧ m / 4096 % 64 < n / 4096 % 64 := by omega
  have hm : m / 262144 % 8 = m / 262144 := by omega
  have hn : n / 262144 % 8 = n / 262144 := by omega
  have hbyte : ∀ x < 256, (UInt8.ofNat x).toNat = x := fun x hx => by
    rw [UInt8.toNat_ofNat', Nat.mod_eq_of_lt hx]
  split_ifs <;>
    simp (disch := omega) only [List.cons_append, List.nil_append, List.cons_lt_cons_iff,
      UInt8.lt_iff_toNat_lt, ← UInt8.toNat_inj, hm, hn, hbyte] <;>
    omega

namespace Text

theorem utf8_lt_of_lt {a b : Text} (h : a < b) : a.utf8 < b.utf8 := by
  induction h with
  | @nil c cs =>
    obtain ⟨x, xs, hbytes⟩ := List.exists_cons_of_ne_nil (String.utf8EncodeChar_ne_nil (c := c))
    rw [utf8, utf8, List.flatMap_cons, hbytes]
    exact List.nil_lt_cons x _
  | @cons c cs ds h ih =>
    rw [utf8, utf8, List.flatMap_cons, List.flatMap_cons]
    exact List.append_left_lt ih
  | rel h => exact utf8EncodeChar_lt h _ _

/-- **Bytes are in the order of the texts.** -/
theorem utf8_lt_utf8 {a b : Text} : a.utf8 < b.utf8 ↔ a < b := by
  refine ⟨fun h => ?_, utf8_lt_of_lt⟩
  rcases Std.lt_trichotomy a b with hlt | rfl | hgt
  · exact hlt
  · exact absurd h (List.lt_irrefl _)
  · exact absurd h (List.lt_asymm (utf8_lt_of_lt hgt))

end Text

end PageShell
