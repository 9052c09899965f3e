import PageShell.Proofs.Toml.Strings

/-!
# Written values are read back

Settings are strings, natural numbers and booleans. The written form of each
is read back as the value, when the end of its line follows.

* `integer?_ofNat` — the decimal digits of a number that fits are that number;
* `value_of_quoted`, `value_of_token` — a value is a string or one token;
* `value_writeString`, `value_ofNat`, `value_writeBoolean` — **the three kinds
  of settings are read back**.
-/

namespace PageShell.Toml

/-! ### Decimal digits -/

theorem digitValue_digitChar : ∀ d < 10, digitValue (Nat.digitChar d) = d := by
  decide

theorem ofDigits_append_singleton (base : Nat) (digits : Text) (c : Char) :
    ofDigits base (digits ++ [c]) = base * ofDigits base digits + digitValue c := by
  rw [ofDigits, List.foldl_append]
  rfl

/-- **The digits of a number have its value.** -/
theorem ofDigits_toDigits (n : Nat) : ofDigits 10 (Nat.toDigits 10 n) = n := by
  induction n using Nat.strongRecOn with
  | ind n ih =>
    by_cases hn : n < 10
    · rw [Nat.toDigits_of_lt_base hn, ← List.nil_append [n.digitChar], ofDigits_append_singleton,
        digitValue_digitChar n hn]
      exact Nat.zero_add n
    · rw [Nat.toDigits_of_base_le (by decide) (by omega), ofDigits_append_singleton,
        ih (n / 10) (by omega), digitValue_digitChar _ (by omega)]
      omega

theorem isDigit_of_mem_ofNat {n : Nat} {c : Char} (h : c ∈ Text.ofNat n) : c.isDigit = true :=
  Nat.isDigit_of_mem_toDigits (by decide) (by decide) h

/-- Only zero is written with a zero in front. -/
theorem ofNat_eq_cons_zero {n : Nat} {ds : Text} (h : Text.ofNat n = '0' :: ds) : n = 0 := by
  induction n using Nat.strongRecOn generalizing ds with
  | ind n ih =>
    by_cases hn : n < 10
    · have hdigit : ∀ d < 10, Nat.digitChar d = '0' → d = 0 := by decide
      rw [Text.ofNat, Nat.toDigits_of_lt_base hn] at h
      exact hdigit n hn (List.cons.inj h).1
    · obtain ⟨c, cs, hfront⟩ : ∃ c cs, Nat.toDigits 10 (n / 10) = c :: cs :=
        List.exists_cons_of_ne_nil Nat.toDigits_ne_nil
      rw [Text.ofNat, Nat.toDigits_of_base_le (by decide) (by omega), hfront, List.cons_append] at h
      obtain ⟨rfl, -⟩ := List.cons.inj h
      have hzero : n / 10 = 0 := ih (n / 10) (by omega) hfront
      omega

theorem ungroup_of_all {isDigit : Char → Bool} (hunderscore : isDigit '_' = false) {t : Text}
    (hne : t ≠ []) (h : ∀ c ∈ t, isDigit c = true) : ungroup isDigit t = some t := by
  fun_induction ungroup isDigit t <;> simp_all

theorem decimalDigits?_ofNat (n : Nat) : decimalDigits? (Text.ofNat n) = some (Text.ofNat n) := by
  have hungroup : ungroup Char.isDigit (Text.ofNat n) = some (Text.ofNat n) :=
    ungroup_of_all (by decide) Nat.toDigits_ne_nil fun c hc => isDigit_of_mem_ofNat hc
  rw [decimalDigits?, hungroup]
  refine if_neg fun hleading => ?_
  rw [Bool.and_eq_true, decide_eq_true_eq, beq_iff_eq] at hleading
  obtain ⟨hlength, hhead⟩ := hleading
  obtain ⟨ds, hds⟩ := List.head?_eq_some_iff.1 hhead
  rw [ofNat_eq_cons_zero hds] at hlength
  exact absurd hlength (by decide)

/-- **A number that fits into 64 bits with a sign is read back from its digits.** -/
theorem integer?_ofNat {n : Nat} (h : n < 0x8000000000000000) :
    integer? (Text.ofNat n) = some (n : Int) := by
  have hdigits := decimalDigits?_ofNat n
  have hvalue : ofDigits 10 (Text.ofNat n) = n := ofDigits_toDigits n
  have hdigit : ∀ c ∈ Text.ofNat n, c.isDigit = true := fun c hc => isDigit_of_mem_ofNat hc
  generalize Text.ofNat n = digits at hdigits hvalue hdigit
  have hsign : splitSign digits = (false, digits) := by
    refine splitSign.eq_3 digits ?_ ?_
    · rintro ds rfl
      exact absurd (hdigit '+' List.mem_cons_self) (by decide)
    · rintro ds rfl
      exact absurd (hdigit '-' List.mem_cons_self) (by decide)
  have hbase : ∀ letter ds, letter.isDigit = false → digits ≠ '0' :: letter :: ds := by
    rintro letter ds hletter rfl
    rw [hdigit letter (List.mem_cons_of_mem _ List.mem_cons_self)] at hletter
    cases hletter
  rw [integer?.eq_4 digits (fun ds => hbase 'x' ds (by decide)) (fun ds => hbase 'o' ds (by decide))
    fun ds => hbase 'b' ds (by decide), hsign]
  dsimp only
  rw [hdigits, Option.bind_eq_bind, Option.bind_some, hvalue, if_neg Bool.false_ne_true, inRange?,
    if_pos (by omega)]

/-! ### Values -/

/-- A value without brackets is a string or a token, at any depth. -/
theorem value_of_plain {c : Char} (hc : c ≠ '[' ∧ c ≠ '\x7b') (cs : Text) (depth : Nat) :
    value depth (c :: cs) =
      ((quoted (c :: cs)).map fun (t, rest) => (Node.text t, rest)).or (tokenValue (c :: cs)) := by
  cases depth with
  | zero => exact Option.orElse_eq_or
  | succ depth =>
    rw [value]
    dsimp only
    split
    · next heq => exact absurd (List.cons.inj heq).1 hc.1
    · next heq => exact absurd (List.cons.inj heq).1 hc.2
    · exact Option.orElse_eq_or

/-- Only a quote opens a string. -/
theorem quoted_eq_none {c : Char} (hc : c ≠ '"' ∧ c ≠ '\'') (cs : Text) :
    quoted (c :: cs) = none := by
  rw [quoted.eq_3 _ (fun _ heq => hc.1 (List.cons.inj heq).1) fun _ heq =>
    hc.2 (List.cons.inj heq).1]
  exact singleQuoted.eq_3 _ (fun _ heq => hc.1 (List.cons.inj heq).1) fun _ heq =>
    hc.2 (List.cons.inj heq).1

/-- No value begins with a space. -/
theorem skipSpaces_of_value {s : Text} {v : Node × Text} {depth : Nat}
    (h : value depth s = some v) : skipSpaces s = s := by
  cases s with
  | nil => rfl
  | cons c cs =>
    refine List.dropWhile_cons_of_neg fun hspace => ?_
    obtain rfl | rfl : c = ' ' ∨ c = '\t' := by simpa [isSpace] using hspace
    · rw [value_of_plain (by decide), quoted_eq_none (by decide)] at h
      cases h
    · rw [value_of_plain (by decide), quoted_eq_none (by decide)] at h
      cases h

/-- A string is a value at any depth. -/
theorem value_of_quoted {s t rest : Text} (h : quoted s = some (t, rest)) (depth : Nat) :
    value depth s = some (.text t, rest) := by
  cases s with
  | nil => cases h
  | cons c cs =>
    have hc : c ≠ '[' ∧ c ≠ '\x7b' := by
      constructor <;> (rintro rfl; cases h)
    rw [value_of_plain hc, h]
    rfl

/-- **A written string is read back as a value.** -/
theorem value_writeString (depth : Nat) (t rest : Text) :
    value depth (writeString t ++ '\n' :: rest) = some (.text t, '\n' :: rest) := by
  have hend : ∀ c, c ≠ '\n' → ('\n' :: rest).head? ≠ some c := fun c hc heq =>
    hc (Option.some.inj heq).symm
  exact value_of_quoted (quoted_writeString t (hend _ (by decide)) (hend _ (by decide))) depth

/-- A token is a value at any depth. -/
theorem value_of_token {token rest : Text} {v : Node} (hne : token ≠ [])
    (htoken : ∀ c ∈ token, isTokenChar c = true)
    (h : tokenValue (token ++ rest) = some (v, rest)) (depth : Nat) :
    value depth (token ++ rest) = some (v, rest) := by
  obtain ⟨c, cs, rfl⟩ := List.exists_cons_of_ne_nil hne
  have hc : isTokenChar c = true := htoken c List.mem_cons_self
  have hno : ∀ d, isTokenChar d = false → c ≠ d := by
    rintro d hd rfl
    rw [hc] at hd
    cases hd
  rw [List.cons_append] at h ⊢
  rw [value_of_plain ⟨hno _ (by decide), hno _ (by decide)⟩,
    quoted_eq_none ⟨hno _ (by decide), hno _ (by decide)⟩]
  exact h

/-- A token ends where no character of tokens follows. -/
theorem token_append {token : Text} (htoken : ∀ c ∈ token, isTokenChar c = true) (rest : Text) :
    (token ++ '\n' :: rest).takeWhile isTokenChar = token ∧
      (token ++ '\n' :: rest).dropWhile isTokenChar = '\n' :: rest :=
  takeWhile_dropWhile_append htoken (by rintro _ ⟨⟩; rfl)

/-- **A written number is read back as a value.** -/
theorem value_ofNat (depth : Nat) {n : Nat} (h : n < 0x8000000000000000) (rest : Text) :
    value depth (Text.ofNat n ++ '\n' :: rest) = some (.integer n, '\n' :: rest) := by
  have htoken : ∀ c ∈ Text.ofNat n, isTokenChar c = true := fun c hc => by
    simp [isTokenChar, Char.isAlphanum, isDigit_of_mem_ofNat hc]
  have hword : ∀ word c, c ∈ word → c.isDigit = false → Text.ofNat n ≠ word := by
    rintro _ c hmem hc rfl
    rw [isDigit_of_mem_ofNat hmem] at hc
    cases hc
  have hne : Text.ofNat n ≠ [] := Nat.toDigits_ne_nil
  obtain ⟨htake, hdrop⟩ := token_append htoken rest
  refine value_of_token hne htoken ?_ depth
  rw [tokenValue, htake, hdrop]
  dsimp only
  rw [if_neg (hword _ 't' (by decide) (by decide)), if_neg (hword _ 'f' (by decide) (by decide)),
    integer?_ofNat h]

/-- **A written boolean is read back as a value.** -/
theorem value_writeBoolean (depth : Nat) (b : Bool) (rest : Text) :
    value depth (writeBoolean b ++ '\n' :: rest) = some (.boolean b, '\n' :: rest) := by
  have hne : writeBoolean b ≠ [] := by
    cases b <;> exact List.cons_ne_nil _ _
  have hall : (writeBoolean b).all isTokenChar = true := by
    cases b <;> rfl
  have htoken := List.all_eq_true.1 hall
  obtain ⟨htake, hdrop⟩ := token_append htoken rest
  refine value_of_token hne htoken ?_ depth
  rw [tokenValue, htake, hdrop]
  cases b <;> rfl

end PageShell.Toml
