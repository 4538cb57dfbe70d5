import ContractWatch.Text.Blank
import ContractWatch.Text.Decimal

/-!
Decimal digits read back.
-/

namespace ContractWatch.Decimal

theorem toNat_of_isDigit {c : Char} (h : isDigit c = true) : 48 ≤ c.toNat ∧ c.toNat ≤ 57 := by
  simp only [isDigit, Bool.and_eq_true, decide_eq_true_eq, Char.le_def, UInt32.le_iff_toNat_le] at h
  exact h

theorem isBlank_of_isDigit {c : Char} (h : isDigit c = true) : Text.isBlank c = false := by
  have hc := toNat_of_isDigit h
  simp only [Text.isBlank, Text.blankRanges, List.any_cons, List.any_nil, Bool.or_eq_false_iff, Bool.and_eq_false_iff,
    decide_eq_false_iff_not, and_true]
  omega

theorem isDigit_of_mem_digits {n : Nat} {c : Char} (h : c ∈ digits n) : isDigit c :=
  Nat.isDigit_of_mem_toDigits (by decide) (by decide) h

theorem digits_ne_nil (n : Nat) : digits n ≠ [] := Nat.toDigits_ne_nil

theorem valueFrom_nil (acc : Nat) : valueFrom acc [] = acc := rfl

theorem valueFrom_cons (acc : Nat) (c : Char) (cs : List Char) :
    valueFrom acc (c :: cs) = valueFrom (acc * 10 + digitValue c) cs := by rfl

theorem valueFrom_eq (acc : Nat) (cs : List Char) : valueFrom acc cs = Nat.ofDigitChars 10 cs acc := by
  induction cs generalizing acc with
  | nil => rw [valueFrom_nil, Nat.ofDigitChars_nil]
  | cons c cs ih =>
    rw [valueFrom_cons, ih, Nat.ofDigitChars_cons, Nat.mul_comm]
    rfl

@[simp] theorem value_digits (n : Nat) : value (digits n) = n := by
  rw [value, valueFrom_eq, digits, Nat.ofDigitChars_ten_toDigits]

/-- Only zero begins with a zero. -/
theorem digits_head {n : Nat} (h : n ≠ 0) : ∃ c cs, digits n = c :: cs ∧ c ≠ '0' := by
  induction n using Nat.strongRecOn with
  | ind n ih =>
    by_cases hn : n < 10
    · have hc : ∀ n < 10, n ≠ 0 → Nat.digitChar n ≠ '0' := by decide
      exact ⟨_, _, Nat.toDigits_of_lt_base hn, hc n hn h⟩
    · obtain ⟨c, cs, hd, hc⟩ := ih (n / 10) (by omega) (by omega)
      refine ⟨c, cs ++ [Nat.digitChar (n % 10)], ?_, hc⟩
      rw [digits, Nat.toDigits_of_base_le (by decide) (by omega), ← digits, hd]
      rfl

/-! ### Words -/

theorem product?_eq_some_iff (a b c : UInt64) : product? a b = some c ↔ c.toNat = a.toNat * b.toNat := by
  have hc := c.toNat_lt
  unfold product?
  split
  · rename_i h
    rw [Option.some.injEq, ← UInt64.toNat_inj, UInt64.toNat_mul, Nat.mod_eq_of_lt h, eq_comm]
  · constructor
    · intro h
      contradiction
    · omega

theorem sum?_eq_some_iff (a b c : UInt64) : sum? a b = some c ↔ c.toNat = a.toNat + b.toNat := by
  have hc := c.toNat_lt
  unfold sum?
  split
  · rename_i h
    rw [Option.some.injEq, ← UInt64.toNat_inj, UInt64.toNat_add, Nat.mod_eq_of_lt h, eq_comm]
  · constructor
    · intro h
      contradiction
    · omega

theorem digitValue_lt {c : Char} (h : isDigit c = true) : digitValue c < 10 := by
  have hc := toNat_of_isDigit h
  rw [digitValue]
  omega

theorem le_valueFrom (acc : Nat) (cs : List Char) : acc ≤ valueFrom acc cs := by
  induction cs generalizing acc with
  | nil => exact Nat.le_refl _
  | cons c cs ih => exact Nat.le_trans (by omega) (ih (acc * 10 + digitValue c))

/-- A digit that there is no room for leaves none for the whole number: more digits make it no smaller. -/
theorem wordFrom?_eq_some_iff (acc : UInt64) (cs : List Char) (w : UInt64) :
    wordFrom? acc cs = some w ↔ (∀ c ∈ cs, isDigit c = true) ∧ valueFrom acc.toNat cs = w.toNat := by
  induction cs generalizing acc with
  | nil => simp [wordFrom?, valueFrom_nil, UInt64.toNat_inj]
  | cons c cs ih =>
    rw [List.forall_mem_cons, valueFrom_cons, wordFrom?]
    by_cases hc : isDigit c = true
    · have hd := digitValue_lt hc
      have hdigit : (UInt64.ofNat (digitValue c)).toNat = digitValue c :=
        UInt64.toNat_ofNat_of_lt' (Nat.lt_trans hd (by decide))
      have hten : (10 : UInt64).toNat = 10 := rfl
      simp only [hc, if_true, Option.bind_eq_bind, Option.bind_eq_some_iff, product?_eq_some_iff, sum?_eq_some_iff, ih,
        hdigit, hten, true_and]
      constructor
      · rintro ⟨shifted, hshifted, next, hnext, hcs, hw⟩
        rw [← hshifted, ← hnext]
        exact ⟨hcs, hw⟩
      · rintro ⟨hcs, hw⟩
        have hroom : acc.toNat * 10 + digitValue c < 2 ^ 64 :=
          Nat.lt_of_le_of_lt (le_valueFrom _ cs) (hw ▸ w.toNat_lt)
        have hshifted : (UInt64.ofNat (acc.toNat * 10)).toNat = acc.toNat * 10 :=
          UInt64.toNat_ofNat_of_lt' (Nat.lt_of_le_of_lt (Nat.le_add_right _ _) hroom)
        have hnext := UInt64.toNat_ofNat_of_lt' hroom
        exact ⟨_, hshifted, _, hnext.trans (by rw [hshifted]), hcs, by rw [hnext, hw]⟩
    · simp [hc]

theorem word?_eq_some_iff (cs : List Char) (w : UInt64) :
    word? cs = some w ↔ cs ≠ [] ∧ (∀ c ∈ cs, isDigit c = true) ∧ value cs = w.toNat := by
  rw [word?]
  split
  · rename_i h
    simp [List.isEmpty_iff.1 h]
  · rename_i h
    rw [List.isEmpty_iff] at h
    rw [wordFrom?_eq_some_iff]
    simp [h, value]

/-! ### Zeros in front -/

theorem isDigit_of_mem_padded {w n : Nat} {c : Char} (h : c ∈ padded w n) : isDigit c := by
  rcases List.mem_append.1 h with hz | hd
  · rw [List.eq_of_mem_replicate hz]
    rfl
  · exact isDigit_of_mem_digits hd

theorem padded_ne_nil (w n : Nat) : padded w n ≠ [] := by
  simp [padded, digits_ne_nil]

theorem padded_head (w n : Nat) : ∃ c cs, padded w n = c :: cs ∧ isDigit c := by
  obtain ⟨c, cs, hc⟩ := List.exists_cons_of_ne_nil (padded_ne_nil w n)
  exact ⟨c, cs, hc, isDigit_of_mem_padded (hc ▸ List.mem_cons_self)⟩

theorem length_padded {w n : Nat} (hw : 0 < w) (h : n < Nat.pow 10 w) : (padded w n).length = w := by
  have hlen : (digits n).length ≤ w := (Nat.length_toDigits_le_iff (by decide) hw).2 h
  rw [padded, List.length_append, List.length_replicate]
  omega

@[simp] theorem value_padded (w n : Nat) : value (padded w n) = n := by
  rw [padded, value, valueFrom_eq, Nat.ofDigitChars_append, Nat.ofDigitChars_replicate_zero, Nat.mul_zero,
    ← valueFrom_eq, ← value, value_digits]

end ContractWatch.Decimal
