import ContractWatch.Json.Parser
import ContractWatch.Json.Printer
import ContractWatch.Proofs.Text.Decimal
import ContractWatch.Proofs.Text.Hex

/-!
Strings and whole numbers read back from their JSON text.
-/

namespace ContractWatch.Json.Parser

/-! ### Strings -/

theorem unit_pair {n : Nat} (h : n < 256) :
    unit? '0' '0' (Nat.digitChar (n / 16)) (Nat.digitChar (n % 16)) = some n := by
  have hx := Hex.digit?_digitChar (n / 16) (by omega)
  have hy := Hex.digit?_digitChar (n % 16) (by omega)
  have hz : Hex.digit? '0' = some 0 := rfl
  simp only [unit?, hx, hy, hz, Nat.zero_mul, Nat.zero_add, Option.some.injEq]
  omega

theorem string_end (acc cs : List Char) :
    string acc true ('"' :: cs) = some (some (String.ofList acc.reverse), cs) := by
  simp [string]

theorem string_short {e c : Char} (h : escaped? e = some c) (acc cs : List Char) :
    string acc true ('\\' :: e :: cs) = string (c :: acc) true cs := by
  have he : e ≠ 'u' := by
    rintro rfl
    simp [escaped?] at h
  rw [string]
  · simp [h]
  · rintro _ _ _ _ _ rfl
    exact absurd rfl he

theorem string_unit {n : Nat} (h : n < 0x20) (acc cs : List Char) :
    string acc true ('\\' :: 'u' :: '0' :: '0' :: (Hex.pair (UInt8.ofNat n) ++ cs)) =
      string (Char.ofNat n :: acc) true cs := by
  have hn : (UInt8.ofNat n).toNat = n := by
    rw [UInt8.toNat_ofNat']
    omega
  have hu := unit_pair (n := n) (by omega)
  have hhigh : isHigh n = false := by simp [isHigh]; omega
  have hlow : isLow n = false := by simp [isLow]; omega
  simp only [Hex.pair, hn, List.cons_append, List.nil_append]
  rw [string, hu]
  simp [hhigh, hlow]

theorem string_plain {c : Char} (hq : c ≠ '"') (hb : c ≠ '\\') (hc : 0x20 ≤ c.toNat) (acc cs : List Char) :
    string acc true (c :: cs) = string (c :: acc) true cs := by
  rw [string]
  · rw [if_neg (Nat.not_lt.2 hc)]
  · intro h
    exact absurd h hq
  · intro _ _ _ _ _ h
    exact absurd h hb
  · intro _ _ h
    exact absurd h hb

theorem string_escape (c : Char) (acc cs : List Char) :
    string acc true (escape c ++ cs) = string (c :: acc) true cs := by
  have hshort (e c' : Char) (he : escaped? e = some c') (heq : c = c') :
      string acc true (['\\', e] ++ cs) = string (c :: acc) true cs := heq ▸ string_short he acc cs
  unfold escape
  split
  · exact hshort '"' _ rfl ‹_›
  split
  · exact hshort '\\' _ rfl ‹_›
  split
  · exact hshort 'b' _ rfl ‹_›
  split
  · exact hshort 'f' _ rfl ‹_›
  split
  · exact hshort 'n' _ rfl ‹_›
  split
  · exact hshort 'r' _ rfl ‹_›
  split
  · exact hshort 't' _ rfl ‹_›
  split
  · rename_i h
    have hs := string_unit h acc cs
    rwa [Char.ofNat_toNat] at hs
  · rename_i hq hb _ _ _ _ _ h
    exact string_plain hq hb (Nat.not_lt.1 h) acc cs

theorem string_escapes (acc s cs : List Char) :
    string acc true (s.flatMap escape ++ '"' :: cs) = some (some (String.ofList (acc.reverse ++ s)), cs) := by
  induction s generalizing acc with
  | nil => simp [string_end]
  | cons c s ih =>
    rw [List.flatMap_cons, List.append_assoc, string_escape, ih]
    simp

/-- A quoted text is read back after its first quote. -/
theorem string_quoted (s : String) (cs : List Char) :
    ∃ r, quoted s ++ cs = '"' :: r ∧ string [] true r = some (some s, cs) := by
  refine ⟨s.toList.flatMap escape ++ '"' :: cs, by simp [quoted], ?_⟩
  rw [string_escapes, List.reverse_nil, List.nil_append, String.ofList_toList]

/-! ### Numbers -/

/-- What may follow a value: nothing, or what separates and closes lists and records. -/
def Ends (cs : List Char) : Prop := ∀ c, cs.head? = some c → c = ',' ∨ c = ']' ∨ c = '}'

theorem ends_nil : Ends [] := fun _ h => by cases h

theorem ends_cons {c : Char} (h : c = ',' ∨ c = ']' ∨ c = '}') (cs : List Char) : Ends (c :: cs) := by
  intro c' hc
  obtain rfl := Option.some.inj hc
  exact h

theorem Ends.head_ne {cs : List Char} (h : Ends cs) {p : Char → Bool} (hp : p ',' = false) (hp' : p ']' = false)
    (hp'' : p '}' = false) : ∀ c, cs.head? = some c → p c = false := by
  intro c hc
  obtain rfl | rfl | rfl := h c hc
  · exact hp
  · exact hp'
  · exact hp''

theorem digits_append {ds cs : List Char} (hds : ∀ c ∈ ds, Decimal.isDigit c) (hcs : Ends cs) :
    digits (ds ++ cs) = (ds, cs) := by
  have hend := hcs.head_ne (p := Decimal.isDigit) rfl rfl rfl
  rw [digits, List.takeWhile_append_of_pos hds, List.dropWhile_append_of_pos hds]
  cases cs with
  | nil => simp
  | cons c cs => simp [hend c rfl]

theorem whole_digits (n : Nat) {cs : List Char} (h : Ends cs) :
    whole? (Decimal.digits n ++ cs) = some (Decimal.digits n, cs) := by
  by_cases hn : n = 0
  · subst hn
    rfl
  · obtain ⟨c, ds, hd, hc⟩ := Decimal.digits_head hn
    have happ := digits_append (fun _ => Decimal.isDigit_of_mem_digits (n := n)) h
    rw [hd] at happ ⊢
    rw [List.cons_append, whole?]
    · rw [← List.cons_append, happ]
    · intro _ h0
      exact absurd (List.cons.inj h0).1 hc

theorem fraction_ends {cs : List Char} (h : Ends cs) : fraction? cs = some ([], cs) := by
  rw [fraction?]
  rintro cs rfl
  simpa using h '.' rfl

theorem exponent_ends {cs : List Char} (h : Ends cs) : exponent? cs = some (none, cs) := by
  rw [exponent?]
  · rintro cs rfl
    simpa using h 'e' rfl
  · rintro cs rfl
    simpa using h 'E' rfl

theorem numberValue_digits {negative : Bool} {k : Nat} {n : Int} (hn : n = if negative then -(k : Int) else k)
    (hlow : -0x8000000000000000 ≤ n) (hhigh : n < 0x10000000000000000) (hzero : negative → k ≠ 0)
    (spelling : List Char) :
    numberValue negative (Decimal.digits k) [] none spelling = .int n := by
  have hsign : !(negative ∧ k = 0) := by
    cases negative <;> simp_all
  simp only [numberValue, Decimal.value_digits, ← hn]
  rw [if_pos ⟨rfl, rfl, hlow, hhigh, hsign⟩]

theorem number_intDigits {n : Int} (hlow : -0x8000000000000000 ≤ n) (hhigh : n < 0x10000000000000000) {cs : List Char}
    (h : Ends cs) :
    number (Decimal.intDigits n ++ cs) = some (.int n, cs) := by
  unfold Decimal.intDigits
  split
  · have hn : n = if true then -(n.natAbs : Int) else n.natAbs := by
      rw [if_pos rfl]
      omega
    have hzero : n.natAbs ≠ 0 := by omega
    simp only [number, List.cons_append, whole_digits n.natAbs h, fraction_ends h, exponent_ends h,
      numberValue_digits hn hlow hhigh fun _ => hzero]
  · have hn : n = if false then -(n.natAbs : Int) else n.natAbs := by
      rw [if_neg Bool.false_ne_true]
      omega
    have hsign : ∀ r, Decimal.digits n.natAbs ++ cs ≠ '-' :: r := by
      intro r hr
      obtain ⟨c, ds, hd⟩ := List.exists_cons_of_ne_nil (Decimal.digits_ne_nil n.natAbs)
      rw [hd, List.cons_append, List.cons.injEq] at hr
      have hmem : '-' ∈ Decimal.digits n.natAbs := by
        rw [hd, ← hr.1]
        exact List.mem_cons_self
      exact absurd (Decimal.isDigit_of_mem_digits hmem) (by decide)
    unfold number
    split
    rename_i negative body heq
    split at heq
    · exact absurd ‹_› (hsign _)
    · obtain ⟨rfl, rfl⟩ := Prod.mk.inj heq
      simp only [whole_digits n.natAbs h, fraction_ends h, exponent_ends h,
        numberValue_digits hn hlow hhigh fun h => absurd h Bool.false_ne_true]

end ContractWatch.Json.Parser
