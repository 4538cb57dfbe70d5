import Mathlib.Data.Bool.AllAny
import ContractWatch.Proofs.Octets
import ContractWatch.Proofs.Text.Normal

/-!
Pairs of digits with blanks among them. A reader of pairs takes all digits in their order: it ends well exactly if there
are as many as it was to read, and no other characters but blanks.
-/

namespace ContractWatch.Hex

open Octets (halves)

/-! ### Digits -/

theorem digit?_eq (c : Char) : digit? c =
    if 48 ≤ c.toNat ∧ c.toNat ≤ 57 then some (c.toNat - 48)
    else if 97 ≤ c.toNat ∧ c.toNat ≤ 102 then some (c.toNat - 97 + 10)
    else if 65 ≤ c.toNat ∧ c.toNat ≤ 70 then some (c.toNat - 65 + 10)
    else none := by
  simp only [digit?, Char.le_def, UInt32.le_iff_toNat_le]
  rfl

/-- The digits of either case, one by one. -/
theorem digit?_isSome_iff (c : Char) : (digit? c).isSome = true ↔ c ∈ "0123456789abcdefABCDEF".toList := by
  have hlow : ∀ n < 128, (digit? (Char.ofNat n)).isSome = true ↔ Char.ofNat n ∈ "0123456789abcdefABCDEF".toList := by
    decide +kernel
  have hhigh : ∀ c ∈ "0123456789abcdefABCDEF".toList, c.toNat < 128 :=
    List.all_iff_forall_prop.1 (by decide)
  by_cases hc : c.toNat < 128
  · have h := hlow c.toNat hc
    rwa [Char.ofNat_toNat] at h
  · constructor
    · intro h
      rw [digit?_eq] at h
      grind
    · intro h
      exact absurd (hhigh c h) hc

theorem digit?_toLower (c : Char) : digit? c.toLower = digit? c := by
  obtain ⟨-, h⟩ | ⟨h, hc⟩ := toLower_cases c
  · rw [h]
  · rw [digit?_eq, digit?_eq, hc]
    split <;> split <;> grind

theorem lt_of_digit? {c : Char} {n : Nat} (h : digit? c = some n) : n < 16 := by
  rw [digit?_eq] at h
  grind

/-- A digit of either case is spelled by its value. -/
theorem toLower_of_digit? {c : Char} {n : Nat} (h : digit? c = some n) : c.toLower = Nat.digitChar n := by
  have hcapital := toLower_not_capital c
  have hchar : ∀ n < 16, (Nat.digitChar n).toNat = if n < 10 then 48 + n else 87 + n := by decide
  apply Char.toNat_inj.1
  rw [hchar n (lt_of_digit? h)]
  rw [← digit?_toLower, digit?_eq] at h
  grind

theorem digit?_of_isBlank {c : Char} (h : isBlank c = true) : digit? c = none := by
  simp only [isBlank, Bool.or_eq_true, decide_eq_true_eq] at h
  obtain ((rfl | rfl) | rfl) | rfl := h <;> rfl

theorem isBlank_of_digit? {c : Char} {n : Nat} (h : digit? c = some n) : isBlank c = false := by
  cases hb : isBlank c with
  | false => rfl
  | true =>
    rw [digit?_of_isBlank hb] at h
    contradiction

/-! ### Digits of a text -/

/-- Nothing but digits and blanks. -/
def IsClean (cs : List Char) : Prop := ∀ c ∈ cs, isBlank c = true ∨ (digit? c).isSome = true

/-- The values of the digits, in their order. -/
def values (cs : List Char) : List Nat := cs.filterMap digit?

theorem values_append (cs ds : List Char) : values (cs ++ ds) = values cs ++ values ds := List.filterMap_append ..

theorem values_cons_of_digit? {c : Char} {n : Nat} (h : digit? c = some n) (cs : List Char) :
    values (c :: cs) = n :: values cs := List.filterMap_cons_some h

theorem values_cons_of_isBlank {c : Char} (h : isBlank c = true) (cs : List Char) : values (c :: cs) = values cs :=
  List.filterMap_cons_none (digit?_of_isBlank h)

theorem isClean_cons (c : Char) (cs : List Char) :
    IsClean (c :: cs) ↔ (isBlank c = true ∨ (digit? c).isSome = true) ∧ IsClean cs := List.forall_mem_cons

theorem isClean_append (cs ds : List Char) : IsClean (cs ++ ds) ↔ IsClean cs ∧ IsClean ds := List.forall_mem_append

theorem all_blank_iff (cs : List Char) : (∀ c ∈ cs, isBlank c = true) ↔ IsClean cs ∧ values cs = [] := by
  rw [values, List.filterMap_eq_nil_iff]
  constructor
  · intro h
    exact ⟨fun c hc => .inl (h c hc), fun c hc => digit?_of_isBlank (h c hc)⟩
  · rintro ⟨hclean, hnone⟩ c hc
    obtain hb | hd := hclean c hc
    · exact hb
    · rw [hnone c hc] at hd
      contradiction

theorem values_map_digitChar {ds : List Nat} (h : ∀ d ∈ ds, d < 16) : values (ds.map Nat.digitChar) = ds := by
  induction ds with
  | nil => rfl
  | cons d ds ih =>
    obtain ⟨hd, hds⟩ := List.forall_mem_cons.1 h
    rw [List.map_cons, values_cons_of_digit? (digit?_digitChar d hd), ih hds]

theorem lt_of_mem_halves {bs : List UInt8} {n : Nat} (h : n ∈ bs.flatMap halves) : n < 16 := by
  obtain ⟨b, -, hb⟩ := List.mem_flatMap.1 h
  have hlt := b.toNat_lt
  simp only [halves, List.mem_cons, List.not_mem_nil, or_false] at hb
  omega

theorem length_halves (bs : List UInt8) : (bs.flatMap halves).length = 2 * bs.length := by
  induction bs with
  | nil => rfl
  | cons b bs ih =>
    rw [List.flatMap_cons, List.length_append, ih, List.length_cons, Nat.mul_succ, Nat.add_comm]
    rfl

theorem lt_of_mem_values {cs : List Char} {n : Nat} (h : n ∈ values cs) : n < 16 := by
  obtain ⟨c, -, hc⟩ := List.mem_filterMap.1 h
  exact lt_of_digit? hc

/-- In lower case the digits are the ones that their values are written with. -/
theorem map_toLower_digits (cs : List Char) :
    (cs.filter fun c => (digit? c).isSome).map Char.toLower = (values cs).map Nat.digitChar := by
  induction cs with
  | nil => rfl
  | cons c cs ih =>
    cases hd : digit? c with
    | none =>
      rw [List.filter_cons_of_neg (by simp [hd]), ih, values, values, List.filterMap_cons_none hd]
    | some d =>
      rw [List.filter_cons_of_pos (by simp [hd]), values_cons_of_digit? hd, List.map_cons, List.map_cons, ih,
        toLower_of_digit? hd]

theorem length_digits (cs : List Char) : (cs.filter fun c => (digit? c).isSome).length = (values cs).length := by
  simpa using congrArg List.length (map_toLower_digits cs)

theorem map_toLower_digits_eq_encode_iff (cs : List Char) (bs : List UInt8) :
    (cs.filter fun c => (digit? c).isSome).map Char.toLower = encode bs ↔ values cs = bs.flatMap halves := by
  have hpairs : encode bs = (bs.flatMap halves).map Nat.digitChar := by
    rw [encode, List.map_flatMap]
    rfl
  rw [map_toLower_digits, hpairs]
  constructor
  · intro h
    rw [← values_map_digitChar fun _ => lt_of_mem_values, h, values_map_digitChar fun _ => lt_of_mem_halves]
  · intro h
    rw [h]

theorem halves_ofNat {x y : Nat} (hx : x < 16) (hy : y < 16) : halves (UInt8.ofNat (16 * x + y)) = [x, y] := by
  have hb : (UInt8.ofNat (16 * x + y)).toNat = 16 * x + y := by
    rw [UInt8.toNat_ofNat']
    omega
  rw [halves, hb, Nat.mul_add_div (by decide), Nat.mul_add_mod, Nat.div_eq_of_lt hy, Nat.mod_eq_of_lt hy, Nat.add_zero]

/-- Digits in pairs are the halves of bytes. -/
theorem exists_halves {n : Nat} {ds : List Nat} (hlen : ds.length = 2 * n) (hds : ∀ d ∈ ds, d < 16) :
    ∃ bs : List UInt8, bs.length = n ∧ bs.flatMap halves = ds := by
  induction n generalizing ds with
  | zero => exact ⟨[], rfl, (List.length_eq_zero_iff.1 hlen).symm⟩
  | succ n ih =>
    match ds, hlen with
    | x :: y :: ds, hlen =>
      rw [List.forall_mem_cons, List.forall_mem_cons] at hds
      obtain ⟨bs, hbs, rfl⟩ := ih (by simpa [Nat.mul_succ] using hlen) hds.2.2
      refine ⟨UInt8.ofNat (16 * x + y) :: bs, by rw [List.length_cons, hbs], ?_⟩
      rw [List.flatMap_cons, halves_ofNat hds.1 hds.2.1]
      rfl

/-! ### The next pair -/

theorem nextPair_of_isBlank {c : Char} (h : isBlank c = true) (high : Option Nat) (cs : List Char) :
    nextPair high (c :: cs) = nextPair high cs := by
  simp only [nextPair, h, if_true]

theorem nextPair_of_digit? {c : Char} {d : Nat} (h : digit? c = some d) (high : Option Nat) (cs : List Char) :
    nextPair high (c :: cs) = match high with
      | none => nextPair (some d) cs
      | some x => .byte (UInt8.ofNat (16 * x + d)) cs := by
  simp only [nextPair, isBlank_of_digit? h, h, Bool.false_eq_true, if_false]
  cases high <;> rfl

theorem nextPair_eq_nothing_iff (high : Option Nat) (cs : List Char) :
    nextPair high cs = .nothing ↔ high = none ∧ ∀ c ∈ cs, isBlank c = true := by
  fun_induction nextPair high cs with
  | case1 high h => simp [Option.ne_none_iff_isSome.2 h]
  | case2 high h => simpa using h
  | case3 high c cs hb ih => simp [ih, hb]
  | case4 high c cs hb hd => simp [hb]
  | case5 c cs hb d hd ih => simp [ih, hb]
  | case6 c cs hb d hd x => simp

/-- What is read for a byte is a clean part of the text, which ends with the second digit. -/
theorem exists_of_nextPair_eq_byte {high : Option Nat} {cs : List Char} {b : UInt8} {rest : List Char}
    (h : nextPair high cs = .byte b rest) (hhigh : ∀ x, high = some x → x < 16) :
    ∃ part, cs = part ++ rest ∧ IsClean part ∧ high.toList ++ values part = halves b := by
  induction cs generalizing high with
  | nil =>
    rw [nextPair] at h
    split at h <;> contradiction
  | cons c cs ih =>
    by_cases hb : isBlank c = true
    · rw [nextPair_of_isBlank hb] at h
      obtain ⟨part, rfl, hclean, hvalues⟩ := ih h hhigh
      exact ⟨c :: part, rfl, (isClean_cons c part).2 ⟨.inl hb, hclean⟩, by rwa [values_cons_of_isBlank hb]⟩
    · cases hd : digit? c with
      | none =>
        simp only [nextPair, hb, hd] at h
        contradiction
      | some d =>
        have hc : isBlank c = true ∨ (digit? c).isSome = true := .inr (by rw [hd]; rfl)
        rw [nextPair_of_digit? hd] at h
        cases high with
        | none =>
          obtain ⟨part, rfl, hclean, hvalues⟩ := ih h fun x hx => Option.some.inj hx ▸ lt_of_digit? hd
          exact ⟨c :: part, rfl, (isClean_cons c part).2 ⟨hc, hclean⟩, by rwa [values_cons_of_digit? hd]⟩
        | some x =>
          obtain ⟨rfl, rfl⟩ := Found.byte.inj h
          refine ⟨[c], rfl, (isClean_cons c []).2 ⟨hc, List.forall_mem_nil _⟩, ?_⟩
          rw [values_cons_of_digit? hd, halves_ofNat (hhigh x rfl) (lt_of_digit? hd)]
          rfl

/-- A clean text with two digits begins with a pair. -/
theorem nextPair_of_isClean (high : Option Nat) {cs : List Char} (hcs : IsClean cs) {x y : Nat} {vs : List Nat}
    (h : high.toList ++ values cs = x :: y :: vs) :
    ∃ rest, nextPair high cs = .byte (UInt8.ofNat (16 * x + y)) rest ∧ IsClean rest ∧ values rest = vs := by
  induction cs generalizing high with
  | nil => cases high <;> simp [values] at h
  | cons c cs ih =>
    obtain ⟨hc, hcs⟩ := (isClean_cons c cs).1 hcs
    by_cases hb : isBlank c = true
    · rw [values_cons_of_isBlank hb] at h
      rw [nextPair_of_isBlank hb]
      exact ih high hcs h
    · obtain ⟨d, hd⟩ := Option.isSome_iff_exists.1 (hc.resolve_left hb)
      rw [values_cons_of_digit? hd] at h
      rw [nextPair_of_digit? hd]
      cases high with
      | none => exact ih (some d) hcs h
      | some z =>
        simp only [Option.toList_some, List.singleton_append, List.cons.injEq] at h
        obtain ⟨rfl, rfl, rfl⟩ := h
        exact ⟨cs, rfl, hcs, rfl⟩

/-! ### All pairs -/

theorem pairs?_eq_some_iff (n : Nat) (cs : List Char) (bs : List UInt8) :
    pairs? n cs = some bs ↔ bs.length = n ∧ IsClean cs ∧ values cs = bs.flatMap halves := by
  induction n generalizing cs bs with
  | zero =>
    have hnothing := nextPair_eq_nothing_iff none cs
    rw [all_blank_iff] at hnothing
    rw [pairs?]
    split <;> grind
  | succ n ih =>
    rw [pairs?]
    constructor
    · intro h
      split at h
      · rename_i b rest hb
        obtain ⟨bs, hbs, rfl⟩ := Option.map_eq_some_iff.1 h
        obtain ⟨hlen, hclean, hvalues⟩ := (ih rest bs).1 hbs
        obtain ⟨part, rfl, hpart, hb⟩ := exists_of_nextPair_eq_byte hb (by simp)
        refine ⟨by rw [List.length_cons, hlen], (isClean_append ..).2 ⟨hpart, hclean⟩, ?_⟩
        rw [values_append, hvalues, List.flatMap_cons, ← hb]
        rfl
      · contradiction
    · rintro ⟨hlen, hclean, hvalues⟩
      obtain ⟨b, bs, rfl⟩ := List.exists_cons_of_length_eq_add_one hlen
      obtain ⟨rest, hnext, hrest, hvs⟩ := nextPair_of_isClean none hclean hvalues
      have hb : UInt8.ofNat (16 * (b.toNat / 16) + b.toNat % 16) = b := by rw [Nat.div_add_mod, UInt8.ofNat_toNat]
      rw [hnext, hb]
      exact Option.map_eq_some_iff.2 ⟨bs, (ih rest bs).2 ⟨Nat.succ.inj hlen, hrest, hvs⟩, rfl⟩

end ContractWatch.Hex
