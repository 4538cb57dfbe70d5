import ContractWatch.Proofs.Text.Blank
import ContractWatch.Proofs.Text.Decimal
import ContractWatch.Time.Rfc3339

/-!
Instants read back from their text.
-/

namespace ContractWatch.Rfc3339

open Decimal (isDigit isBlank_of_isDigit padded)

/-- What follows goes on with no digit. -/
def Stops (cs : List Char) : Prop := ∀ c, cs.head? = some c → isDigit c = false

theorem stops_cons {c : Char} (h : isDigit c = false) (cs : List Char) : Stops (c :: cs) := by
  intro c' hc
  obtain rfl : c = c' := Option.some.inj hc
  exact h

theorem number_digits {most : Nat} {ds rest : List Char} (hne : ds ≠ []) (hd : ∀ c ∈ ds, isDigit c)
    (hlen : ds.length ≤ most) (hrest : Stops rest) : number most (ds ++ rest) = some (Decimal.value ds, rest) := by
  have hnone (k : Nat) : (rest.take k).takeWhile isDigit = [] := by
    cases rest with
    | nil => simp
    | cons c rest => cases k <;> simp [hrest c rfl]
  have hds : ((ds ++ rest).take most).takeWhile isDigit = ds := by
    rw [List.take_append, List.take_of_length_le hlen, List.takeWhile_append_of_pos hd, hnone, List.append_nil]
  rw [number, hds]
  cases ds with
  | nil => contradiction
  | cons c ds => simp

theorem number_padded {most w n : Nat} {rest : List Char} (hlen : (padded w n).length ≤ most) (hrest : Stops rest) :
    number most (padded w n ++ rest) = some (n, rest) := by
  rw [number_digits (Decimal.padded_ne_nil w n) (fun _ => Decimal.isDigit_of_mem_padded) hlen hrest,
    Decimal.value_padded]

theorem trimLeft_padded (w n : Nat) (rest : List Char) : Text.trimLeft (padded w n ++ rest) = padded w n ++ rest := by
  obtain ⟨c, cs, hc, hdigit⟩ := Decimal.padded_head w n
  rw [hc, List.cons_append, Text.trimLeft_cons (isBlank_of_isDigit hdigit)]

theorem field_two {n : Nat} (h : n < 100) {rest : List Char} (hrest : Stops rest) :
    field 2 (padded 2 n ++ rest) = some (n, rest) := by
  rw [field, trimLeft_padded, number_padded (Nat.le_of_eq (Decimal.length_padded (by decide) h)) hrest]

theorem mark_cons {c : Char} (h : Text.isBlank c = false) (rest : List Char) :
    mark c (c :: rest) = some ((), rest) := by
  rw [mark, Text.trimLeft_cons h]
  exact if_pos rfl

theorem year_yearChars (y : Int) (rest : List Char) : year (yearChars y ++ '-' :: rest) = some (y, '-' :: rest) := by
  have hstops : Stops ('-' :: rest) := stops_cons rfl rest
  unfold yearChars
  split
  · rename_i hy
    have hlt : y.natAbs < 10000 := by omega
    have hlen : (padded 4 y.natAbs).length = 4 := Decimal.length_padded (by decide) hlt
    have hyear : (y.natAbs : Int) = y := by omega
    obtain ⟨c, cs, hc, hdigit⟩ := Decimal.padded_head 4 y.natAbs
    have hread : number 4 (padded 4 y.natAbs ++ '-' :: rest) = some (y.natAbs, '-' :: rest) :=
      number_padded (Nat.le_of_eq hlen) hstops
    rw [year, trimLeft_padded]
    rw [hc, List.cons_append] at hread ⊢
    split
    · rename_i h
      obtain rfl : c = '-' := (List.cons.inj h).1
      contradiction
    · rename_i h
      obtain rfl : c = '+' := (List.cons.inj h).1
      contradiction
    · simp only [hread, Option.map_some, hyear]
  · have hread : number (padded 4 y.natAbs ++ '-' :: rest).length (padded 4 y.natAbs ++ '-' :: rest) =
        some (y.natAbs, '-' :: rest) := number_padded (by simp) hstops
    split
    · have hyear : -(y.natAbs : Int) = y := by omega
      rw [year, List.cons_append, Text.trimLeft_cons rfl]
      simp only [hread, Option.map_some, hyear]
    · have hyear : (y.natAbs : Int) = y := by omega
      rw [year, List.cons_append, Text.trimLeft_cons rfl]
      simp only [hread, Option.map_some, hyear]

/-- What is left of a fraction in `w` digits. -/
theorem fraction_padded {w n : Nat} (hw : 0 < w) (hmost : w ≤ 9) (h : n < Nat.pow 10 w) :
    fraction ('.' :: padded w n ++ ['Z']) = some (n * Nat.pow 10 (9 - w), ['Z']) := by
  have hlen : (padded w n).length = w := Decimal.length_padded hw h
  have hread : number 9 (padded w n ++ ['Z']) = some (n, ['Z']) :=
    number_padded (hlen.symm ▸ hmost) (stops_cons rfl [])
  have hused : (padded w n ++ ['Z']).length - ['Z'].length = w := by simp [hlen]
  rw [List.cons_append, fraction, hread]
  simp only [hused]
  rfl

theorem fraction_fractionChars {nano : Nat} (h : nano < 1000000000) :
    fraction (fractionChars nano ++ ['Z']) = some (nano, ['Z']) := by
  unfold fractionChars
  split
  · rename_i hzero
    rw [hzero]
    rfl
  split
  · rename_i hmod
    have hlt : nano / 1000000 < 1000 := by omega
    have hpow : Nat.pow 10 (9 - 3) = 1000000 := rfl
    rw [fraction_padded (w := 3) (by decide) (by decide) hlt, hpow, Nat.div_mul_cancel (Nat.dvd_of_mod_eq_zero hmod)]
  split
  · rename_i hmod
    have hlt : nano / 1000 < 1000000 := by omega
    have hpow : Nat.pow 10 (9 - 6) = 1000 := rfl
    rw [fraction_padded (w := 6) (by decide) (by decide) hlt, hpow, Nat.div_mul_cancel (Nat.dvd_of_mod_eq_zero hmod)]
  · have hpow : Nat.pow 10 (9 - 9) = 1 := rfl
    rw [fraction_padded (by decide) (by decide) h, hpow, Nat.mul_one]

theorem toUniversal_zero (t : Instant) : toUniversal t.date t.hour t.minute t.second t.nano 0 = some t := by
  obtain ⟨-, hhour, hminute, -⟩ := t.valid
  have hclock : ((t.hour * 60 + t.minute - 0 : Int) % 1440).toNat = t.hour * 60 + t.minute := by omega
  have hh : (t.hour * 60 + t.minute) / 60 = t.hour := by omega
  have hm : (t.hour * 60 + t.minute) % 60 = t.minute := by omega
  simp only [toUniversal]
  rw [if_neg (by omega), if_neg (by omega), hclock, hh, hm, Instant.of?, dif_pos t.valid]

theorem stops_fractionChars (nano : Nat) : Stops (fractionChars nano ++ ['Z']) := by
  unfold fractionChars
  split
  · exact stops_cons rfl []
  split
  · exact stops_cons rfl _
  split <;> exact stops_cons rfl _

theorem daysIn_le (y : Int) (m : Nat) : daysIn y m ≤ 31 := by
  unfold daysIn
  split <;> split <;> omega

theorem bind_of_eq {α β : Type} {x : Option α} {f : α → Option β} {a : α} {b : β} (hx : x = some a)
    (hf : f a = some b) : x >>= f = some b := Option.bind_eq_some_iff.2 ⟨a, hx, hf⟩

theorem read?_chars (t : Instant) : read? (chars t) = some t := by
  obtain ⟨⟨-, hmonth, hday⟩, hhour, hminute, hsecond, hnano⟩ := t.valid
  have hdays := daysIn_le t.date.year t.date.month
  rw [chars, read?]
  simp only [List.append_assoc, List.cons_append]
  -- The readers follow the parts of the text, and each number is stopped by the mark after it.
  refine bind_of_eq (year_yearChars t.date.year _) ?_
  refine bind_of_eq (mark_cons rfl _) ?_
  refine bind_of_eq (field_two (by omega) (stops_cons rfl _)) ?_
  refine bind_of_eq (mark_cons rfl _) ?_
  refine bind_of_eq (field_two (by omega) (stops_cons rfl _)) ?_
  refine bind_of_eq (a := ((), _)) rfl ?_
  refine bind_of_eq (field_two (by omega) (stops_cons rfl _)) ?_
  refine bind_of_eq (mark_cons rfl _) ?_
  refine bind_of_eq (field_two (by omega) (stops_cons rfl _)) ?_
  refine bind_of_eq (mark_cons rfl _) ?_
  refine bind_of_eq (field_two (by omega) (stops_fractionChars t.nano)) ?_
  refine bind_of_eq (fraction_fractionChars hnano) ?_
  refine bind_of_eq (a := (0, [])) rfl ?_
  refine bind_of_eq (dif_pos t.valid) ?_
  exact toUniversal_zero t

@[simp] theorem ofJson?_toJson (t : Instant) : ofJson? (toJson t) = some t := by
  rw [toJson, ofJson?, Json.asText?, Option.bind_some, text, String.toList_ofList, read?_chars]

end ContractWatch.Rfc3339
