import ContractWatch.Json.Parser

/-!
The characters inside a value. A text spells no value that has more of them than itself.
-/

namespace ContractWatch.Json

/-- The characters of all texts and keys in a value. -/
def weight : Json → Nat
  | .null => 0
  | .bool _ => 0
  | .int _ => 0
  | .real _ => 0
  | .text s => s.length
  | .list xs => listWeight xs
  | .record ms => recordWeight ms
  | .garbled => 0
where
  listWeight : List Json → Nat
    | [] => 0
    | x :: xs => x.weight + listWeight xs
  recordWeight : List (String × Json) → Nat
    | [] => 0
    | (k, v) :: ms => k.length + v.weight + recordWeight ms

open weight (listWeight recordWeight)

theorem listWeight_append (xs ys : List Json) : listWeight (xs ++ ys) = listWeight xs + listWeight ys := by
  induction xs with
  | nil => simp [listWeight]
  | cons x xs ih => rw [List.cons_append, listWeight, listWeight, ih, Nat.add_assoc]

theorem listWeight_reverse (xs : List Json) : listWeight xs.reverse = listWeight xs := by
  induction xs with
  | nil => rfl
  | cons x xs ih =>
    rw [List.reverse_cons, listWeight_append, ih, listWeight, listWeight, listWeight]
    omega

theorem recordWeight_append (ms ns : List (String × Json)) :
    recordWeight (ms ++ ns) = recordWeight ms + recordWeight ns := by
  induction ms with
  | nil => simp [recordWeight]
  | cons m ms ih =>
    rw [List.cons_append, recordWeight, recordWeight, ih]
    omega

theorem recordWeight_reverse (ms : List (String × Json)) : recordWeight ms.reverse = recordWeight ms := by
  induction ms with
  | nil => rfl
  | cons m ms ih =>
    rw [List.reverse_cons, recordWeight_append, ih, recordWeight, recordWeight, recordWeight]
    omega

/-! ### Reading text -/

namespace Parser

theorem skip_length_le (cs : List Char) : (skip cs).length ≤ cs.length :=
  (List.dropWhile_suffix isBlank).length_le

theorem string_length {acc cs r : List Char} {whole : Bool} {key : Option String}
    (h : string acc whole cs = some (key, r)) : (key.getD "").length + r.length < acc.length + cs.length := by
  fun_induction string acc whole cs
  case case2 =>
    simp only [Option.some.injEq, Prod.mk.injEq] at h
    obtain ⟨rfl, rfl⟩ := h
    split
    · simp
    · simp
      omega
  case case4 hl ih =>
    have hlow := low?_length hl
    have hrest := ih h
    simp only [List.length_cons] at hrest ⊢
    omega
  all_goals first
    | contradiction
    | rename_i ih
      have hrest := ih h
      simp only [List.length_cons] at hrest ⊢
      omega

theorem digits_length_le {cs ds r : List Char} (h : digits cs = (ds, r)) : r.length ≤ cs.length := by
  cases h
  exact (List.dropWhile_suffix Decimal.isDigit).length_le

theorem whole?_length_le {cs ds r : List Char} (h : whole? cs = some (ds, r)) : r.length ≤ cs.length := by
  unfold whole? at h
  split at h
  · cases h
    simp
  · split at h
    · contradiction
    · exact digits_length_le (Option.some.inj h)

theorem fraction?_length_le {cs ds r : List Char} (h : fraction? cs = some (ds, r)) : r.length ≤ cs.length := by
  unfold fraction? at h
  split at h
  · split at h
    · contradiction
    · exact Nat.le_succ_of_le (digits_length_le (Option.some.inj h))
  · cases h
    exact Nat.le_refl _

theorem unsigned_length_le {cs r : List Char} {sign : Int} {e : Option Int}
    (h : exponent?.unsigned sign cs = some (e, r)) : r.length ≤ cs.length := by
  unfold exponent?.unsigned at h
  split at h
  · contradiction
  · rename_i hdigits
    cases h
    exact digits_length_le hdigits

theorem signed_length_le {cs r : List Char} {e : Option Int} (h : exponent?.signed cs = some (e, r)) :
    r.length ≤ cs.length := by
  unfold exponent?.signed at h
  split at h
  · exact Nat.le_succ_of_le (unsigned_length_le h)
  · exact Nat.le_succ_of_le (unsigned_length_le h)
  · exact unsigned_length_le h

theorem exponent?_length_le {cs r : List Char} {e : Option Int} (h : exponent? cs = some (e, r)) :
    r.length ≤ cs.length := by
  unfold exponent? at h
  split at h
  · exact Nat.le_succ_of_le (signed_length_le h)
  · exact Nat.le_succ_of_le (signed_length_le h)
  · cases h
    exact Nat.le_refl _

theorem weight_numberValue (negative : Bool) (ds fs : List Char) (e : Option Int) (spelling : List Char) :
    (numberValue negative ds fs e spelling).weight = 0 := by
  unfold numberValue
  extract_lets m n
  split
  · rfl
  · split <;> rfl

theorem number_length_le {cs r : List Char} {v : Json} (h : number cs = some (v, r)) :
    v.weight + r.length ≤ cs.length := by
  unfold number at h
  split at h
  rename_i negative body hbody
  have hle : body.length ≤ cs.length := by
    split at hbody
    · cases hbody
      exact Nat.le_succ _
    · cases hbody
      exact Nat.le_refl _
  split at h
  · contradiction
  rename_i ds r₁ hwhole
  split at h
  · contradiction
  rename_i fs r₂ hfraction
  split at h
  · contradiction
  rename_i e r₃ hexponent
  cases h
  have h₁ := whole?_length_le hwhole
  have h₂ := fraction?_length_le hfraction
  have h₃ := exponent?_length_le hexponent
  rw [weight_numberValue]
  omega

end Parser

/-- What is read with this fuel weighs no more than the text that it takes up. -/
structure ReadsWithin (fuel : Nat) : Prop where
  value {cs r : List Char} {v : Json} : Parser.value fuel cs = some (v, r) → v.weight + r.length ≤ cs.length
  items {acc : List Json} {cs r : List Char} {v : Json} :
    Parser.items fuel acc cs = some (v, r) → v.weight + r.length ≤ listWeight acc + cs.length
  members {acc : List (String × Json)} {whole : Bool} {cs r : List Char} {v : Json} :
    Parser.members fuel acc whole cs = some (v, r) → v.weight + r.length ≤ recordWeight acc + cs.length

namespace ReadsWithin

variable {fuel : Nat} {cs r : List Char} {v : Json}

theorem value_succ (ih : ReadsWithin fuel) (h : Parser.value (fuel + 1) cs = some (v, r)) :
    v.weight + r.length ≤ cs.length := by
  have hskip := Parser.skip_length_le cs
  rw [Parser.value] at h
  split at h
  case h_4 r₁ hcs =>
    rw [hcs, List.length_cons] at hskip
    split at h
    · rename_i hstring
      cases h
      have hle := Parser.string_length hstring
      simp only [Option.getD_some, List.length_nil] at hle
      rw [weight]
      omega
    · rename_i hstring
      cases h
      have hle := Parser.string_length hstring
      simp only [List.length_nil] at hle
      rw [weight]
      omega
    · contradiction
  case h_5 r₁ hcs =>
    rw [hcs, List.length_cons] at hskip
    have hr := Parser.skip_length_le r₁
    split at h
    · rename_i hend
      cases h
      rw [hend, List.length_cons] at hr
      rw [weight, listWeight]
      omega
    · have hle := ih.items h
      rw [listWeight] at hle
      omega
  case h_6 r₁ hcs =>
    rw [hcs, List.length_cons] at hskip
    have hr := Parser.skip_length_le r₁
    split at h
    · rename_i hend
      cases h
      rw [hend, List.length_cons] at hr
      rw [weight, recordWeight]
      omega
    · have hle := ih.members h
      rw [recordWeight] at hle
      omega
  case h_7 =>
    have hle := Parser.number_length_le h
    omega
  all_goals
    rename_i hcs
    cases h
    rw [hcs] at hskip
    simp only [List.length_cons] at hskip
    rw [weight]
    omega

theorem items_succ (ih : ReadsWithin fuel) {acc : List Json} (h : Parser.items (fuel + 1) acc cs = some (v, r)) :
    v.weight + r.length ≤ listWeight acc + cs.length := by
  rw [Parser.items] at h
  split at h
  · contradiction
  rename_i x r₁ hx
  have hle := ih.value hx
  have hskip := Parser.skip_length_le r₁
  split at h
  · rename_i hcs
    have hrest := ih.items h
    rw [hcs, List.length_cons] at hskip
    rw [listWeight] at hrest
    omega
  · rename_i hcs
    cases h
    rw [hcs, List.length_cons] at hskip
    rw [weight, listWeight_reverse, listWeight]
    omega
  · contradiction

theorem members_succ (ih : ReadsWithin fuel) {acc : List (String × Json)} {whole : Bool}
    (h : Parser.members (fuel + 1) acc whole cs = some (v, r)) :
    v.weight + r.length ≤ recordWeight acc + cs.length := by
  have hskip := Parser.skip_length_le cs
  rw [Parser.members] at h
  split at h
  case h_2 => contradiction
  rename_i r₁ hcs
  rw [hcs, List.length_cons] at hskip
  split at h
  · contradiction
  rename_i key r₂ hkey
  have hk := Parser.string_length hkey
  rw [List.length_nil] at hk
  have hskip₂ := Parser.skip_length_le r₂
  split at h
  case h_2 => contradiction
  rename_i r₃ hcolon
  rw [hcolon, List.length_cons] at hskip₂
  split at h
  · contradiction
  rename_i x r₄ hx
  have hle := ih.value hx
  have hskip₄ := Parser.skip_length_le r₄
  split at h
  · rename_i hcomma
    have hrest := ih.members h
    rw [hcomma, List.length_cons] at hskip₄
    rw [recordWeight] at hrest
    omega
  · rename_i hend
    cases h
    rw [hend, List.length_cons] at hskip₄
    split
    · rw [weight, recordWeight_reverse, recordWeight]
      omega
    · rw [weight]
      omega
  · contradiction

end ReadsWithin

theorem readsWithin (fuel : Nat) : ReadsWithin fuel := by
  induction fuel with
  | zero =>
    constructor
    all_goals
      intros
      contradiction
  | succ fuel ih => exact ⟨ih.value_succ, ih.items_succ, ih.members_succ⟩

theorem weight_le_of_parseText {s : String} {v : Json} (h : parseText s = some v) : v.weight ≤ s.length := by
  rw [parseText, parse] at h
  split at h
  · rename_i hvalue
    split at h
    · cases h
      have hle := (readsWithin _).value hvalue
      rw [String.length_toList] at hle
      omega
    · contradiction
  · contradiction

end ContractWatch.Json
