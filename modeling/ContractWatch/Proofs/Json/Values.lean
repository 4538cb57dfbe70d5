import ContractWatch.Proofs.Json.Tokens

/-!
Values read back from their JSON text.
-/

namespace ContractWatch.Json

open Json.Parser (Ends ends_nil ends_cons skip)

/-- No number but whole ones of 64 bits, and nothing garbled. -/
def IsPlain : Json → Prop
  | .int n => -0x8000000000000000 ≤ n ∧ n < 0x10000000000000000
  | .real _ => False
  | .garbled => False
  | .list xs => items xs
  | .record ms => members ms
  | _ => True
where
  items : List Json → Prop
    | [] => True
    | x :: xs => x.IsPlain ∧ items xs
  members : List (String × Json) → Prop
    | [] => True
    | (_, v) :: ms => v.IsPlain ∧ members ms

theorem isPlain_list {xs : List Json} : IsPlain (.list xs) ↔ ∀ x ∈ xs, x.IsPlain := by
  rw [IsPlain]
  induction xs with
  | nil => simp [IsPlain.items]
  | cons x xs ih => simp [IsPlain.items, ih]

theorem isPlain_record {ms : List (String × Json)} : IsPlain (.record ms) ↔ ∀ m ∈ ms, m.2.IsPlain := by
  rw [IsPlain]
  induction ms with
  | nil => simp [IsPlain.members]
  | cons m ms ih => simp [IsPlain.members, ih]

theorem intDigits_head (n : Int) : ∃ c cs, Decimal.intDigits n = c :: cs ∧ (c = '-' ∨ Decimal.isDigit c) := by
  unfold Decimal.intDigits
  split
  · exact ⟨_, _, rfl, .inl rfl⟩
  · obtain ⟨c, ds, hd⟩ := List.exists_cons_of_ne_nil (Decimal.digits_ne_nil n.natAbs)
    refine ⟨c, ds, hd, .inr (Decimal.isDigit_of_mem_digits (n := n.natAbs) ?_)⟩
    rw [hd]
    exact List.mem_cons_self

/-- The text of a value begins with neither a blank nor a closing bracket. -/
theorem chars_head {v : Json} (hv : v.IsPlain) :
    ∃ c cs, v.chars = c :: cs ∧ Parser.isBlank c = false ∧ c ≠ ']' := by
  match v with
  | .null => exact ⟨'n', ['u', 'l', 'l'], rfl, rfl, by decide⟩
  | .bool true => exact ⟨'t', ['r', 'u', 'e'], rfl, rfl, by decide⟩
  | .bool false => exact ⟨'f', ['a', 'l', 's', 'e'], rfl, rfl, by decide⟩
  | .text s => exact ⟨'"', _, rfl, rfl, by decide⟩
  | .list [] => exact ⟨'[', _, rfl, rfl, by decide⟩
  | .list (x :: xs) => exact ⟨'[', _, rfl, rfl, by decide⟩
  | .record [] => exact ⟨'{', _, rfl, rfl, by decide⟩
  | .record ((k, v) :: ms) => exact ⟨'{', _, rfl, rfl, by decide⟩
  | .int n =>
    obtain ⟨c, cs, h, hc⟩ := intDigits_head n
    refine ⟨c, cs, h, ?_, ?_⟩
    · obtain rfl | hc := hc
      · rfl
      · simp only [Parser.isBlank, Bool.or_eq_false_iff, decide_eq_false_iff_not]
        refine ⟨⟨⟨?_, ?_⟩, ?_⟩, ?_⟩ <;> rintro rfl <;> exact absurd hc (by decide)
    · rintro rfl
      exact absurd hc (by decide)
  | .real _ => exact hv.elim
  | .garbled => exact hv.elim

theorem skip_cons {c : Char} (h : Parser.isBlank c = false) (cs : List Char) : skip (c :: cs) = c :: cs := by
  simp [skip, h]

/-- A number is read where neither a bracket, a quote nor a word begins. -/
theorem value_number {c : Char} (h : c = '-' ∨ Decimal.isDigit c) (hb : Parser.isBlank c = false) (fuel : Nat)
    (cs : List Char) : Parser.value (fuel + 1) (c :: cs) = Parser.number (c :: cs) := by
  rw [Parser.value, skip_cons hb]
  split
  case h_7 => rfl
  all_goals
    rename_i heq
    cases heq
    exact absurd h (by decide)

theorem value_text (s : String) (fuel : Nat) (r : List Char) :
    Parser.value (fuel + 1) (quoted s ++ r) = some (.text s, r) := by
  obtain ⟨cs, hcs, hs⟩ := Parser.string_quoted s r
  rw [hcs, Parser.value, skip_cons rfl]
  simp only [hs]

theorem ends_itemsChars (xs : List Json) (r : List Char) : Ends (itemsChars xs ++ r) := by
  cases xs with
  | nil => exact ends_cons (.inr (.inl rfl)) _
  | cons x xs => exact ends_cons (.inl rfl) _

theorem ends_membersChars (ms : List (String × Json)) (r : List Char) : Ends (membersChars ms ++ r) := by
  cases ms with
  | nil => exact ends_cons (.inr (.inr rfl)) _
  | cons m ms => exact ends_cons (.inl rfl) _

mutual

/-- Two units of fuel for each character are enough: one for the item or member, one for the value in it. -/
theorem value_chars (v : Json) (hv : v.IsPlain) {fuel : Nat} (hf : 2 * v.chars.length ≤ fuel) {r : List Char}
    (hr : Ends r) : Parser.value fuel (v.chars ++ r) = some (v, r) := by
  obtain ⟨c, cs, hc, hb, -⟩ := chars_head hv
  have hpos : 0 < v.chars.length := by
    rw [hc, List.length_cons]
    exact Nat.zero_lt_succ _
  obtain ⟨fuel, rfl⟩ : ∃ k, fuel = k + 1 := ⟨fuel - 1, by omega⟩
  match v with
  | .null => rfl
  | .bool true => rfl
  | .bool false => rfl
  | .int n =>
    obtain ⟨hlow, hhigh⟩ := hv
    obtain ⟨c', cs', hc', hn⟩ := intDigits_head n
    have hchars : (Json.int n).chars = Decimal.intDigits n := rfl
    rw [hchars] at hc ⊢
    obtain ⟨rfl, rfl⟩ := List.cons.inj (hc.symm.trans hc')
    rw [hc, List.cons_append, value_number hn hb, ← List.cons_append, ← hc, Parser.number_intDigits hlow hhigh hr]
  | .text s => exact value_text s fuel r
  | .list [] => rfl
  | .list (x :: xs) =>
    obtain ⟨hx, hxs⟩ := hv
    have hfuel : 2 * (x.chars ++ itemsChars xs).length ≤ fuel := by
      simp only [chars, List.length_cons] at hf
      omega
    have hitems := items_chars x xs hx hxs hfuel [] r
    obtain ⟨d, ds, hd, hdb, hne⟩ := chars_head hx
    simp only [chars, List.cons_append]
    rw [Parser.value, skip_cons rfl]
    simp only [hd, List.cons_append] at hitems ⊢
    rw [skip_cons hdb]
    split
    · rename_i heq
      exact absurd (List.cons.inj heq).1 hne
    · exact hitems
  | .record [] => rfl
  | .record ((k, v) :: ms) =>
    obtain ⟨hv, hms⟩ := hv
    have hfuel : 2 * (quoted k ++ ':' :: (v.chars ++ membersChars ms)).length ≤ fuel := by
      simp only [chars, List.length_cons] at hf
      omega
    have hmembers := members_chars k v ms hv hms hfuel [] r
    obtain ⟨ds, hd, -⟩ := Parser.string_quoted k (':' :: (v.chars ++ membersChars ms) ++ r)
    rw [← List.append_assoc] at hd
    rw [hd] at hmembers
    rw [chars, List.cons_append, hd, Parser.value, skip_cons rfl]
    simp only
    rw [skip_cons rfl]
    exact hmembers
  | .real _ => exact hv.elim
  | .garbled => exact hv.elim
termination_by fuel

theorem items_chars (x : Json) (xs : List Json) (hx : x.IsPlain) (hxs : IsPlain.items xs) {fuel : Nat}
    (hf : 2 * (x.chars ++ itemsChars xs).length ≤ fuel) (acc : List Json) (r : List Char) :
    Parser.items fuel acc (x.chars ++ itemsChars xs ++ r) = some (.list (acc.reverse ++ x :: xs), r) := by
  rw [List.length_append] at hf
  match xs with
  | [] =>
    have hend : (itemsChars []).length = 1 := rfl
    obtain ⟨fuel, rfl⟩ : ∃ k, fuel = k + 1 := ⟨fuel - 1, by omega⟩
    have hfuel : 2 * x.chars.length ≤ fuel := by omega
    have hvalue := value_chars x hx hfuel (ends_itemsChars [] r)
    rw [List.append_assoc, Parser.items, hvalue, itemsChars, List.singleton_append]
    simp only
    rw [skip_cons rfl]
    simp
  | y :: ys =>
    have hlen : (itemsChars (y :: ys)).length = (y.chars ++ itemsChars ys).length + 1 := rfl
    obtain ⟨fuel, rfl⟩ : ∃ k, fuel = k + 1 := ⟨fuel - 1, by omega⟩
    have hfuel : 2 * x.chars.length ≤ fuel := by omega
    have hfuel' : 2 * (y.chars ++ itemsChars ys).length ≤ fuel := by omega
    have hvalue := value_chars x hx hfuel (ends_itemsChars (y :: ys) r)
    have hrest := items_chars y ys hxs.1 hxs.2 hfuel' (x :: acc) r
    rw [List.append_assoc, Parser.items, hvalue, itemsChars, List.cons_append]
    simp only
    rw [skip_cons rfl]
    simp only
    rw [hrest, List.reverse_cons, List.append_assoc, List.singleton_append]
termination_by fuel

theorem members_chars (k : String) (v : Json) (ms : List (String × Json)) (hv : v.IsPlain)
    (hms : IsPlain.members ms) {fuel : Nat} (hf : 2 * (quoted k ++ ':' :: (v.chars ++ membersChars ms)).length ≤ fuel)
    (acc : List (String × Json)) (r : List Char) :
    Parser.members fuel acc true (quoted k ++ ':' :: (v.chars ++ membersChars ms) ++ r) =
      some (.record (acc.reverse ++ (k, v) :: ms), r) := by
  obtain ⟨cs, hcs, hkey⟩ := Parser.string_quoted k (':' :: (v.chars ++ membersChars ms) ++ r)
  rw [List.length_append, List.length_cons, List.length_append] at hf
  obtain ⟨fuel, rfl⟩ : ∃ k, fuel = k + 1 := ⟨fuel - 1, by omega⟩
  have hfuel : 2 * v.chars.length ≤ fuel := by omega
  have hvalue := value_chars v hv hfuel (ends_membersChars ms r)
  rw [List.append_assoc, hcs, Parser.members, skip_cons rfl]
  simp only [hkey, List.cons_append, List.append_assoc]
  rw [skip_cons rfl]
  simp only [hvalue]
  match ms with
  | [] =>
    rw [membersChars, List.singleton_append, skip_cons rfl]
    simp
  | (k', v') :: ms =>
    have hlen : (membersChars ((k', v') :: ms)).length =
        (quoted k' ++ ':' :: (v'.chars ++ membersChars ms)).length + 1 := rfl
    have hfuel' : 2 * (quoted k' ++ ':' :: (v'.chars ++ membersChars ms)).length ≤ fuel := by omega
    have hrest := members_chars k' v' ms hms.1 hms.2 hfuel' ((k, v) :: acc) r
    rw [membersChars, List.cons_append, skip_cons rfl]
    simp only [Option.getD_some, Option.isSome_some, Bool.and_true]
    rw [hrest, List.reverse_cons, List.append_assoc, List.singleton_append]
termination_by fuel

end

/-- The text of a value without numbers of other kinds spells that value. -/
theorem parse_chars {v : Json} (hv : v.IsPlain) : parse v.chars = some v := by
  have h := value_chars v hv (Nat.le_add_right (2 * v.chars.length) 2) ends_nil
  rw [List.append_nil] at h
  rw [parse, h]
  rfl

theorem parseText_render {v : Json} (hv : v.IsPlain) : parseText v.render = some v := by
  rw [parseText, render_toList, parse_chars hv]

end ContractWatch.Json
