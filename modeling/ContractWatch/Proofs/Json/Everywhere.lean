import ContractWatch.Json.Parser

/-!
Properties of all values inside a value, and what holds of all values that a text can spell: their whole numbers have
64 bits.
-/

namespace ContractWatch.Json

/-- Neither a list nor a record. -/
def isAtom : Json → Bool
  | .list _ => false
  | .record _ => false
  | _ => true

/-- `p` holds of the value and of every value inside it. -/
inductive Everywhere (p : Json → Prop) : Json → Prop
  | atom {v : Json} : v.isAtom → p v → Everywhere p v
  | list {xs : List Json} : p (.list xs) → (∀ x ∈ xs, Everywhere p x) → Everywhere p (.list xs)
  | record {ms : List (String × Json)} : p (.record ms) → (∀ m ∈ ms, Everywhere p m.2) → Everywhere p (.record ms)

section

variable {p : Json → Prop} {v : Json}

theorem Everywhere.here (h : v.Everywhere p) : p v := by
  cases h <;> assumption

theorem everywhere_list {xs : List Json} :
    (Json.list xs).Everywhere p ↔ p (.list xs) ∧ ∀ x ∈ xs, x.Everywhere p := by
  constructor
  · intro h
    cases h with
    | atom ha => contradiction
    | list hp hxs => exact ⟨hp, hxs⟩
  · rintro ⟨hp, hxs⟩
    exact .list hp hxs

theorem everywhere_record {ms : List (String × Json)} :
    (Json.record ms).Everywhere p ↔ p (.record ms) ∧ ∀ m ∈ ms, m.2.Everywhere p := by
  constructor
  · intro h
    cases h with
    | atom ha => contradiction
    | record hp hms => exact ⟨hp, hms⟩
  · rintro ⟨hp, hms⟩
    exact .record hp hms

end

/-- Whole numbers have 64 bits. -/
def InRange (v : Json) : Prop :=
  v.Everywhere fun
    | .int n => -0x8000000000000000 ≤ n ∧ n < 0x10000000000000000
    | _ => True

theorem inRange_list {xs : List Json} : (Json.list xs).InRange ↔ ∀ x ∈ xs, x.InRange := by
  simp [InRange, everywhere_list]

theorem inRange_record {ms : List (String × Json)} : (Json.record ms).InRange ↔ ∀ m ∈ ms, m.2.InRange := by
  simp [InRange, everywhere_record]

theorem inRange_of_isAtom {v : Json} (ha : v.isAtom) (hv : ∀ n, v ≠ .int n) : v.InRange := by
  refine .atom ha ?_
  cases v with
  | int n => exact absurd rfl (hv n)
  | _ => trivial

theorem inRange_numberValue (negative : Bool) (ds fs : List Char) (e : Option Int) (spelling : List Char) :
    (Parser.numberValue negative ds fs e spelling).InRange := by
  unfold Parser.numberValue
  extract_lets m n
  split
  · rename_i h
    exact .atom rfl ⟨h.2.2.1, h.2.2.2.1⟩
  · split <;> exact inRange_of_isAtom rfl (by simp)

theorem inRange_of_number {cs r : List Char} {v : Json} (h : Parser.number cs = some (v, r)) : v.InRange := by
  unfold Parser.number at h
  split at h
  split at h
  · contradiction
  split at h
  · contradiction
  split at h
  · contradiction
  · cases h
    exact inRange_numberValue ..

/-- What is read with this fuel is in range, if what was read before is. -/
structure ReadsInRange (fuel : Nat) : Prop where
  value : ∀ {cs r v}, Parser.value fuel cs = some (v, r) → v.InRange
  items : ∀ {acc cs r v}, (∀ x ∈ acc, x.InRange) → Parser.items fuel acc cs = some (v, r) → v.InRange
  members : ∀ {acc whole cs r v}, (∀ m ∈ acc, m.2.InRange) → Parser.members fuel acc whole cs = some (v, r) → v.InRange

namespace ReadsInRange

variable {fuel : Nat} {cs r : List Char} {v : Json}

theorem value_succ (ih : ReadsInRange fuel) (h : Parser.value (fuel + 1) cs = some (v, r)) : v.InRange := by
  rw [Parser.value] at h
  split at h
  case h_4 =>
    split at h
    · cases h
      exact inRange_of_isAtom rfl (by simp)
    · cases h
      exact inRange_of_isAtom rfl (by simp)
    · contradiction
  case h_5 =>
    split at h
    · cases h
      exact inRange_list.2 (by simp)
    · exact ih.items (by simp) h
  case h_6 =>
    split at h
    · cases h
      exact inRange_record.2 (by simp)
    · exact ih.members (by simp) h
  case h_7 => exact inRange_of_number h
  all_goals
    cases h
    exact inRange_of_isAtom rfl (by simp)

theorem items_succ (ih : ReadsInRange fuel) {acc : List Json} (hacc : ∀ x ∈ acc, x.InRange)
    (h : Parser.items (fuel + 1) acc cs = some (v, r)) : v.InRange := by
  rw [Parser.items] at h
  split at h
  · contradiction
  rename_i x r' hx
  have hnext : ∀ y ∈ x :: acc, y.InRange := List.forall_mem_cons.2 ⟨ih.value hx, hacc⟩
  split at h
  · exact ih.items hnext h
  · cases h
    exact inRange_list.2 fun y hy => hnext y (List.mem_reverse.1 hy)
  · contradiction

theorem members_succ (ih : ReadsInRange fuel) {acc : List (String × Json)} {whole : Bool}
    (hacc : ∀ m ∈ acc, m.2.InRange) (h : Parser.members (fuel + 1) acc whole cs = some (v, r)) : v.InRange := by
  rw [Parser.members] at h
  split at h
  case h_2 => contradiction
  split at h
  · contradiction
  split at h
  case h_2 => contradiction
  split at h
  · contradiction
  rename_i x r' hx
  have hnext (key : String) : ∀ m ∈ (key, x) :: acc, m.2.InRange := List.forall_mem_cons.2 ⟨ih.value hx, hacc⟩
  split at h
  · exact ih.members (hnext _) h
  · cases h
    split
    · exact inRange_record.2 fun m hm => hnext _ m (List.mem_reverse.1 hm)
    · exact inRange_of_isAtom rfl (by simp)
  · contradiction

end ReadsInRange

theorem readsInRange (fuel : Nat) : ReadsInRange fuel := by
  induction fuel with
  | zero =>
    constructor
    all_goals
      intros
      contradiction
  | succ fuel ih => exact ⟨ih.value_succ, ih.items_succ, ih.members_succ⟩

theorem inRange_of_parseText {s : String} {v : Json} (h : parseText s = some v) : v.InRange := by
  rw [parseText, parse] at h
  split at h
  · rename_i hvalue
    split at h
    · cases h
      exact (readsInRange _).value hvalue
    · contradiction
  · contradiction

end ContractWatch.Json
