import ContractWatch.Proofs.Text.Blank
import ContractWatch.Text.Hex

/-!
Hexadecimal text read back. What is written for bytes is in normal form.
-/

namespace ContractWatch.Hex

theorem digit?_digitChar : ∀ n < 16, digit? (Nat.digitChar n) = some n := by decide

theorem decodeOnto_encode (acc bs : List UInt8) : decodeOnto acc (encode bs) = some (acc.reverse ++ bs) := by
  induction bs generalizing acc with
  | nil => simp [encode, decodeOnto]
  | cons b bs ih =>
    have hb : UInt8.ofNat (16 * (b.toNat / 16) + b.toNat % 16) = b := by
      rw [Nat.div_add_mod, UInt8.ofNat_toNat]
    have hlt := b.toNat_lt
    have hx := digit?_digitChar (b.toNat / 16) (by omega)
    have hy := digit?_digitChar (b.toNat % 16) (by omega)
    change decodeOnto acc (Nat.digitChar _ :: Nat.digitChar _ :: encode bs) = _
    simp only [decodeOnto, hx, hy, hb, ih, List.reverse_cons, List.append_assoc, List.singleton_append]

@[simp] theorem decode?_encode (bs : List UInt8) : decode? (encode bs) = some bs := by
  simp [decode?, decodeOnto_encode]

theorem encode_cons (b : UInt8) (bs : List UInt8) : encode (b :: bs) = pair b ++ encode bs := rfl

theorem length_encode (bs : List UInt8) : (encode bs).length = 2 * bs.length := by
  induction bs with
  | nil => rfl
  | cons b bs ih =>
    rw [encode_cons, List.length_append, ih, List.length_cons, pair]
    simp only [List.length_cons, List.length_nil]
    omega

theorem take_encode (n : Nat) (bs : List UInt8) : (encode bs).take (2 * n) = encode (bs.take n) := by
  induction n generalizing bs with
  | zero => rfl
  | succ n ih =>
    cases bs with
    | nil => rfl
    | cons b bs =>
      have hn : 2 * (n + 1) = 2 * n + 1 + 1 := by omega
      rw [List.take_succ_cons, encode_cons, encode_cons, ← ih, hn]
      rfl

/-- What holds of the sixteen digits holds of all that is written for bytes. -/
@[elab_as_elim] theorem of_mem_encode {P : Char → Prop} {bs : List UInt8} {c : Char} (h : c ∈ encode bs)
    (hdigit : ∀ n < 16, P (Nat.digitChar n)) : P c := by
  obtain ⟨b, -, hb⟩ := List.mem_flatMap.1 h
  have hlt := b.toNat_lt
  simp only [pair, List.mem_cons, List.not_mem_nil, or_false] at hb
  obtain rfl | rfl := hb
  · exact hdigit (b.toNat / 16) (by omega)
  · exact hdigit (b.toNat % 16) (by omega)

theorem lower_of_mem_encode {bs : List UInt8} {c : Char} (h : c ∈ encode bs) :
    c.toLower = c ∧ c.toUpper.toLower = c :=
  of_mem_encode h (by decide)

theorem digit?_of_mem_encode {bs : List UInt8} {c : Char} (h : c ∈ encode bs) : (digit? c).isSome :=
  of_mem_encode h (by decide)

theorem encode_injective {as bs : List UInt8} (h : encode as = encode bs) : as = bs := by
  simpa using congrArg decode? h

theorem text_injective {as bs : List UInt8} (h : text as = text bs) : as = bs :=
  encode_injective (String.ofList_injective h)

theorem length_text (bs : List UInt8) : (text bs).length = 2 * bs.length := by
  rw [text, String.length_ofList, length_encode]

theorem lower_of_mem_text {bs : List UInt8} {c : Char} (h : c ∈ (text bs).toList) :
    ('0' ≤ c ∧ c ≤ '9') ∨ ('a' ≤ c ∧ c ≤ 'f') := by
  rw [text, String.toList_ofList] at h
  exact of_mem_encode h (by decide)

/-- Without an `x` there is nothing to take off. -/
theorem strip_of_not_mark {cs : List Char} (h : ∀ c ∈ cs, c ≠ 'x' ∧ c ≠ 'X') : strip cs = cs := by
  unfold strip
  split
  · exact absurd rfl (h 'x' (by simp)).1
  · exact absurd rfl (h 'X' (by simp)).2
  · rfl

theorem normal_encode (bs : List UInt8) : normal (encode bs) = encode bs := by
  have hblank : ∀ c ∈ encode bs, Text.isBlank c = false := fun c hc => of_mem_encode hc (by decide)
  have hmark : ∀ c ∈ encode bs, c ≠ 'x' ∧ c ≠ 'X' := fun c hc => of_mem_encode hc (by decide)
  have htrim : Text.trim (encode bs) = encode bs := by
    simpa using @Text.trim_around [] (encode bs) [] (by simp) (by simp) hblank
  have hlower : (encode bs).map Char.toLower = encode bs :=
    (List.map_congr_left fun c hc => (lower_of_mem_encode hc).1).trans (List.map_id' _)
  rw [normal, htrim, strip_of_not_mark hmark, hlower]

/-- The text of bytes is in normal form. -/
theorem normalText_text (bs : List UInt8) : normalText (text bs) = text bs := by
  rw [normalText, text, String.toList_ofList, normal_encode]

theorem prefixed_eq (bs : List UInt8) : prefixed bs = "0x" ++ text bs := by
  apply String.toList_injective
  simp [prefixed, text]

end ContractWatch.Hex
