import ContractWatch.Octets
import ContractWatch.Proofs.Text.Hex

/-!
Byte strings of a fixed length read back from their text.
-/

namespace ContractWatch.Octets

variable {n : Nat}

/-- The values of the two digits of a byte. -/
def halves (b : UInt8) : List Nat := [b.toNat / 16, b.toNat % 16]

theorem mapM_digit?_encode (bs : List UInt8) : (Hex.encode bs).mapM Hex.digit? = some (bs.flatMap halves) := by
  induction bs with
  | nil => rfl
  | cons b bs ih =>
    have hlt := b.toNat_lt
    have hx := Hex.digit?_digitChar (b.toNat / 16) (by omega)
    have hy := Hex.digit?_digitChar (b.toNat % 16) (by omega)
    rw [Hex.encode_cons, Hex.pair, List.cons_append, List.cons_append, List.nil_append, List.mapM_cons, hx,
      List.mapM_cons, hy, ih]
    rfl

theorem pairs_halves (bs : List UInt8) : ofDigits.pairs (bs.flatMap halves) = bs := by
  induction bs with
  | nil => rfl
  | cons b bs ih =>
    rw [List.flatMap_cons, halves, List.cons_append, List.cons_append, List.nil_append, ofDigits.pairs, ih,
      Nat.div_add_mod, UInt8.ofNat_toNat]

theorem ofDigits_halves (a : Octets n) : ofDigits (a.bytes.flatMap halves) = a := by
  obtain ⟨bs, rfl⟩ := a
  simp only [ofDigits, pairs_halves, List.take_left']

theorem isBlank_of_mem_encode {bs : List UInt8} {c : Char} (h : c ∈ Hex.encode bs) : Hex.isBlank c = false :=
  Hex.of_mem_encode h (by decide)

theorem ofChars?_encode (a : Octets n) : ofChars? ('0' :: 'x' :: Hex.encode a.bytes) = some a := by
  have hlen : (Hex.encode a.bytes).length = 2 * n := by rw [Hex.length_encode, a.length_eq]
  have hdigits : (Hex.encode a.bytes).filter (fun c => !Hex.isBlank c) = Hex.encode a.bytes :=
    List.filter_eq_self.2 fun c hc => by rw [isBlank_of_mem_encode hc, Bool.not_false]
  simp only [ofChars?, hlen, hdigits, mapM_digit?_encode, if_true, Option.map_some, ofDigits_halves]

@[simp] theorem ofJson?_toJson (a : Octets n) : ofJson? a.toJson = some a := by
  rw [toJson, ofJson?, Json.asText?, Option.bind_some, text, Hex.prefixed, String.toList_ofList, ofChars?_encode]

end ContractWatch.Octets
