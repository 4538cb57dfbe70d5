import ContractWatch.Base64
import ContractWatch.Text.Blank
import ContractWatch.Text.Utf8

/-!
Base64 texts read back. A text is the symbols of groups of six bits, and the padding that makes their count a
multiple of four.
-/

namespace ContractWatch.Base64

/-- The bits of the bytes in groups of six, zeros at the end of the last one. -/
def sextets : List UInt8 → List Nat
  | [] => []
  | [a] =>
    let n := a.toNat * 16
    [n / 64, n % 64]
  | [a, b] =>
    let n := (a.toNat * 256 + b.toNat) * 4
    [n / 4096, n / 64 % 64, n % 64]
  | a :: b :: c :: bs =>
    let n := (a.toNat * 256 + b.toNat) * 256 + c.toNat
    n / 262144 :: n / 4096 % 64 :: n / 64 % 64 :: n % 64 :: sextets bs

/-- How much padding follows that many bytes. -/
def pads (length : Nat) : Nat := (3 - length % 3) % 3

theorem lt_of_mem_sextets {bs : List UInt8} {v : Nat} (h : v ∈ sextets bs) : v < 64 := by
  fun_induction sextets bs with
  | case1 => cases h
  | case2 a =>
    have ha := a.toNat_lt
    simp only [List.mem_cons, List.not_mem_nil, or_false] at h
    omega
  | case3 a b =>
    have ha := a.toNat_lt
    have hb := b.toNat_lt
    simp only [List.mem_cons, List.not_mem_nil, or_false] at h
    omega
  | case4 a b c bs n ih =>
    have ha := a.toNat_lt
    have hb := b.toNat_lt
    have hc := c.toNat_lt
    simp only [List.mem_cons] at h
    obtain h | h | h | h | h := h
    · omega
    · omega
    · omega
    · omega
    · exact ih h

theorem encodeOnto_eq (acc : List Char) (bs : List UInt8) :
    (encodeOnto acc bs).reverse = acc.reverse ++ ((sextets bs).map symbol ++ List.replicate (pads bs.length) '=') := by
  fun_induction encodeOnto acc bs with
  | case1 => simp [sextets, pads]
  | case2 acc a n => simp [sextets, pads, n]
  | case3 acc a b n => simp [sextets, pads, n]
  | case4 acc a b c bs n ih =>
    have hp : pads (bs.length + 1 + 1 + 1) = pads bs.length := by
      simp only [pads]
      omega
    simp only [ih, sextets, List.length_cons, hp]
    simp [n]

theorem encode_eq (bs : List UInt8) :
    encode bs = (sextets bs).map symbol ++ List.replicate (pads bs.length) '=' := encodeOnto_eq [] bs

theorem joinOnto_sextets (acc : List UInt8) (bs : List UInt8) :
    (joinOnto acc (sextets bs)).reverse = acc.reverse ++ bs := by
  fun_induction sextets bs generalizing acc with
  | case1 => simp [joinOnto]
  | case2 a n =>
    have ha := a.toNat_lt
    have h : (n / 64 * 64 + n % 64) / 16 = a.toNat := by omega
    simp [joinOnto, h]
  | case3 a b n =>
    have ha := a.toNat_lt
    have hb := b.toNat_lt
    have h : (n / 4096 * 64 + n / 64 % 64) * 64 + n % 64 = n := by omega
    have h1 : n / 1024 = a.toNat := by omega
    have h2 : n / 4 % 256 = b.toNat := by omega
    simp [joinOnto, h, h1, h2]
  | case4 a b c bs n ih =>
    have ha := a.toNat_lt
    have hb := b.toNat_lt
    have hc := c.toNat_lt
    have h : ((n / 262144 * 64 + n / 4096 % 64) * 64 + n / 64 % 64) * 64 + n % 64 = n := by omega
    have h1 : n / 65536 = a.toNat := by omega
    have h2 : n / 256 % 256 = b.toNat := by omega
    have h3 : n % 256 = c.toNat := by omega
    simp only [joinOnto, h, h1, h2, h3, ih]
    simp

theorem join_sextets (bs : List UInt8) : join (sextets bs) = bs := joinOnto_sextets [] bs

/-! ### The bytes of a text -/

def symbolByte (n : Nat) : UInt8 := UInt8.ofNat (symbol n).toNat

theorem encodeChar_symbol : ∀ n < 64, String.utf8EncodeChar (symbol n) = [symbolByte n] := by decide +kernel

theorem value_symbolByte : ∀ n < 64, value? (symbolByte n) = some n := by decide +kernel

theorem isBlank_symbol : ∀ n < 64, Text.isBlank (symbol n) = false := by decide +kernel

theorem isSymbol_symbolByte {n : Nat} (h : n < 64) : isSymbol (symbolByte n) := by
  rw [isSymbol, value_symbolByte n h, Option.isSome_some]

theorem isBlank_of_mem_encode {bs : List UInt8} {c : Char} (h : c ∈ encode bs) : Text.isBlank c = false := by
  rw [encode_eq, List.mem_append] at h
  obtain h | h := h
  · obtain ⟨n, hn, rfl⟩ := List.mem_map.1 h
    exact isBlank_symbol n (lt_of_mem_sextets hn)
  · rw [List.eq_of_mem_replicate h]
    decide

theorem bytes_encode (bs : List UInt8) :
    Utf8.encode (encode bs) = (sextets bs).map symbolByte ++ List.replicate (pads bs.length) padding := by
  have hs (vs : List Nat) (h : ∀ v ∈ vs, v < 64) :
      (vs.map symbol).flatMap String.utf8EncodeChar = vs.map symbolByte := by
    induction vs with
    | nil => rfl
    | cons v vs ih =>
      rw [List.map_cons, List.flatMap_cons, encodeChar_symbol v (h v List.mem_cons_self),
        ih fun v hv => h v (List.mem_cons_of_mem _ hv)]
      rfl
  have hp (k : Nat) : (List.replicate k '=').flatMap String.utf8EncodeChar = List.replicate k padding := by
    induction k with
    | zero => rfl
    | succ k ih =>
      rw [List.replicate_succ, List.flatMap_cons, ih]
      rfl
  rw [encode_eq, Utf8.encode, List.flatMap_append, hs _ fun _ => lt_of_mem_sextets, hp]

theorem symbols_append_padding {vs : List Nat} (h : ∀ v ∈ vs, v < 64) (k : Nat) :
    (vs.map symbolByte ++ List.replicate k padding).takeWhile isSymbol = vs.map symbolByte ∧
      (vs.map symbolByte ++ List.replicate k padding).dropWhile isSymbol = List.replicate k padding := by
  have hs : ∀ b ∈ vs.map symbolByte, isSymbol b := by
    intro b hb
    obtain ⟨v, hv, rfl⟩ := List.mem_map.1 hb
    exact isSymbol_symbolByte (h v hv)
  have hp : isSymbol padding = false := by decide
  rw [List.takeWhile_append_of_pos hs, List.dropWhile_append_of_pos hs]
  cases k with
  | zero => simp
  | succ k => simp [List.replicate_succ, hp]

theorem filterMap_value {vs : List Nat} (h : ∀ v ∈ vs, v < 64) : (vs.map symbolByte).filterMap value? = vs := by
  induction vs with
  | nil => rfl
  | cons v vs ih =>
    rw [List.map_cons, List.filterMap_cons, value_symbolByte v (h v List.mem_cons_self)]
    simp only [ih fun v hv => h v (List.mem_cons_of_mem _ hv)]

/-! ### No fault -/

theorem sextets_length (bs : List UInt8) : (sextets bs).length = bs.length + (bs.length + 2) / 3 := by
  fun_induction sextets bs with
  | case1 => rfl
  | case2 => simp
  | case3 => simp
  | case4 a b c bs n ih =>
    simp only [List.length_cons, ih]
    omega

/-- Every three bytes, the last ones filled up, make four characters. -/
theorem length_bytes_encode (bs : List UInt8) : (Utf8.encode (encode bs)).length = 4 * ((bs.length + 2) / 3) := by
  have hpads : pads bs.length = (3 - bs.length % 3) % 3 := rfl
  rw [bytes_encode, List.length_append, List.length_map, List.length_replicate, sextets_length, hpads]
  omega

theorem spareBits_sextets (bs : List UInt8) {v : Nat} (h : (sextets bs).getLast? = some v) :
    spareBits (sextets bs).length v = 0 := by
  fun_induction sextets bs with
  | case1 => cases h
  | case2 a n =>
    obtain rfl : n % 64 = v := by simpa using h
    simp only [List.length_cons, List.length_nil, spareBits]
    omega
  | case3 a b n =>
    obtain rfl : n % 64 = v := by simpa using h
    simp only [List.length_cons, List.length_nil, spareBits]
    omega
  | case4 a b c bs n ih =>
    have hmod (m : Nat) : (m + 1 + 1 + 1 + 1) % 4 = m % 4 := by omega
    simp only [List.length_cons, spareBits, hmod]
    cases hl : (sextets bs).getLast? with
    | none => simp [List.getLast?_eq_none_iff.1 hl]
    | some w =>
      obtain rfl : w = v := by
        have hne : sextets bs ≠ [] := by
          intro hne
          simp [hne] at hl
        rw [List.getLast?_cons_of_ne_nil (by simp), List.getLast?_cons_of_ne_nil (by simp),
          List.getLast?_cons_of_ne_nil (by simp), List.getLast?_cons_of_ne_nil hne, hl] at h
        exact Option.some.inj h
      exact ih hl

theorem fault_encode (bs : List UInt8) :
    fault? (Utf8.encode (encode bs)) ((sextets bs).map symbolByte)
      (List.replicate (pads bs.length) padding) = none := by
  have hlen := sextets_length bs
  have hpads : pads bs.length = (3 - bs.length % 3) % 3 := rfl
  have hmod : (Utf8.encode (encode bs)).length % 4 = 0 := by
    rw [length_bytes_encode, Nat.mul_mod_right]
  have hpad : isPadding (sextets bs).length (List.replicate (pads bs.length) padding) := by
    simp only [isPadding, List.length_replicate, Bool.or_eq_true, Bool.and_eq_true, decide_eq_true_eq,
      List.isEmpty_iff, List.replicate_eq_nil_iff, List.all_eq_true]
    by_cases h0 : pads bs.length = 0
    · exact .inl h0
    · refine .inr ⟨⟨fun b hb => List.eq_of_mem_replicate hb, ?_⟩, ?_⟩ <;> omega
  simp only [fault?, List.length_map, hmod, hpad, Nat.zero_ne_one, Bool.not_true, Bool.false_eq_true, if_false, ne_eq,
    not_true_eq_false, List.getLast?_map]
  cases h : (sextets bs).getLast? with
  | none => rfl
  | some v =>
    have hv := value_symbolByte v (lt_of_mem_sextets (List.mem_of_getLast? h))
    simp [hv, spareBits_sextets bs h]

theorem decode_encode (bs : List UInt8) : decode (Utf8.encode (encode bs)) = .ok bs := by
  have hlt : ∀ v ∈ sextets bs, v < 64 := fun _ => lt_of_mem_sextets
  obtain ⟨htake, hdrop⟩ := symbols_append_padding hlt (pads bs.length)
  rw [← bytes_encode] at htake hdrop
  simp only [decode, htake, hdrop, fault_encode, filterMap_value hlt, join_sextets]

end ContractWatch.Base64
