import ContractWatch.Deflate.Bits
import Mathlib.Algebra.Group.Nat.Defs

/-!
Reading bits back. A reader function reads a bit string as a value if it does so wherever the string is at the head
of the stream, and leaves the stream behind it; such functions compose.
-/

namespace ContractWatch.Deflate

@[simp] theorem byteBits_length (b : UInt8) : (byteBits b).length = 8 := rfl

@[simp] theorem natBits_length (count n : Nat) : (natBits count n).length = count := by
  induction count generalizing n with
  | zero => rfl
  | succ count ih => simp [natBits, ih]

namespace Reader

/-- The reader after `n` more bits, or at the end of the stream. -/
def skip : Nat → Reader → Reader
  | 0, r => r
  | n + 1, r =>
    match r.bit with
    | .ok (_, r) => skip n r
    | .error _ => r

theorem bit_cases (r : Reader) :
    (r.bits = [] ∧ r.bit = .error .incomplete) ∨
      ∃ b r', r.bit = .ok (b, r') ∧ r.bits = b :: r'.bits ∧ r'.pending.length < max 8 r.pending.length ∧
        r'.bytes <:+ r.bytes := by
  match r with
  | ⟨[], []⟩ => exact .inl ⟨rfl, rfl⟩
  | ⟨b :: bs, bytes⟩ =>
    have hlt : bs.length < max 8 (b :: bs).length := Nat.lt_of_lt_of_le (Nat.lt_succ_self _) (Nat.le_max_right ..)
    exact .inr ⟨b, ⟨bs, bytes⟩, rfl, rfl, hlt, List.suffix_refl _⟩
  | ⟨[], x :: bytes⟩ =>
    exact .inr ⟨x &&& 1 != 0, ⟨(byteBits x).tail, bytes⟩, rfl, rfl, by simp [byteBits], List.suffix_cons _ _⟩

@[simp] theorem skip_zero (r : Reader) : r.skip 0 = r := rfl

theorem skip_add (m n : Nat) (r : Reader) : r.skip (m + n) = (r.skip m).skip n := by
  induction m generalizing r with
  | zero => simp
  | succ m ih =>
    rw [Nat.add_right_comm]
    obtain ⟨-, h⟩ | ⟨b, r', h, -⟩ := r.bit_cases
    · cases n <;> simp [skip, h]
    · simp [skip, h, ih]

@[simp] theorem bits_skip (n : Nat) (r : Reader) : (r.skip n).bits = r.bits.drop n := by
  induction n generalizing r with
  | zero => rfl
  | succ n ih =>
    obtain ⟨hb, h⟩ | ⟨b, r', h, hb, -⟩ := r.bit_cases
    · simp [skip, h, hb]
    · simp [skip, h, hb, ih]

theorem pending_skip_lt {r : Reader} (hr : r.pending.length < 8) (n : Nat) : (r.skip n).pending.length < 8 := by
  induction n generalizing r with
  | zero => exact hr
  | succ n ih =>
    obtain ⟨-, h⟩ | ⟨b, r', h, -, hp, -⟩ := r.bit_cases
    · simpa [skip, h] using hr
    · simp only [skip, h]
      exact ih (by omega)

theorem bytes_skip_suffix (n : Nat) (r : Reader) : (r.skip n).bytes <:+ r.bytes := by
  induction n generalizing r with
  | zero => exact List.suffix_refl _
  | succ n ih =>
    obtain ⟨-, h⟩ | ⟨b, r', h, -, -, hs⟩ := r.bit_cases
    · simp [skip, h]
    · simp only [skip, h]
      exact (ih r').trans hs

theorem bits_length (r : Reader) : r.bits.length = r.pending.length + 8 * r.bytes.length := by
  have h (bs : List UInt8) : (bs.flatMap byteBits).length = 8 * bs.length := by
    induction bs with
    | nil => rfl
    | cons b bs ih => simp [ih]; omega
  rw [bits, List.length_append, h]

/-- After bits that fill up to the end of a byte, the reader stands before the next one. -/
theorem bytes_skip_ofBytes {taken rest : List UInt8} {n : Nat} (hn : n ≤ 8 * taken.length)
    (hfill : 8 * taken.length < n + 8) : ((ofBytes (taken ++ rest)).skip n).bytes = rest := by
  have hp : ((ofBytes (taken ++ rest)).skip n).pending.length < 8 := pending_skip_lt (by simp [ofBytes]) n
  have hl := congrArg List.length (bits_skip n (ofBytes (taken ++ rest)))
  rw [List.length_drop, bits_length, bits_length] at hl
  simp only [ofBytes, List.length_nil, List.length_append] at hl hp
  have hs := bytes_skip_suffix n (ofBytes (taken ++ rest))
  refine (List.suffix_of_suffix_length_le hs (List.suffix_append taken rest) ?_).eq_of_length ?_ <;>
    simp only [ofBytes] <;> omega

theorem split_head {v w : List Bool} {r : Reader} (h : v ++ w <+: r.bits) :
    v <+: r.bits ∧ w <+: (r.skip v.length).bits := by
  obtain ⟨rest, h⟩ := h
  rw [List.append_assoc] at h
  exact ⟨⟨w ++ rest, h⟩, ⟨rest, by rw [bits_skip, ← h, List.drop_left]⟩⟩

end Reader

/-- The function reads `w` as `a`. -/
def Reads {α : Type} (f : Reader → Except Fault (α × Reader)) (w : List Bool) (a : α) : Prop :=
  ∀ r : Reader, w <+: r.bits → f r = .ok (a, r.skip w.length)

theorem reads_bit (b : Bool) : Reads Reader.bit [b] b := by
  intro r hr
  obtain ⟨hb, -⟩ | ⟨b', r', h, hb, -⟩ := r.bit_cases
  · simp [hb] at hr
  · rw [hb, List.cons_prefix_cons] at hr
    simp [Reader.skip, h, hr.1]

theorem reads_nat (count n : Nat) (hn : n < 2 ^ count) : Reads (Reader.nat count) (natBits count n) n := by
  induction count generalizing n with
  | zero =>
    intro r _
    obtain rfl : n = 0 := by simpa using hn
    rfl
  | succ count ih =>
    intro r hr
    rw [Nat.pow_succ] at hn
    have hr : [decide (n % 2 = 1)] ++ natBits count (n / 2) <+: r.bits := hr
    obtain ⟨hb, hw⟩ := Reader.split_head hr
    have hn' : (if decide (n % 2 = 1) = true then 1 else 0) + 2 * (n / 2) = n := by
      simp only [decide_eq_true_eq]
      split <;> omega
    simp only [Reader.nat, reads_bit _ r hb, ih (n / 2) (by omega) _ hw, hn', ← Reader.skip_add, natBits_length]
    simp [Nat.add_comm]

/-! ### Packing -/

theorem byteBits_ofNat : ∀ n < 256, byteBits (UInt8.ofNat n) = natBits 8 n := by decide +kernel

theorem natBits_zero (count : Nat) : natBits count 0 = List.replicate count false := by
  induction count with
  | zero => rfl
  | succ count ih => simp [natBits, ih, List.replicate_succ]

theorem natBits_bitsValue {count : Nat} {bs : List Bool} (h : bs.length ≤ count) :
    natBits count (bitsValue bs) = bs ++ List.replicate (count - bs.length) false := by
  induction bs generalizing count with
  | nil => simp [bitsValue, natBits_zero]
  | cons b bs ih =>
    cases count with
    | zero => simp at h
    | succ count =>
      have hdiv : ((if b then 1 else 0) + 2 * bitsValue bs) / 2 = bitsValue bs := by split <;> omega
      have hmod : decide (((if b then 1 else 0) + 2 * bitsValue bs) % 2 = 1) = b := by
        cases b <;> simp
      rw [bitsValue, natBits, hdiv, hmod, ih (Nat.le_of_succ_le_succ h), List.length_cons, Nat.add_sub_add_right,
        List.cons_append]

theorem bitsValue_lt (bs : List Bool) : bitsValue bs < 2 ^ bs.length := by
  induction bs with
  | nil => decide
  | cons b bs ih =>
    rw [bitsValue, List.length_cons, Nat.pow_succ]
    split <;> omega

theorem byteBits_bitsValue {bs : List Bool} (h : bs.length ≤ 8) :
    byteBits (UInt8.ofNat (bitsValue bs)) = bs ++ List.replicate (8 - bs.length) false := by
  have hlt : bitsValue bs < 256 := Nat.lt_of_lt_of_le (bitsValue_lt bs) (Nat.pow_le_pow_right (by decide) h)
  rw [byteBits_ofNat _ hlt, natBits_bitsValue h]

/-- Packed bits are followed by the zeros that fill up the last byte. -/
theorem packOnto_bits (acc : List UInt8) (bs : List Bool) :
    ∃ k < 8, (packOnto acc bs).reverse.flatMap byteBits =
        acc.reverse.flatMap byteBits ++ (bs ++ List.replicate k false) ∧
      8 * (packOnto acc bs).length = 8 * acc.length + (bs.length + k) := by
  fun_induction packOnto acc bs with
  | case1 acc => exact ⟨0, by decide, by simp, by simp⟩
  | case2 acc b0 b1 b2 b3 b4 b5 b6 b7 bs ih =>
    obtain ⟨k, hk, hbits, hlen⟩ := ih
    have hb : byteBits (UInt8.ofNat (bitsValue [b0, b1, b2, b3, b4, b5, b6, b7])) =
        [b0, b1, b2, b3, b4, b5, b6, b7] := byteBits_bitsValue (Nat.le_refl 8)
    refine ⟨k, hk, ?_, ?_⟩
    · simp [hbits, hb]
    · rw [hlen]
      simp only [List.length_cons]
      omega
  | case3 acc bs hne hshort =>
    have hpos : 0 < bs.length := List.length_pos_iff.2 hne
    have hlen : bs.length < 8 :=
      match bs, hshort with
      | [], _ | [_], _ | [_, _], _ | [_, _, _], _ | [_, _, _, _], _ | [_, _, _, _, _], _ | [_, _, _, _, _, _], _
      | [_, _, _, _, _, _, _], _ => by simp
      | _ :: _ :: _ :: _ :: _ :: _ :: _ :: _ :: _, h => (h _ _ _ _ _ _ _ _ _ rfl).elim
    refine ⟨8 - bs.length, by omega, ?_, ?_⟩
    · simp [byteBits_bitsValue (Nat.le_of_lt hlen)]
    · simp only [List.length_cons]
      omega

theorem pack_bits (bs : List Bool) :
    ∃ k < 8, (pack bs).flatMap byteBits = bs ++ List.replicate k false ∧ 8 * (pack bs).length = bs.length + k := by
  simpa [pack] using packOnto_bits [] bs

/-- What is read from packed bits leaves the bytes behind them. -/
theorem Reads.of_pack {α : Type} {f : Reader → Except Fault (α × Reader)} {w : List Bool} {a : α} (h : Reads f w a)
    (rest : List UInt8) : ∃ r, f (.ofBytes (pack w ++ rest)) = .ok (a, r) ∧ r.bytes = rest := by
  obtain ⟨k, hk, hbits, hlen⟩ := pack_bits w
  have hw : w <+: (Reader.ofBytes (pack w ++ rest)).bits := by
    simp [Reader.bits, Reader.ofBytes, hbits]
  exact ⟨_, h _ hw, Reader.bytes_skip_ofBytes (by omega) (by omega)⟩

end ContractWatch.Deflate
