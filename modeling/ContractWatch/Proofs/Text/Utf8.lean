import ContractWatch.Text.Utf8

/-!
UTF-8 read back: the bytes of a text are cut into its characters, and nothing else. A text is read strictly from these
bytes alone.
-/

namespace ContractWatch.Utf8

theorem tail_cons {low high : Nat} {b : UInt8} (hl : low ≤ b.toNat) (hh : b.toNat ≤ high) (more bits : Nat)
    (bs : List UInt8) :
    tail low high (more + 1) bits (b :: bs) = tail 0x80 0xbf more (bits * 64 + b.toNat % 64) bs := by
  simp only [tail, hl, hh, and_self, if_true]

/-- A byte that continues a character. -/
theorem toNat_more (n : Nat) : (UInt8.ofNat (n % 64 + 128)).toNat = n % 64 + 128 := by
  rw [UInt8.toNat_ofNat']
  omega

theorem tail_more (n more bits : Nat) (bs : List UInt8) :
    tail 0x80 0xbf (more + 1) bits (UInt8.ofNat (n % 64 + 128) :: bs) =
      tail 0x80 0xbf more (bits * 64 + n % 64) bs := by
  have h := toNat_more n
  have hmod : (n % 64 + 128) % 64 = n % 64 := by omega
  rw [tail_cons (by omega) (by omega), h, hmod]

theorem tail_zero {low high bits : Nat} {c : Char} (h : bits = c.toNat) (bs : List UInt8) :
    tail low high 0 bits bs = (some c, bs) := by
  rw [tail, h, Char.ofNat_toNat]

/-- The code points of characters leave out those of surrogates. -/
theorem toNat_cases (c : Char) : c.toNat < 0xd800 ∨ 0xdfff < c.toNat ∧ c.toNat < 0x110000 := c.valid

theorem next_one {c : Char} (h : c.toNat ≤ 0x7f) (bs : List UInt8) :
    next (UInt8.ofNat c.toNat) bs = (some c, bs) := by
  have hb : (UInt8.ofNat c.toNat).toNat = c.toNat := by
    rw [UInt8.toNat_ofNat']
    omega
  have hlead : lead? c.toNat = some { bits := c.toNat, more := 0 } := by
    rw [lead?, if_pos (by omega)]
  simp only [next, hb, hlead]
  exact tail_zero rfl bs

/-- A first byte that is followed by more of them leaves its bits and the range of the second one. -/
theorem next_lead {b second : UInt8} {bits low high more : Nat}
    (hlead : lead? b.toNat = some ⟨bits, low, high, more + 1⟩)
    (hl : low ≤ second.toNat) (hh : second.toNat ≤ high) (bs : List UInt8) :
    next b (second :: bs) = tail 0x80 0xbf more (bits * 64 + second.toNat % 64) bs := by
  simp only [next, hlead, tail_cons hl hh]

theorem next_two {c : Char} (hl : 0x7f < c.toNat) (hh : c.toNat ≤ 0x7ff) (bs : List UInt8) :
    next (UInt8.ofNat (c.toNat / 64 % 32 + 192)) (UInt8.ofNat (c.toNat % 64 + 128) :: bs) = (some c, bs) := by
  have hb : (UInt8.ofNat (c.toNat / 64 % 32 + 192)).toNat = c.toNat / 64 + 192 := by
    rw [UInt8.toNat_ofNat']
    omega
  have hsecond := toNat_more c.toNat
  have hlead : lead? (c.toNat / 64 + 192) = some ⟨c.toNat / 64, 0x80, 0xbf, 1⟩ := by
    rw [lead?, if_neg (by omega), if_neg (by omega), if_pos (by omega), Nat.add_sub_cancel]
  rw [← hb] at hlead
  rw [next_lead hlead (by omega) (by omega)]
  exact tail_zero (by omega) bs

theorem next_three {c : Char} (hl : 0x7ff < c.toNat) (hh : c.toNat ≤ 0xffff) (bs : List UInt8) :
    next (UInt8.ofNat (c.toNat / 4096 % 16 + 224))
      (UInt8.ofNat (c.toNat / 64 % 64 + 128) :: UInt8.ofNat (c.toNat % 64 + 128) :: bs) = (some c, bs) := by
  have hb : (UInt8.ofNat (c.toNat / 4096 % 16 + 224)).toNat = c.toNat / 4096 + 224 := by
    rw [UInt8.toNat_ofNat']
    omega
  have hc := toNat_cases c
  have hsecond := toNat_more (c.toNat / 64)
  -- The first byte bounds the second one, so that neither long forms nor surrogates are read.
  obtain ⟨low, high, hlead, hlow, hhigh⟩ : ∃ low high,
      lead? (c.toNat / 4096 + 224) = some ⟨c.toNat / 4096, low, high, 2⟩ ∧ low ≤ c.toNat / 64 % 64 + 128 ∧
        c.toNat / 64 % 64 + 128 ≤ high := by
    by_cases h0 : c.toNat / 4096 = 0
    · exact ⟨0xa0, 0xbf, by rw [h0]; rfl, by omega, by omega⟩
    · by_cases hd : c.toNat / 4096 = 13
      · exact ⟨0x80, 0x9f, by rw [hd]; rfl, by omega, by omega⟩
      · refine ⟨0x80, 0xbf, ?_, by omega, by omega⟩
        rw [lead?, if_neg (by omega), if_neg (by omega), if_neg (by omega), if_neg (by omega), if_neg (by omega),
          if_pos (by omega), Nat.add_sub_cancel]
  rw [← hb] at hlead
  rw [next_lead hlead (by omega) (by omega), tail_more]
  exact tail_zero (by omega) bs

theorem next_four {c : Char} (hl : 0xffff < c.toNat) (bs : List UInt8) :
    next (UInt8.ofNat (c.toNat / 262144 % 8 + 240))
      (UInt8.ofNat (c.toNat / 4096 % 64 + 128) :: UInt8.ofNat (c.toNat / 64 % 64 + 128) ::
        UInt8.ofNat (c.toNat % 64 + 128) :: bs) = (some c, bs) := by
  have hc := toNat_cases c
  have hb : (UInt8.ofNat (c.toNat / 262144 % 8 + 240)).toNat = c.toNat / 262144 + 240 := by
    rw [UInt8.toNat_ofNat']
    omega
  have hsecond := toNat_more (c.toNat / 4096)
  obtain ⟨low, high, hlead, hlow, hhigh⟩ : ∃ low high,
      lead? (c.toNat / 262144 + 240) = some ⟨c.toNat / 262144, low, high, 3⟩ ∧ low ≤ c.toNat / 4096 % 64 + 128 ∧
        c.toNat / 4096 % 64 + 128 ≤ high := by
    by_cases h0 : c.toNat / 262144 = 0
    · exact ⟨0x90, 0xbf, by rw [h0]; rfl, by omega, by omega⟩
    · by_cases h4 : c.toNat / 262144 = 4
      · exact ⟨0x80, 0x8f, by rw [h4]; rfl, by omega, by omega⟩
      · refine ⟨0x80, 0xbf, ?_, by omega, by omega⟩
        rw [lead?, if_neg (by omega), if_neg (by omega), if_neg (by omega), if_neg (by omega), if_neg (by omega),
          if_neg (by omega), if_neg (by omega), if_pos (by omega), Nat.add_sub_cancel]
  rw [← hb] at hlead
  rw [next_lead hlead (by omega) (by omega), tail_more, tail_more]
  exact tail_zero (by omega) bs

/-- A character is read from its bytes, whatever follows them. -/
theorem next_encodeChar (c : Char) (bs : List UInt8) :
    ∃ b more, String.utf8EncodeChar c = b :: more ∧ next b (more ++ bs) = (some c, bs) := by
  simp only [String.utf8EncodeChar, Char.toNat_val]
  split
  · rename_i h1
    exact ⟨_, _, rfl, next_one h1 bs⟩
  · rename_i h1
    split
    · rename_i h2
      exact ⟨_, _, rfl, next_two (Nat.lt_of_not_le h1) h2 bs⟩
    · rename_i h2
      split
      · rename_i h3
        exact ⟨_, _, rfl, next_three (Nat.lt_of_not_le h2) h3 bs⟩
      · rename_i h3
        exact ⟨_, _, rfl, next_four (Nat.lt_of_not_le h3) bs⟩

/-! ### All parts -/

theorem partsOnto_append (acc acc' : List (Option Char)) (bs : List UInt8) :
    partsOnto (acc ++ acc') bs = partsOnto acc bs ++ acc' := by
  induction acc, bs using partsOnto.induct with
  | case1 acc => rw [partsOnto, partsOnto]
  | case2 acc b bs ih => rw [partsOnto, partsOnto, ← ih, List.cons_append]

theorem parts_nil : parts [] = [] := by rw [parts, partsOnto, List.reverse_nil]

theorem parts_cons (b : UInt8) (bs : List UInt8) : parts (b :: bs) = (next b bs).1 :: parts (next b bs).2 := by
  have h := partsOnto_append [] [(next b bs).1] (next b bs).2
  rw [List.nil_append] at h
  rw [parts, partsOnto, h, List.reverse_append, List.reverse_singleton, List.singleton_append, parts]

theorem parts_encodeChar (c : Char) (bs : List UInt8) : parts (String.utf8EncodeChar c ++ bs) = some c :: parts bs := by
  obtain ⟨b, more, hc, hnext⟩ := next_encodeChar c bs
  rw [hc, List.cons_append, parts_cons, hnext]

theorem encode_cons (c : Char) (cs : List Char) : encode (c :: cs) = String.utf8EncodeChar c ++ encode cs := by
  rw [encode, List.flatMap_cons, encode]

theorem parts_encode (cs : List Char) : parts (encode cs) = cs.map some := by
  induction cs with
  | nil => exact parts_nil
  | cons c cs ih => rw [encode_cons, parts_encodeChar, ih, List.map_cons]

theorem mapM_id_eq_some_iff (ps : List (Option Char)) (cs : List Char) : ps.mapM id = some cs ↔ ps = cs.map some := by
  induction ps generalizing cs with
  | nil => cases cs <;> simp
  | cons p ps ih =>
    cases p with
    | none => cases cs <;> simp
    | some c => cases cs <;> simp [Option.bind_eq_some_iff, ih, and_left_comm]

/-- A strict reader gives the text back. -/
theorem decode_bytes (s : String) : decode? (bytes s) = some s := by
  rw [decode?, bytes, parts_encode, (mapM_id_eq_some_iff _ _).2 rfl, Option.map_some, String.ofList_toList]

theorem read_bytes (s : String) : read (bytes s) = .ok s := by
  rw [read, decode_bytes]

/-- So does a lenient one. -/
theorem lossy_bytes (s : String) : lossy (bytes s) = s := by
  simp [lossy, bytes, parts_encode, Function.comp_def]

theorem encode_inj {cs cs' : List Char} : encode cs = encode cs' ↔ cs = cs' := by
  constructor
  · intro h
    have hparts := congrArg parts h
    rw [parts_encode, parts_encode] at hparts
    exact (List.map_inj_right fun _ _ => Option.some.inj).1 hparts
  · rintro rfl
    rfl

/-! ### The only bytes of a text -/

theorem toNat_ofNat {n : Nat} (h : n < 0xd800 ∨ 0xdfff < n ∧ n < 0x110000) : (Char.ofNat n).toNat = n := by
  rw [Char.ofNat, dif_pos h]
  rfl

/-- What the first byte of a character announces: the bits of the shortest form that is long enough, and no surrogate. -/
theorem lead?_cases {n : Nat} {l : Lead} (h : lead? n = some l) :
    (l.low ≤ l.high ∧ 128 ≤ l.low ∧ l.high ≤ 191) ∧
    ((l.more = 0 ∧ n = l.bits ∧ l.bits < 128) ∨
    (l.more = 1 ∧ n = l.bits + 192 ∧ 2 ≤ l.bits ∧ l.bits < 32) ∨
    (l.more = 2 ∧ n = l.bits + 224 ∧ l.bits < 16 ∧ (l.bits = 0 → l.low = 160) ∧ (l.bits = 13 → l.high = 159)) ∨
    (l.more = 3 ∧ n = l.bits + 240 ∧ l.bits ≤ 4 ∧ (l.bits = 0 → l.low = 144) ∧ (l.bits = 4 → l.high = 143))) := by
  unfold lead? at h
  repeat' split at h
  all_goals
    first
    | contradiction
    | obtain rfl := Option.some.inj h
      dsimp only
      omega

theorem exists_of_tail {low high more bits : Nat} {bs rest : List UInt8} {c : Char}
    (h : tail low high (more + 1) bits bs = (some c, rest)) :
    ∃ b bs', bs = b :: bs' ∧ low ≤ b.toNat ∧ b.toNat ≤ high ∧
      tail 0x80 0xbf more (bits * 64 + b.toNat % 64) bs' = (some c, rest) := by
  cases bs with
  | nil => simp [tail] at h
  | cons b bs' =>
    rw [tail] at h
    split at h
    · rename_i hb
      exact ⟨b, bs', rfl, hb.1, hb.2, h⟩
    · simp at h

theorem of_tail_zero {low high bits : Nat} {bs rest : List UInt8} {c : Char}
    (h : tail low high 0 bits bs = (some c, rest)) (hbits : bits < 0xd800 ∨ 0xdfff < bits ∧ bits < 0x110000) :
    c.toNat = bits ∧ bs = rest := by
  simp only [tail, Prod.mk.injEq, Option.some.injEq] at h
  exact ⟨h.1 ▸ toNat_ofNat hbits, h.2⟩

theorem eq_ofNat {b : UInt8} {n : Nat} (h : b.toNat = n) : UInt8.ofNat n = b := by
  rw [← h, UInt8.ofNat_toNat]

/-- A character is read from its own bytes only. -/
theorem encodeChar_of_next {b : UInt8} {bs rest : List UInt8} {c : Char} (h : next b bs = (some c, rest)) :
    String.utf8EncodeChar c ++ rest = b :: bs := by
  unfold next at h
  split at h
  · rename_i l hlead
    simp only [String.utf8EncodeChar, Char.toNat_val]
    obtain ⟨⟨-, hlow, hhigh⟩, ⟨hmore, hb, hbits⟩ | ⟨hmore, hb, hpos, hbits⟩ | ⟨hmore, hb, hbits, hlong, hsur⟩ |
      ⟨hmore, hb, hbits, hlong, hlast⟩⟩ := lead?_cases hlead
    all_goals rw [hmore] at h
    · obtain ⟨hc, rfl⟩ := of_tail_zero h (by omega)
      rw [if_pos (by omega), eq_ofNat (b := b) (by omega)]
      rfl
    · obtain ⟨x, _, rfl, hxl, hxh, h⟩ := exists_of_tail h
      obtain ⟨hc, rfl⟩ := of_tail_zero h (by omega)
      rw [if_neg (by omega), if_pos (by omega), eq_ofNat (b := b) (by omega), eq_ofNat (b := x) (by omega)]
      rfl
    · obtain ⟨x, _, rfl, hxl, hxh, h⟩ := exists_of_tail h
      obtain ⟨y, _, rfl, hyl, hyh, h⟩ := exists_of_tail h
      obtain ⟨hc, rfl⟩ := of_tail_zero h (by omega)
      rw [if_neg (by omega), if_neg (by omega), if_pos (by omega), eq_ofNat (b := b) (by omega),
        eq_ofNat (b := x) (by omega), eq_ofNat (b := y) (by omega)]
      rfl
    · obtain ⟨x, _, rfl, hxl, hxh, h⟩ := exists_of_tail h
      obtain ⟨y, _, rfl, hyl, hyh, h⟩ := exists_of_tail h
      obtain ⟨z, _, rfl, hzl, hzh, h⟩ := exists_of_tail h
      obtain ⟨hc, rfl⟩ := of_tail_zero h (by omega)
      rw [if_neg (by omega), if_neg (by omega), if_neg (by omega), eq_ofNat (b := b) (by omega),
        eq_ofNat (b := x) (by omega), eq_ofNat (b := y) (by omega), eq_ofNat (b := z) (by omega)]
      rfl
  · cases h

/-- Parts that are characters one and all come from the bytes of these characters. -/
theorem eq_encode_of_parts {bs : List UInt8} {cs : List Char} (h : parts bs = cs.map some) : bs = encode cs := by
  match bs, cs with
  | [], [] => rfl
  | [], c :: cs => simp [parts_nil] at h
  | b :: bs, [] => simp [parts_cons] at h
  | b :: bs, c :: cs =>
    rw [parts_cons, List.map_cons, List.cons.injEq] at h
    have hnext := encodeChar_of_next (Prod.ext h.1 rfl : next b bs = (some c, (next b bs).2))
    rw [encode_cons, ← hnext, eq_encode_of_parts h.2]
termination_by bs.length
decreasing_by exact Nat.lt_succ_of_le (next_length_le b bs)

/-- A strict reader reads a text from its own bytes only. -/
theorem decode?_eq_some_iff (bs : List UInt8) (s : String) : decode? bs = some s ↔ bs = bytes s := by
  constructor
  · intro h
    obtain ⟨cs, hcs, rfl⟩ := Option.map_eq_some_iff.1 h
    rw [eq_encode_of_parts ((mapM_id_eq_some_iff _ _).1 hcs), bytes, String.toList_ofList]
  · rintro rfl
    exact decode_bytes s

theorem length_encode (cs : List Char) : (encode cs).length = (String.ofList cs).utf8ByteSize := by
  rw [← String.size_toByteArray, String.toByteArray_ofList]
  simp [encode, List.utf8Encode]

end ContractWatch.Utf8
