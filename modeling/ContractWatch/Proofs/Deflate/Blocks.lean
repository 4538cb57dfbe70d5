import ContractWatch.Proofs.Deflate.Lengths
import ContractWatch.Proofs.Deflate.Matcher
import ContractWatch.Proofs.Deflate.Tokens

/-!
Deflated data read back: each kind of block gives the data that it was made of and leaves the stream behind it, and
so do all blocks together.
-/

namespace ContractWatch.Deflate

/-! ### Coded blocks -/

theorem ofLengths_eq_some {literals distances : List Nat} {c : Codes}
    (h : Codes.ofLengths? literals distances = some c) :
    codeTree? .sparse literals = some c.literals ∧ codeTree? .sparse distances = some c.distances := by
  simp only [Codes.ofLengths?] at h
  split at h
  · rename_i hl hd
    obtain rfl := Option.some.inj h
    exact ⟨hl, hd⟩
  · contradiction

theorem isFork_of_ofLengths {literals distances : List Nat} {c : Codes}
    (h : Codes.ofLengths? literals distances = some c) : c.literals.IsFork :=
  isFork_of_codeTree? (ofLengths_eq_some h).1

theorem ofLengths_fixed : Codes.ofLengths? fixedLiterals fixedDistances = some Codes.fixed := by
  have h : (Codes.ofLengths? fixedLiterals fixedDistances).isSome := by decide +kernel
  obtain ⟨c, hc⟩ := Option.isSome_iff_exists.1 h
  rw [Codes.fixed, hc, Option.getD_some]

/-- The bits are a block, without the mark of the last one, that stands for the tokens. -/
structure IsBlock (ts : List Token) (v : List Bool) : Prop where
  length_le : ts.length ≤ v.length
  reads : ∃ kind w, v = natBits 2 kind ++ w ∧ kind < 4 ∧ ∀ limit out, ts.length < limit →
    Reads (fun r => inflateBlock limit kind r out) w (Token.replayAll out ts)

theorem isBlock_fixed {ts : List Token} {v : List Bool} (h : fixedBlock? ts = some v) : IsBlock ts v := by
  obtain ⟨w, hw, rfl⟩ := Option.map_eq_some_iff.1 h
  have hle := length_le_of_bodyBits (isFork_of_ofLengths ofLengths_fixed) hw
  refine ⟨by simp only [List.length_append]; omega, 1, w, rfl, by decide, fun limit out hlt => ?_⟩
  exact reads_body hw hlt out

theorem isBlock_own {ts : List Token} {v : List Bool} (h : ownBlock? ts = some v) : IsBlock ts v := by
  simp only [ownBlock?] at h
  split at h
  · rename_i head c hhead hc
    obtain ⟨w, hw, rfl⟩ := Option.map_eq_some_iff.1 h
    have hle := length_le_of_bodyBits (isFork_of_ofLengths hc) hw
    have hcodes : Reads readCodes head c := by
      apply reads_codes _ _ _ hhead hc
      · simp
      · simp
      · intro l hl
        obtain hl | hl := List.mem_append.1 hl <;> exact Nat.lt_succ_of_le (le_of_mem_limitedLengths hl)
    refine ⟨by simp only [List.length_append]; omega, 2, head ++ w, by simp, by decide,
      fun limit out hlt r hr => ?_⟩
    obtain ⟨h1, h2⟩ := Reader.split_head hr
    have hbody := reads_body hw hlt out _ h2
    simp only at hbody
    simp only [inflateBlock, hcodes r h1, hbody, List.length_append, Reader.skip_add]
  · contradiction

theorem isBlock_of_blockBits {isLast : Bool} {ts : List Token} {w : List Bool} (h : blockBits? isLast ts = some w) :
    ∃ v, w = isLast :: v ∧ IsBlock ts v := by
  simp only [blockBits?] at h
  split at h
  · rename_i a b ha hb
    refine ⟨_, (Option.some.inj h).symm, ?_⟩
    unfold shorter
    split
    · exact isBlock_fixed ha
    · exact isBlock_own hb
  · rename_i a ha _
    exact ⟨a, (Option.some.inj h).symm, isBlock_fixed ha⟩
  · rename_i b _ hb
    exact ⟨b, (Option.some.inj h).symm, isBlock_own hb⟩
  · cases h

/-- One step of the reader over the blocks. -/
theorem inflateBlocks_succ {limit fuel kind : Nat} {isLast : Bool} {r r₁ r₂ r₃ : Reader} {out out' : Array UInt8}
    (hlast : r.nat 1 = .ok (isLast.toNat, r₁)) (hkind : r₁.nat 2 = .ok (kind, r₂))
    (hblock : inflateBlock limit kind r₂ out = .ok (out', r₃)) :
    inflateBlocks limit (fuel + 1) r out =
      if isLast then .ok (out', r₃) else inflateBlocks limit fuel r₃ out' := by
  simp only [inflateBlocks, hlast, hkind, hblock]
  cases isLast <;> rfl

theorem inflateBlocks_block {ts : List Token} {v : List Bool} (h : IsBlock ts v) {limit fuel : Nat}
    (hlimit : ts.length < limit) {isLast : Bool} {r : Reader} (hr : isLast :: v <+: r.bits) (out : Array UInt8) :
    inflateBlocks limit (fuel + 1) r out =
      if isLast then .ok (Token.replayAll out ts, r.skip (isLast :: v).length)
      else inflateBlocks limit fuel (r.skip (isLast :: v).length) (Token.replayAll out ts) := by
  obtain ⟨kind, w, rfl, hkind, hreads⟩ := h.reads
  have hlast : natBits 1 isLast.toNat = [isLast] := by cases isLast <;> rfl
  have hone := reads_nat 1 isLast.toNat (by cases isLast <;> decide)
  rw [hlast] at hone
  have hr : [isLast] ++ (natBits 2 kind ++ w) <+: r.bits := hr
  obtain ⟨h1, hr⟩ := Reader.split_head hr
  obtain ⟨h2, h3⟩ := Reader.split_head hr
  rw [inflateBlocks_succ (hone r h1) (reads_nat 2 kind hkind _ h2) (hreads limit out hlimit _ h3)]
  simp only [← Reader.skip_add, ← List.length_append, List.cons_append, List.nil_append]

theorem length_le_of_blocksBits {ts : List Token} {w : List Bool} (h : blocksBits? ts = some w) :
    ts.length ≤ w.length := by
  fun_induction blocksBits? ts generalizing w with
  | case1 ts hts =>
    obtain ⟨v, rfl, hv⟩ := isBlock_of_blockBits h
    exact Nat.le_succ_of_le hv.length_le
  | case2 ts hts a b hb ha ih =>
    obtain ⟨v, rfl, hv⟩ := isBlock_of_blockBits ha
    obtain rfl := Option.some.inj h
    have hhead := hv.length_le
    have htail := ih hb
    simp only [List.length_take, List.length_drop, List.length_append, List.length_cons] at *
    omega
  | case3 => contradiction

theorem reads_blocks {ts : List Token} {w : List Bool} (h : blocksBits? ts = some w) {limit fuel : Nat}
    (hlimit : ts.length < limit) (hfuel : ts.length < fuel) (out : Array UInt8) :
    Reads (fun r => inflateBlocks limit fuel r out) w (Token.replayAll out ts) := by
  fun_induction blocksBits? ts generalizing w fuel out with
  | case1 ts hts =>
    obtain ⟨v, rfl, hv⟩ := isBlock_of_blockBits h
    cases fuel with
    | zero => contradiction
    | succ fuel => exact fun r hr => inflateBlocks_block hv hlimit hr out
  | case2 ts hts a b hb ha ih =>
    obtain ⟨v, rfl, hv⟩ := isBlock_of_blockBits ha
    obtain rfl := Option.some.inj h
    cases fuel with
    | zero => contradiction
    | succ fuel =>
      intro r hr
      obtain ⟨h1, h2⟩ := Reader.split_head hr
      have hdrop : (ts.drop blockTokens).length < min limit fuel := by
        simp only [List.length_drop, blockTokens] at hts ⊢
        omega
      have hrest := ih hb (Nat.lt_of_lt_of_le hdrop (Nat.min_le_left ..))
        (Nat.lt_of_lt_of_le hdrop (Nat.min_le_right ..))
        (Token.replayAll out (ts.take blockTokens)) _ h2
      have htake : (ts.take blockTokens).length < limit := by
        rw [List.length_take]
        omega
      simp only at hrest
      simp only [inflateBlocks_block hv htake h1, hrest, Bool.false_eq_true, if_false]
      rw [List.length_append, Reader.skip_add, Token.replayAll, Token.replayAll, Token.replayAll, ← List.foldl_append,
        List.take_append_drop]
  | case3 => contradiction

/-! ### Stored blocks -/

theorem take_append (pending : List Bool) (bs rest : List UInt8) :
    Reader.take bs.length ⟨pending, bs ++ rest⟩ = .ok (bs, ⟨[], rest⟩) := by
  simp [Reader.take]

theorem littleEndian_twoBytes {n : Nat} (h : n ≤ storedMax) : littleEndian (twoBytes n) = n := by
  have h : n ≤ 65535 := h
  simp only [littleEndian, twoBytes, List.foldr_cons, List.foldr_nil, UInt8.toNat_ofNat']
  omega

theorem inflateStored_storedBlock {bs : List UInt8} (h : bs.length ≤ storedMax) (pending : List Bool)
    (rest : List UInt8) (out : Array UInt8) :
    inflateStored ⟨pending, twoBytes bs.length ++ twoBytes (65535 - bs.length) ++ bs ++ rest⟩ out =
      .ok (bs.foldl Array.push out, ⟨[], rest⟩) := by
  have hhead := take_append pending (twoBytes bs.length ++ twoBytes (65535 - bs.length)) (bs ++ rest)
  have hlength : (twoBytes bs.length ++ twoBytes (65535 - bs.length)).length = 4 := rfl
  have htwo : (twoBytes bs.length ++ twoBytes (65535 - bs.length)).take 2 = twoBytes bs.length := rfl
  have hsum : ¬ bs.length + (65535 - bs.length) ≠ 65535 := by
    have h : bs.length ≤ 65535 := h
    omega
  have hinverse : littleEndian ((twoBytes bs.length ++ twoBytes (65535 - bs.length)).drop 2) = 65535 - bs.length :=
    littleEndian_twoBytes (Nat.sub_le ..)
  rw [hlength, ← List.append_assoc] at hhead
  simp only [inflateStored, hhead, htwo, littleEndian_twoBytes h, hinverse, hsum, if_false, take_append]

theorem inflateBlocks_storedBlock {bs : List UInt8} (h : bs.length ≤ storedMax) (limit fuel : Nat) (isLast : Bool)
    (rest : List UInt8) (out : Array UInt8) :
    inflateBlocks limit (fuel + 1) (.ofBytes (storedBlock isLast bs ++ rest)) out =
      if isLast then .ok (bs.foldl Array.push out, .ofBytes rest)
      else inflateBlocks limit fuel (.ofBytes rest) (bs.foldl Array.push out) := by
  have hblock (pending : List Bool) := inflateStored_storedBlock h pending rest out
  have hlast : (Reader.ofBytes (storedBlock isLast bs ++ rest)).nat 1 = .ok (isLast.toNat,
      ⟨List.replicate 7 false, twoBytes bs.length ++ twoBytes (65535 - bs.length) ++ bs ++ rest⟩) := by
    cases isLast <;> rfl
  exact inflateBlocks_succ hlast rfl (hblock _)

theorem inflateBlocks_stored (limit : Nat) {fuel : Nat} {bs : List UInt8} (hfuel : bs.length < fuel) (rest : List UInt8)
    (out : Array UInt8) :
    inflateBlocks limit fuel (.ofBytes (stored bs ++ rest)) out = .ok (bs.foldl Array.push out, .ofBytes rest) := by
  fun_induction stored bs generalizing fuel out with
  | case1 bs hbs =>
    cases fuel with
    | zero => contradiction
    | succ fuel => exact inflateBlocks_storedBlock hbs limit fuel true rest out
  | case2 bs hbs ih =>
    cases fuel with
    | zero => contradiction
    | succ fuel =>
      have hdrop : (bs.drop storedMax).length < fuel := by
        simp only [List.length_drop, storedMax] at hbs ⊢
        omega
      have htake : (bs.take storedMax).length ≤ storedMax := List.length_take_le ..
      rw [List.append_assoc, inflateBlocks_storedBlock htake, if_neg (by decide), ih hdrop, ← List.foldl_append,
        List.take_append_drop]

theorem length_le_stored (bs : List UInt8) : bs.length ≤ (stored bs).length := by
  fun_induction stored bs with
  | case1 bs hbs =>
    simp only [storedBlock, List.length_cons, List.length_append]
    omega
  | case2 bs hbs ih =>
    simp only [storedBlock, List.length_cons, List.length_append, List.length_take, List.length_drop] at ih ⊢
    omega

/-- A block has five bytes more than its data, and one that is not the last has all the data it can hold. -/
theorem length_stored_le (bs : List UInt8) : (stored bs).length ≤ 2 * bs.length + 5 := by
  fun_induction stored bs with
  | case1 bs hbs =>
    simp only [storedBlock, twoBytes, List.length_cons, List.length_append, List.length_nil]
    omega
  | case2 bs hbs ih =>
    simp only [storedBlock, twoBytes, storedMax, List.length_cons, List.length_append, List.length_nil,
      List.length_take, List.length_drop] at hbs ih ⊢
    omega

/-! ### The whole stream -/

theorem foldl_push (bs : List UInt8) (out : Array UInt8) : bs.foldl Array.push out = out ++ bs.toArray := by
  induction bs generalizing out with
  | nil => simp
  | cons b bs ih => simp [ih]

theorem inflate_stored (data rest : List UInt8) : inflate (stored data ++ rest) = .ok (data, rest) := by
  have hfuel : data.length < 8 * (stored data ++ rest).length + 1 := by
    have h := length_le_stored data
    rw [List.length_append]
    omega
  simp only [inflate, inflateBlocks_stored _ hfuel, foldl_push]
  simp [Reader.ofBytes]

theorem inflate_pack {ts : List Token} {w : List Bool} (h : blocksBits? ts = some w) (rest : List UInt8) :
    inflate (pack w ++ rest) = .ok ((Token.replayAll #[] ts).toList, rest) := by
  have hlimit : ts.length < 8 * (pack w ++ rest).length + 1 := by
    have hle := length_le_of_blocksBits h
    obtain ⟨k, -, -, hlen⟩ := pack_bits w
    rw [List.length_append]
    omega
  obtain ⟨r, hr, rfl⟩ := (reads_blocks h hlimit hlimit #[]).of_pack rest
  simp only [inflate, hr]

/-- Deflated data come back, and what follows them is left. -/
theorem inflate_deflate (data rest : List UInt8) : inflate (deflate data ++ rest) = .ok (data, rest) := by
  simp only [deflate]
  split
  · rename_i w hw
    split
    · rw [inflate_pack hw, replayAll_tokens]
    · exact inflate_stored data rest
  · exact inflate_stored data rest

theorem length_deflate_le (data : List UInt8) : (deflate data).length ≤ (stored data).length := by
  simp only [deflate]
  split
  · rename_i w _
    obtain ⟨k, hk, -, hlen⟩ := pack_bits w
    split
    · omega
    · exact Nat.le_refl _
  · exact Nat.le_refl _

end ContractWatch.Deflate
