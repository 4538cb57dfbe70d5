import ContractWatch.Proofs.Base64

/-!
Only the text that is written for some bytes is read: the symbols of their groups of six bits, no bit set that
belongs to no byte, and the padding.
-/

namespace ContractWatch.Base64

theorem value_lt : ∀ n < 256, ∀ v ∈ value? (UInt8.ofNat n), v < 64 ∧ symbolByte v = UInt8.ofNat n := by
  decide +kernel

theorem symbolByte_of_value? {b : UInt8} {v : Nat} (h : value? b = some v) : v < 64 ∧ symbolByte v = b := by
  have hb := value_lt b.toNat b.toNat_lt v
  rw [UInt8.ofNat_toNat] at hb
  exact hb h

theorem exists_values {symbols : List UInt8} (h : ∀ b ∈ symbols, isSymbol b) :
    ∃ vs : List Nat, (∀ v ∈ vs, v < 64) ∧ symbols = vs.map symbolByte := by
  induction symbols with
  | nil => exact ⟨[], by simp, rfl⟩
  | cons b symbols ih =>
    obtain ⟨v, hv⟩ := Option.isSome_iff_exists.1 (h b List.mem_cons_self)
    obtain ⟨hlt, rfl⟩ := symbolByte_of_value? hv
    obtain ⟨vs, hvs, rfl⟩ := ih fun b hb => h b (List.mem_cons_of_mem _ hb)
    exact ⟨v :: vs, List.forall_mem_cons.2 ⟨hlt, hvs⟩, rfl⟩

/-- No bit is set in the last group that belongs to no byte. -/
def IsSpare (vs : List Nat) : Prop := ∀ v, vs.getLast? = some v → spareBits vs.length v = 0

theorem IsSpare.tail {w x y z : Nat} {vs : List Nat} (h : IsSpare (w :: x :: y :: z :: vs)) : IsSpare vs := by
  intro v hv
  have hne : vs ≠ [] := by
    rintro rfl
    contradiction
  have hmod : (vs.length + 1 + 1 + 1 + 1) % 4 = vs.length % 4 := by omega
  have hlast := h v
  rw [List.getLast?_cons_of_ne_nil (by simp), List.getLast?_cons_of_ne_nil (by simp),
    List.getLast?_cons_of_ne_nil (by simp), List.getLast?_cons_of_ne_nil hne] at hlast
  simpa only [spareBits, List.length_cons, hmod] using hlast hv

/-- Groups of six bits are those of the bytes that they are joined to. -/
theorem exists_sextets_of_joinOnto (acc : List UInt8) {vs : List Nat} (hlt : ∀ v ∈ vs, v < 64)
    (hmod : vs.length % 4 ≠ 1) (hspare : IsSpare vs) :
    ∃ bs, (joinOnto acc vs).reverse = acc.reverse ++ bs ∧ sextets bs = vs := by
  fun_induction joinOnto acc vs with
  | case1 acc w x y z vs n ih =>
    simp only [List.mem_cons, forall_eq_or_imp] at hlt
    obtain ⟨hw, hx, hy, hz, hlt⟩ := hlt
    have hmod' : vs.length % 4 ≠ 1 := by
      simp only [List.length_cons] at hmod
      omega
    obtain ⟨bs, hbs, hvs⟩ := ih hlt hmod' hspare.tail
    refine ⟨UInt8.ofNat (n / 65536) :: UInt8.ofNat (n / 256 % 256) :: UInt8.ofNat (n % 256) :: bs, by simp [hbs], ?_⟩
    simp only [sextets, UInt8.toNat_ofNat', hvs, List.cons.injEq, and_true]
    omega
  | case2 acc x y z n =>
    simp only [List.mem_cons, forall_eq_or_imp, List.not_mem_nil, false_imp_iff, implies_true, and_true] at hlt
    have hz : z % 4 = 0 := hspare z rfl
    refine ⟨[UInt8.ofNat (n / 1024), UInt8.ofNat (n / 4 % 256)], by simp, ?_⟩
    simp only [sextets, UInt8.toNat_ofNat', List.cons.injEq, and_true]
    omega
  | case3 acc x y =>
    simp only [List.mem_cons, forall_eq_or_imp, List.not_mem_nil, false_imp_iff, implies_true, and_true] at hlt
    have hy : y % 16 = 0 := hspare y rfl
    refine ⟨[UInt8.ofNat ((x * 64 + y) / 16)], by simp, ?_⟩
    simp only [sextets, UInt8.toNat_ofNat', List.cons.injEq, and_true]
    omega
  | case4 vs acc h4 h3 h2 =>
    obtain _ | ⟨w, _ | ⟨x, _ | ⟨y, _ | ⟨z, vs⟩⟩⟩⟩ := vs
    · exact ⟨[], by simp, rfl⟩
    · exact (hmod rfl).elim
    · exact (h2 w x rfl).elim
    · exact (h3 w x y rfl).elim
    · exact (h4 w x y z vs rfl).elim

theorem sextets_join {vs : List Nat} (hlt : ∀ v ∈ vs, v < 64) (hmod : vs.length % 4 ≠ 1) (hspare : IsSpare vs) :
    sextets (join vs) = vs := by
  obtain ⟨bs, hbs, hvs⟩ := exists_sextets_of_joinOnto [] hlt hmod hspare
  rw [join, hbs, List.reverse_nil, List.nil_append, hvs]

theorem replicate_of_all {rest : List UInt8} (h : rest.all (· = padding)) :
    rest = List.replicate rest.length padding :=
  List.eq_replicate_iff.2 ⟨rfl, fun b hb => of_decide_eq_true (List.all_eq_true.1 h b hb)⟩

/-- A text without a fault is whole groups of four, the last one filled up with padding, and leaves no bit over. -/
theorem of_fault?_eq_none {text symbols rest : List UInt8} (h : fault? text symbols rest = none) :
    text.length % 4 = 0 ∧ isPadding symbols.length rest ∧
      ∀ b, symbols.getLast? = some b → spareBits symbols.length ((value? b).getD 0) = 0 := by
  simp only [fault?] at h
  split at h
  · rename_i hone
    split at h
    · split at h <;> contradiction
    · rename_i hnone
      rw [List.getLast?_eq_none_iff.1 hnone] at hone
      contradiction
  split at h
  · rename_i hpad
    rw [Option.map_eq_none_iff, List.head?_eq_none_iff] at h
    rw [h] at hpad
    contradiction
  split at h
  · contradiction
  rename_i hpad hmod
  refine ⟨Decidable.not_not.1 hmod, by simpa using hpad, fun b hb => ?_⟩
  simp only [hb] at h
  split at h
  · assumption
  · contradiction

/-- Padding fills up the last group. -/
theorem length_of_isPadding {n : Nat} {rest : List UInt8} (h : isPadding n rest) (hmod : (n + rest.length) % 4 = 0) :
    rest = List.replicate rest.length padding ∧ n % 4 ≠ 1 ∧ rest.length = (4 - n % 4) % 4 := by
  simp only [isPadding, Bool.or_eq_true, Bool.and_eq_true, decide_eq_true_eq, List.isEmpty_iff] at h
  obtain rfl | ⟨⟨hall, htwo⟩, hfour⟩ := h
  · simp only [List.length_nil, Nat.add_zero, List.replicate_zero, true_and] at hmod ⊢
    omega
  · exact ⟨replicate_of_all hall, by omega, by omega⟩

/-- Reading accepts what writing produces, and nothing else. -/
theorem decode_eq_ok_iff {text bs : List UInt8} : decode text = .ok bs ↔ text = Utf8.encode (encode bs) := by
  constructor
  · intro h
    simp only [decode] at h
    split at h
    · contradiction
    rename_i hfault
    obtain rfl := Except.ok.inj h
    obtain ⟨hmod, hpad, hspare⟩ := of_fault?_eq_none hfault
    have hsplit : text.takeWhile isSymbol ++ text.dropWhile isSymbol = text := List.takeWhile_append_dropWhile
    obtain ⟨vs, hlt, hvs⟩ := exists_values (List.all_eq_true.1 (List.all_takeWhile (l := text)))
    generalize text.dropWhile isSymbol = rest at *
    rw [hvs] at hsplit hpad hspare ⊢
    rw [← hsplit, List.length_append, List.length_map] at hmod
    rw [List.length_map] at hpad
    obtain ⟨hrest, hone, hfill⟩ := length_of_isPadding hpad hmod
    have hjoin : sextets (join vs) = vs := by
      apply sextets_join hlt hone
      intro v hv
      have hb := hspare (symbolByte v) (by rw [List.getLast?_map, hv, Option.map_some])
      rwa [List.length_map, value_symbolByte v (hlt v (List.mem_of_getLast? hv)), Option.getD_some] at hb
    have hpads : pads (join vs).length = rest.length := by
      have hlen := sextets_length (join vs)
      rw [hjoin] at hlen
      simp only [pads]
      omega
    rw [filterMap_value hlt, bytes_encode, hjoin, hpads, ← hrest, hsplit]
  · rintro rfl
    exact decode_encode bs

theorem encode_inj {bs bs' : List UInt8} : encode bs = encode bs' ↔ bs = bs' := by
  constructor
  · intro h
    have hdecode := decode_encode bs
    rw [h, decode_encode bs'] at hdecode
    exact (Except.ok.inj hdecode).symm
  · rintro rfl
    rfl

/-! ### Parts of a text -/

theorem sextets_append {xs : List UInt8} (h : xs.length % 3 = 0) (ys : List UInt8) :
    sextets (xs ++ ys) = sextets xs ++ sextets ys := by
  fun_induction sextets xs with
  | case1 => rfl
  | case2 => contradiction
  | case3 => contradiction
  | case4 a b c xs n ih =>
    have h : xs.length % 3 = 0 := by
      simp only [List.length_cons] at h
      omega
    simp only [List.cons_append, sextets, ih h]
    rfl

theorem encode_append {xs : List UInt8} (h : xs.length % 3 = 0) (ys : List UInt8) :
    encode (xs ++ ys) = encode xs ++ encode ys := by
  have hxs : pads xs.length = 0 := by simp only [pads, h]
  have hys : pads (xs ++ ys).length = pads ys.length := by
    simp only [pads, List.length_append]
    omega
  rw [encode_eq, encode_eq, encode_eq, sextets_append h, hxs, hys, List.map_append, List.replicate_zero,
    List.append_nil, List.append_assoc]

theorem length_encode (bs : List UInt8) : (encode bs).length = 4 * ((bs.length + 2) / 3) := by
  rw [encode_eq, List.length_append, List.length_map, List.length_replicate, sextets_length, pads]
  omega

/-- A text that another one begins with is that of bytes that the other one's bytes begin with. -/
theorem prefix_of_encode_prefix {bs bs' : List UInt8} (h : encode bs <+: encode bs') : bs <+: bs' := by
  obtain ⟨s, hs⟩ := h
  have hlength := congrArg List.length hs
  rw [List.length_append, length_encode, length_encode] at hlength
  cases s with
  | nil =>
    rw [List.append_nil, encode_inj] at hs
    exact hs ▸ List.prefix_refl _
  | cons c s =>
    rw [List.length_cons] at hlength
    have htake : (bs'.take (3 * ((bs.length + 2) / 3))).length = 3 * ((bs.length + 2) / 3) := by
      rw [List.length_take]
      omega
    rw [← List.take_append_drop (3 * ((bs.length + 2) / 3)) bs', encode_append (by omega)] at hs
    have hencode := (List.append_inj hs (by rw [length_encode, length_encode]; omega)).1
    rw [encode_inj] at hencode
    rw [hencode]
    exact List.take_prefix _ _

end ContractWatch.Base64
