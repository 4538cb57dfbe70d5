import ContractWatch.Deflate.Inflate
import ContractWatch.Proofs.Deflate.PrefixCode

/-!
Tokens read back, one by one and as the body of a block.
-/

namespace ContractWatch.Deflate

theorem has_of_findRange? {ranges : List Range} {n s : Nat} {x : Range} (h : findRange? ranges n = some (s, x)) :
    ranges[s]? = some x ∧ x.base ≤ n ∧ n < x.base + 2 ^ x.extra := by
  obtain ⟨p, hp, hsx⟩ := Option.map_eq_some_iff.1 h
  obtain ⟨rfl, rfl⟩ := Prod.mk.inj hsx
  refine ⟨List.mem_zipIdx_iff_getElem?.1 (List.mem_reverse.1 (List.mem_of_find?_eq_some hp)), ?_⟩
  simpa [Range.has, Nat.one_shiftLeft] using List.find?_some hp

theorem reads_range {ranges : List Range} {n s : Nat} {w : List Bool} (h : rangeBits? ranges n = some (s, w)) :
    Reads (readRange ranges s) w n := by
  obtain ⟨⟨s', x⟩, hx, hw⟩ := Option.map_eq_some_iff.1 h
  obtain ⟨rfl, rfl⟩ := Prod.mk.inj hw
  obtain ⟨hs, hbase, hlt⟩ := has_of_findRange? hx
  intro r hr
  have hn : x.base + (n - x.base) = n := by omega
  simp only [readRange, hs, reads_nat x.extra (n - x.base) (by omega) r hr, hn]

/-- The parts of what is written for a copy. -/
theorem copyBits {b : Books} {length distance : Nat} {w : List Bool}
    (h : tokenBits? b (.copy length distance) = some w) :
    ∃ l ls d ds lw dw, rangeBits? lengthRanges length = some (l, ls) ∧
      rangeBits? distanceRanges distance = some (d, ds) ∧
      b.literals.word? (firstLengthSymbol + l) = some lw ∧ b.distances.word? d = some dw ∧
      w = lw ++ (ls ++ (dw ++ ds)) := by
  simp only [tokenBits?] at h
  split at h
  · rename_i l ls d ds hl hd
    split at h
    · rename_i lw dw hlw hdw
      refine ⟨l, ls, d, ds, lw, dw, hl, hd, hlw, hdw, ?_⟩
      rw [← Option.some.inj h]
      simp
    · contradiction
  · contradiction

theorem reads_token {c : Codes} {t : Token} {w : List Bool} (h : tokenBits? c.books t = some w) :
    Reads (readToken c) w (some t) := by
  intro r hr
  cases t with
  | literal x =>
    have hx : x.toNat < endSymbol := x.toNat_lt
    simp only [readToken, Tree.reads_word? h r hr, hx, if_true, UInt8.ofNat_toNat]
  | copy length distance =>
    obtain ⟨l, ls, d, ds, lw, dw, hl, hd, hlw, hdw, rfl⟩ := copyBits h
    obtain ⟨h1, hr⟩ := Reader.split_head hr
    obtain ⟨h2, hr⟩ := Reader.split_head hr
    obtain ⟨h3, h4⟩ := Reader.split_head hr
    have hlt : ¬ firstLengthSymbol + l < endSymbol := by simp only [firstLengthSymbol, endSymbol]; omega
    have hne : ¬ firstLengthSymbol + l = endSymbol := by simp only [firstLengthSymbol, endSymbol]; omega
    simp only [readToken, Tree.reads_word? hlw r h1, hlt, hne, if_false, Nat.add_sub_cancel_left, reads_range hl _ h2,
      Tree.reads_word? hdw _ h3, reads_range hd _ h4]
    simp only [List.length_append, Reader.skip_add]

theorem reads_end {c : Codes} {w : List Bool} (h : c.books.literals.word? endSymbol = some w) :
    Reads (readToken c) w none := by
  intro r hr
  simp only [readToken, Tree.reads_word? h r hr, Nat.lt_irrefl, if_false, if_true]

theorem bodyBits_eq_some {b : Books} {ts : List Token} {w : List Bool} (h : bodyBits? b ts = some w) :
    ∃ ws e, ts.mapM (tokenBits? b) = some ws ∧ b.literals.word? endSymbol = some e ∧ w = ws.flatten ++ e := by
  simp only [bodyBits?] at h
  split at h
  · rename_i ws e hws he
    exact ⟨ws, e, hws, he, (Option.some.inj h).symm⟩
  · contradiction

theorem reads_body {c : Codes} {ts : List Token} {w : List Bool} (h : bodyBits? c.books ts = some w) {fuel : Nat}
    (hfuel : ts.length < fuel) (out : Array UInt8) :
    Reads (fun r => inflateTokens c fuel r out) w (Token.replayAll out ts) := by
  obtain ⟨ws, e, hws, he, rfl⟩ := bodyBits_eq_some h
  clear h
  induction ts generalizing ws fuel out with
  | nil =>
    obtain rfl : ws = [] := by simpa using hws.symm
    cases fuel with
    | zero => contradiction
    | succ fuel =>
      intro r hr
      simp only [inflateTokens, reads_end he r hr]
      rfl
  | cons t ts ih =>
    obtain ⟨v, hv, vs, hvs, rfl⟩ := mapM_cons_eq_some hws
    cases fuel with
    | zero => contradiction
    | succ fuel =>
      intro r hr
      rw [List.flatten_cons, List.append_assoc] at hr
      obtain ⟨h1, h2⟩ := Reader.split_head hr
      have hrest := ih (Nat.lt_of_succ_lt_succ hfuel) (t.replay out) vs hvs _ h2
      simp only at hrest
      simp only [inflateTokens, reads_token hv r h1, hrest, List.flatten_cons, List.append_assoc, List.length_append,
        Reader.skip_add]
      rfl

/-! ### Every token takes a bit -/

theorem tokenBits_ne_nil {c : Codes} (hc : c.literals.IsFork) {t : Token} {w : List Bool}
    (h : tokenBits? c.books t = some w) : w ≠ [] := by
  cases t with
  | literal x => exact hc.ne_nil h
  | copy length distance =>
    obtain ⟨l, ls, d, ds, lw, dw, -, -, hlw, -, rfl⟩ := copyBits h
    simp [hc.ne_nil hlw]

theorem length_le_of_bodyBits {c : Codes} (hc : c.literals.IsFork) {ts : List Token} {w : List Bool}
    (h : bodyBits? c.books ts = some w) : ts.length ≤ w.length := by
  obtain ⟨ws, e, hws, -, rfl⟩ := bodyBits_eq_some h
  clear h
  induction ts generalizing ws with
  | nil => exact Nat.zero_le _
  | cons t ts ih =>
    obtain ⟨v, hv, vs, hvs, rfl⟩ := mapM_cons_eq_some hws
    have hpos := List.length_pos_iff.2 (tokenBits_ne_nil hc hv)
    have hrest := ih vs hvs
    simp only [List.flatten_cons, List.append_assoc, List.length_append, List.length_cons] at hrest ⊢
    omega

end ContractWatch.Deflate
