import ContractWatch.Deflate.Matcher

/-!
Tokens stand for the data that they were found in. Wherever the finder points, a copy is as long as the bytes that
were compared and found equal.
-/

namespace ContractWatch.Deflate

theorem matchLength_le (data : Array UInt8) (i j room : Nat) : matchLength data i j room ≤ room := by
  induction room generalizing i j with
  | zero => exact Nat.le_refl _
  | succ room ih =>
    simp only [matchLength]
    split
    · exact Nat.succ_le_succ (ih _ _)
    · exact Nat.zero_le _

theorem agree_of_lt_matchLength {data : Array UInt8} {i j room k : Nat} (h : k < matchLength data i j room) :
    data.getD (i + k) 0 = data.getD (j + k) 0 := by
  induction room generalizing i j k with
  | zero => simp [matchLength] at h
  | succ room ih =>
    simp only [matchLength] at h
    split at h
    · rename_i heq
      cases k with
      | zero => exact heq
      | succ k =>
        have hk := ih (Nat.lt_of_succ_lt_succ h)
        rwa [Nat.add_right_comm, Nat.add_right_comm j] at hk
    · contradiction

/-- The copy gives the bytes that the data have at `i`. -/
structure Copy.Matches (data : Array UInt8) (i : Nat) (c : Copy) : Prop where
  room : c.length ≤ data.size - i
  within : c.distance ≤ i
  back : 0 < c.length → 0 < c.distance
  agree : ∀ k < c.length, data.getD (i + k) 0 = data.getD (i - c.distance + k) 0

theorem Copy.matches_empty (data : Array UInt8) (i : Nat) : Matches data i {} :=
  ⟨Nat.zero_le _, Nat.zero_le _, fun h => h, fun _ hk => absurd hk (Nat.not_lt_zero _)⟩

theorem Copy.matches_found {data : Array UInt8} {i j : Nat} (hj : j < i) :
    Matches data i ⟨matchLength data i j (min maxCopy (data.size - i)), i - j⟩ where
  room := Nat.le_trans (matchLength_le ..) (Nat.min_le_right ..)
  within := Nat.sub_le ..
  back _ := Nat.sub_pos_of_lt hj
  agree k hk := by
    have h := agree_of_lt_matchLength hk
    rwa [Nat.sub_sub_self (Nat.le_of_lt hj)]

theorem matches_longest {data : Array UInt8} {links : Array Nat} {i : Nat} (tries link : Nat) {best : Copy}
    (h : best.Matches data i) : (longest data links i tries link best).Matches data i := by
  fun_induction longest data links i tries link best with
  | case1 => exact h
  | case2 => exact h
  | case3 best tries j hj n ih =>
    apply ih
    split
    · exact Copy.matches_found hj.1
    · exact h
  | case4 => exact h

theorem matches_copyAt (f : Finder) (data : Array UInt8) (i : Nat) : (f.copyAt data i).Matches data i :=
  matches_longest _ _ (Copy.matches_empty data i)

theorem Copy.pos_of_isWorthwhile {c : Copy} (h : c.isWorthwhile) : 0 < c.length := by
  simp only [isWorthwhile, Bool.or_eq_true, Bool.and_eq_true, decide_eq_true_eq] at h
  omega

/-! ### Replay -/

theorem push_extract {data : Array UInt8} {i : Nat} (h : i < data.size) :
    (data.extract 0 i).push (data.getD i 0) = data.extract 0 (i + 1) := by
  rw [Array.extract_succ_right (Nat.zero_lt_succ i) h, Array.getD, dif_pos h]
  rfl

theorem earlier_extract {data : Array UInt8} {i distance : Nat} (hi : i ≤ data.size) (hpos : 0 < distance)
    (hd : distance ≤ i) : earlier (data.extract 0 i) distance = data.getD (i - distance) 0 := by
  have hlt : i - distance < i := Nat.sub_lt (Nat.lt_of_lt_of_le hpos hd) hpos
  have hsize : (data.extract 0 i).size = i := by rw [Array.size_extract_of_le hi, Nat.sub_zero]
  simp only [earlier, hsize, hd, if_true, Array.getD_eq_getD_getElem?]
  rw [Array.getElem?_extract, if_pos (by omega), Nat.zero_add]

/-- A copy that starts before `i` and agrees with the data there continues them. -/
theorem copyBytes_extract {data : Array UInt8} {distance : Nat} (hpos : 0 < distance) {n i : Nat} (hd : distance ≤ i)
    (hn : i + n ≤ data.size) (h : ∀ k < n, data.getD (i + k) 0 = data.getD (i - distance + k) 0) :
    copyBytes distance n (data.extract 0 i) = data.extract 0 (i + n) := by
  induction n generalizing i with
  | zero => rfl
  | succ n ih =>
    have hfirst : data.getD (i - distance) 0 = data.getD i 0 := (h 0 (Nat.zero_lt_succ n)).symm
    have hrest : ∀ k < n, data.getD (i + 1 + k) 0 = data.getD (i + 1 - distance + k) 0 := by
      intro k hk
      have hk := h (k + 1) (Nat.succ_lt_succ hk)
      rwa [Nat.add_comm k 1, ← Nat.add_assoc, ← Nat.add_assoc, ← Nat.sub_add_comm hd] at hk
    rw [copyBytes, earlier_extract (by omega) hpos hd, hfirst, push_extract (by omega), ih (by omega) (by omega) hrest,
      Nat.add_right_comm, Nat.add_assoc]

theorem replayAll_concat (out : Array UInt8) (ts : List Token) (t : Token) :
    Token.replayAll out (ts ++ [t]) = t.replay (Token.replayAll out ts) := by
  simp [Token.replayAll]

/-- The tokens so far stand for the data before `i`; so do in the end all of them for all data. -/
theorem replayAll_tokensOnto {data : Array UInt8} {fuel i : Nat} (f : Finder) {acc : List Token}
    (hfuel : data.size ≤ i + fuel) (hi : i ≤ data.size)
    (hacc : Token.replayAll #[] acc.reverse = data.extract 0 i) :
    Token.replayAll #[] (tokensOnto data fuel f i acc).reverse = data := by
  induction fuel generalizing f i acc with
  | zero =>
    obtain rfl : i = data.size := Nat.le_antisymm hi hfuel
    rw [tokensOnto, hacc, Array.extract_size]
  | succ fuel ih =>
    by_cases hlt : i < data.size
    · simp only [tokensOnto, if_pos hlt]
      split
      · rename_i hc
        have hm := matches_copyAt f data i
        have hpos := Copy.pos_of_isWorthwhile (Bool.and_eq_true_iff.1 hc).1
        have hroom := hm.room
        apply ih _ (by omega) (by omega)
        rw [List.reverse_cons, replayAll_concat, hacc, Token.replay]
        exact copyBytes_extract (hm.back hpos) hm.within (by omega) hm.agree
      · apply ih _ (by omega) hlt
        rw [List.reverse_cons, replayAll_concat, hacc, Token.replay]
        exact (Array.extract_succ_right (Nat.zero_lt_succ i) hlt).symm
    · obtain rfl : i = data.size := Nat.le_antisymm hi (Nat.le_of_not_lt hlt)
      rw [tokensOnto, if_neg hlt, hacc, Array.extract_size]

theorem replayAll_tokens (data : Array UInt8) : Token.replayAll #[] (tokens data) = data := by
  apply replayAll_tokensOnto <;> simp [Token.replayAll]

end ContractWatch.Deflate
