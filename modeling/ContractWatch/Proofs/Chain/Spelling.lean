import ContractWatch.Proofs.Chain.Address
import ContractWatch.Proofs.Text.Pairs

/-!
Which texts spell an address: forty digits of either case with any blanks among them, behind a mark or two. They spell the
address whose digits they are.
-/

namespace ContractWatch

theorem Octets.ofBytes?_eq_some_iff {n : Nat} (bs : List UInt8) (a : Octets n) :
    Octets.ofBytes? bs = some a ↔ bs = a.bytes := by
  obtain ⟨as, hlen⟩ := a
  unfold Octets.ofBytes?
  split
  · simp
  · rename_i hne
    constructor
    · intro h
      contradiction
    · rintro rfl
      exact absurd hlen hne

namespace Address

open Hex (digit? isBlank IsClean values strip)

/-! ### Marks -/

theorem strip_eq (cs : List Char) :
    strip cs = if ['0', 'x'] <+: cs ∨ ['0', 'X'] <+: cs then cs.drop 2 else cs := by
  split
  · rename_i h
    obtain ⟨r, rfl⟩ | ⟨r, rfl⟩ := h <;> rfl
  · rename_i h
    exact (Hex.strip_eq_self_iff cs).2 (not_or.1 h)

theorem unmarked_eq (s : String) :
    unmarked s = if ['0', 'x'] <+: strip s.toList then (strip s.toList).drop 2 else strip s.toList := by
  unfold unmarked
  split
  · rename_i cs h
    rw [h]
    exact (if_pos (List.prefix_append ['0', 'x'] cs)).symm
  · rename_i h
    rw [if_neg]
    rintro ⟨cs, hcs⟩
    exact h cs hcs.symm

/-- Digits bear no mark, so that one in front of them is all that is taken off. -/
theorem unmarked_append {cs : List Char} (hcs : ∀ c ∈ cs, (digit? c).isSome = true) {mark : String}
    (hmark : mark ∈ ["", "0x", "0X"]) : unmarked (mark ++ String.ofList cs) = cs := by
  have hx : ∀ c ∈ cs, c ≠ 'x' ∧ c ≠ 'X' := by
    intro c hc
    constructor <;> rintro rfl <;> exact absurd (hcs _ hc) (by decide)
  have hplain : strip cs = cs := Hex.strip_of_not_mark hx
  have hstrip : strip (mark ++ String.ofList cs).toList = cs := by
    rw [String.toList_append, String.toList_ofList]
    simp only [List.mem_cons, List.not_mem_nil, or_false] at hmark
    obtain rfl | rfl | rfl := hmark
    · exact hplain
    · rfl
    · rfl
  rw [unmarked_eq, hstrip, if_neg ((Hex.strip_eq_self_iff cs).1 hplain).1]

/-! ### Texts of addresses -/

theorem ofText?_eq_some_iff (s : String) (a : Address) :
    ofText? s = some a ↔ IsClean (unmarked s) ∧ values (unmarked s) = a.bytes.flatMap Octets.halves := by
  rw [ofText?, Option.bind_eq_some_iff]
  simp only [Octets.ofBytes?_eq_some_iff, exists_eq_right, Hex.pairs?_eq_some_iff, a.length_eq, true_and]

theorem exists_ofText?_iff (s : String) :
    (∃ a, ofText? s = some a) ↔ IsClean (unmarked s) ∧ (values (unmarked s)).length = 40 := by
  simp only [ofText?_eq_some_iff]
  constructor
  · rintro ⟨a, hclean, hvalues⟩
    exact ⟨hclean, by rw [hvalues, Hex.length_halves, a.length_eq]⟩
  · rintro ⟨hclean, hlen⟩
    obtain ⟨bs, hbs, hvalues⟩ := Hex.exists_halves (n := 20) hlen fun _ => Hex.lt_of_mem_values
    exact ⟨⟨bs, hbs⟩, hclean, hvalues.symm⟩

theorem ofText?_of_toLower {a : Address} {cs : List Char} (h : cs.map Char.toLower = Hex.encode a.bytes) {mark : String}
    (hmark : mark ∈ ["", "0x", "0X"]) : ofText? (mark ++ String.ofList cs) = some a := by
  have hdigits : ∀ c ∈ cs, (digit? c).isSome = true := by
    intro c hc
    rw [← Hex.digit?_toLower]
    exact Hex.digit?_of_mem_encode (h ▸ List.mem_map.2 ⟨c, hc, rfl⟩)
  rw [ofText?_eq_some_iff, unmarked_append hdigits hmark, ← Hex.map_toLower_digits_eq_encode_iff,
    List.filter_eq_self.2 hdigits]
  exact ⟨fun c hc => .inr (hdigits c hc), h⟩

theorem toLower_spellings (a : Address) :
    (Hex.encode a.bytes).map Char.toLower = Hex.encode a.bytes ∧
      ((Hex.encode a.bytes).map Char.toUpper).map Char.toLower = Hex.encode a.bytes ∧
      a.checksum.map Char.toLower = Hex.encode a.bytes := by
  refine ⟨?_, ?_, toLower_checksum a⟩
  · exact (List.map_congr_left fun c hc => (Hex.lower_of_mem_encode hc).1).trans (List.map_id' _)
  · rw [List.map_map]
    exact (List.map_congr_left fun c hc => (Hex.lower_of_mem_encode hc).2).trans (List.map_id' _)

/-- Behind the marks a text has to consist of forty digits and of blanks to spell an address, and then it spells the one
whose digits these are, whatever their case; every other text spells none. So an address is read from its digits in any
case, among them the one that is a checksum, with no mark or with either. -/
theorem spelled_exactly :
    (∀ s : String,
      let rest := if ['0', 'x'] <+: s.toList ∨ ['0', 'X'] <+: s.toList then s.toList.drop 2 else s.toList
      let t := if ['0', 'x'] <+: rest then rest.drop 2 else rest
      let digits := t.filter fun c => c ∈ "0123456789abcdefABCDEF".toList
      let isText := (∀ c ∈ t, c ∈ digits ∨ c ∈ [' ', '\r', '\n', '\t']) ∧ digits.length = 40
      (∀ a, ofText? s = some a ↔ isText ∧ digits.map Char.toLower = Hex.encode a.bytes) ∧
        ((ofText? s).isSome ↔ isText)) ∧
    ∀ (a : Address) (mark : String), mark ∈ ["", "0x", "0X"] →
      (∀ cs : List Char, cs.map Char.toLower = Hex.encode a.bytes →
        ofText? (mark ++ String.ofList cs) = some a) ∧
      ofText? (mark ++ String.ofList (Hex.encode a.bytes)) = some a ∧
      ofText? (mark ++ String.ofList ((Hex.encode a.bytes).map Char.toUpper)) = some a ∧
      ofText? (mark ++ String.ofList a.checksum) = some a := by
  refine ⟨fun s => ?_, fun a mark hmark => ?_⟩
  · intro rest t digits isText
    have ht : unmarked s = t := by rw [unmarked_eq, strip_eq]
    have hdigits : digits = t.filter fun c => (digit? c).isSome :=
      List.filter_congr fun c _ => by rw [Bool.eq_iff_iff, decide_eq_true_iff, Hex.digit?_isSome_iff]
    have hclean : (∀ c ∈ t, c ∈ digits ∨ c ∈ [' ', '\r', '\n', '\t']) ↔ IsClean t := by
      rw [hdigits]
      refine forall₂_congr fun c hc => ?_
      simp [isBlank, hc, or_comm, or_left_comm, or_assoc]
    have hisText : isText ↔ IsClean t ∧ (values t).length = 40 := by
      rw [← Hex.length_digits, ← hdigits, ← hclean]
    rw [Option.isSome_iff_exists, exists_ofText?_iff, ht]
    refine ⟨fun a => ?_, hisText.symm⟩
    rw [hisText, ofText?_eq_some_iff, ht, hdigits, Hex.map_toLower_digits_eq_encode_iff, and_assoc,
      and_congr_right_iff]
    intro _
    refine ⟨fun h => ⟨?_, h⟩, And.right⟩
    rw [h, Hex.length_halves, a.length_eq]
  · obtain ⟨hlower, hupper, hchecksum⟩ := toLower_spellings a
    exact ⟨fun cs hcs => ofText?_of_toLower hcs hmark, ofText?_of_toLower hlower hmark,
      ofText?_of_toLower hupper hmark, ofText?_of_toLower hchecksum hmark⟩

/-- Two marks, a blank inside a pair and others behind the last one, then the same address in mixed case. -/
theorem spelled_exactly_mixed :
    let a : Address := ⟨List.replicate 19 0 ++ [0xad], rfl⟩
    ofText? "0X0x00000000000000000000 000000000000000000a D\t" = some a ∧
      ofText? ("0X" ++ String.ofList "00000000000000000000000000000000000000Ad".toList) = some a := by
  intro a
  obtain ⟨exact, anyCase⟩ := spelled_exactly
  refine ⟨((exact _).1 a).2 ?_, (anyCase a "0X" (by decide)).1 _ (by decide)⟩
  exact ⟨⟨List.all_iff_forall_prop.1 (by decide), by decide⟩, by decide⟩

end Address

end ContractWatch
