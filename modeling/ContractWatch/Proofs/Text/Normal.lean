import ContractWatch.Proofs.Text.Hex

/-!
Normal forms of normal forms. Blanks are trimmed before the mark is taken off, and one mark is taken off only: what is
left may begin with a blank or with another mark, and then a second normal form is shorter than the first.
-/

namespace ContractWatch

/-! ### Letter case -/

/-- A capital moves 32 places on, and nothing else moves. -/
theorem toLower_cases (c : Char) :
    ¬ (65 ≤ c.toNat ∧ c.toNat ≤ 90) ∧ c.toLower = c ∨
      (65 ≤ c.toNat ∧ c.toNat ≤ 90) ∧ c.toLower.toNat = c.toNat + 32 := by
  unfold Char.toLower
  split
  · rename_i h
    obtain ⟨hl, hh⟩ := h
    have hl : 65 ≤ c.toNat := hl
    have hh : c.toNat ≤ 90 := hh
    refine .inr ⟨⟨hl, hh⟩, ?_⟩
    change (c.val + 32).toNat = c.toNat + 32
    rw [UInt32.toNat_add]
    exact Nat.mod_eq_of_lt (by change c.toNat + 32 < _; omega)
  · exact .inl ⟨‹_›, rfl⟩

theorem toLower_toLower (c : Char) : c.toLower.toLower = c.toLower := by
  obtain ⟨-, h⟩ | ⟨h, hc⟩ := toLower_cases c
  · rw [h, h]
  · obtain ⟨-, h'⟩ | ⟨h', -⟩ := toLower_cases c.toLower
    · exact h'
    · omega

theorem toLower_not_capital (c : Char) : ¬ (65 ≤ c.toLower.toNat ∧ c.toLower.toNat ≤ 90) := by
  obtain ⟨h, -⟩ | ⟨h, hc⟩ := toLower_cases c.toLower
  · exact h
  · rw [toLower_toLower] at hc
    omega

theorem toLower_eq_zero_iff (c : Char) : c.toLower = '0' ↔ c = '0' := by
  constructor
  · intro h
    obtain ⟨-, h'⟩ | ⟨hrange, hc⟩ := toLower_cases c
    · exact h'.symm.trans h
    · rw [h] at hc
      change 48 = _ at hc
      omega
  · rintro rfl
    rfl

theorem toLower_eq_x_iff (c : Char) : c.toLower = 'x' ↔ c = 'x' ∨ c = 'X' := by
  constructor
  · intro h
    obtain ⟨-, h'⟩ | ⟨-, hc⟩ := toLower_cases c
    · exact .inl (h'.symm.trans h)
    · rw [h] at hc
      change 120 = _ at hc
      exact .inr (Char.toNat_inj.1 (by change _ = 88; omega))
  · rintro (rfl | rfl) <;> rfl

namespace Text

theorem isBlank_toLower (c : Char) : isBlank c.toLower = isBlank c := by
  obtain ⟨-, h⟩ | ⟨h, hc⟩ := toLower_cases c
  · rw [h]
  · rw [Bool.eq_iff_iff]
    simp only [isBlank, blankRanges, List.any_cons, List.any_nil, Bool.or_false, Bool.or_eq_true, Bool.and_eq_true,
      decide_eq_true_eq, hc]
    omega

/-! ### Trimmed texts -/

theorem trim_infix (cs : List Char) : trim cs <:+: cs := by
  have hright : trim cs <+: trimLeft cs := by
    rw [trim, trimRight, ← List.reverse_suffix, List.reverse_reverse]
    exact List.dropWhile_suffix _
  exact hright.isInfix.trans (List.dropWhile_suffix _).isInfix

theorem head_trimLeft {cs : List Char} {c : Char} (h : (trimLeft cs).head? = some c) : isBlank c = false := by
  have hne := List.head?_dropWhile_not isBlank cs
  rw [trimLeft] at h
  simpa [h] using hne

theorem getLast_trim {cs : List Char} {c : Char} (h : (trim cs).getLast? = some c) : isBlank c = false := by
  rw [trim, trimRight, List.getLast?_reverse] at h
  exact head_trimLeft h

theorem trim_eq_self_iff (cs : List Char) :
    trim cs = cs ↔ (∀ c, cs.head? = some c → isBlank c = false) ∧ ∀ c, cs.getLast? = some c → isBlank c = false := by
  constructor
  · intro h
    refine ⟨fun c hc => ?_, fun c hc => getLast_trim (h.symm ▸ hc)⟩
    -- What begins a text that nothing is trimmed from also begins it trimmed on the left alone.
    have hleft : trimLeft cs = cs := by
      refine (List.dropWhile_suffix _).eq_of_length (Nat.le_antisymm (List.dropWhile_suffix _).length_le ?_)
      have hright : (trim cs).length ≤ (trimLeft cs).length := by
        rw [trim, trimRight, List.length_reverse, ← (trimLeft cs).length_reverse]
        exact (List.dropWhile_suffix _).length_le
      rwa [h] at hright
    exact head_trimLeft (hleft.symm ▸ hc)
  · rintro ⟨hhead, hlast⟩
    rw [trim, trimLeft_of_head hhead, trimRight_of_getLast hlast]

end Text

namespace Hex

/-- No blanks around the text, and no mark in front of it. -/
structure IsBare (cs : List Char) : Prop where
  head : ∀ c, cs.head? = some c → Text.isBlank c = false
  last : ∀ c, cs.getLast? = some c → Text.isBlank c = false
  mark : ¬ ['0', 'x'] <+: cs ∧ ¬ ['0', 'X'] <+: cs

/-! ### Marks -/

theorem strip_suffix (cs : List Char) : strip cs <:+ cs := by
  unfold strip
  split
  · exact List.suffix_append ['0', 'x'] _
  · exact List.suffix_append ['0', 'X'] _
  · exact List.suffix_refl _

theorem strip_eq_self_iff (cs : List Char) : strip cs = cs ↔ ¬ ['0', 'x'] <+: cs ∧ ¬ ['0', 'X'] <+: cs := by
  constructor
  · intro h
    constructor
    all_goals
      rintro ⟨r, rfl⟩
      have hlen : r.length = r.length + 2 := congrArg List.length h
      omega
  · rintro ⟨hlower, hupper⟩
    unfold strip
    split
    · exact absurd (List.prefix_append ['0', 'x'] _) hlower
    · exact absurd (List.prefix_append ['0', 'X'] _) hupper
    · rfl

theorem isBare_iff (cs : List Char) : IsBare cs ↔ Text.trim cs = cs ∧ strip cs = cs := by
  rw [Text.trim_eq_self_iff, strip_eq_self_iff]
  exact ⟨fun h => ⟨⟨h.head, h.last⟩, h.mark⟩, fun h => ⟨h.1.1, h.1.2, h.2⟩⟩

/-- Letter case has no part in what is blank and what is a mark. -/
theorem isBare_map_toLower (cs : List Char) : IsBare (cs.map Char.toLower) ↔ IsBare cs := by
  have hends (o : Option Char) : (∀ c, o.map Char.toLower = some c → Text.isBlank c = false) ↔
      ∀ c, o = some c → Text.isBlank c = false := by
    cases o <;> simp [Text.isBlank_toLower]
  have hmark : (¬ ['0', 'x'] <+: cs.map Char.toLower ∧ ¬ ['0', 'X'] <+: cs.map Char.toLower) ↔
      ¬ ['0', 'x'] <+: cs ∧ ¬ ['0', 'X'] <+: cs := by
    have hX (c : Char) : c.toLower ≠ 'X' := fun h => by
      have h' := congrArg Char.toLower h
      rw [toLower_toLower, h] at h'
      exact absurd h' (by decide)
    match cs with
    | [] => simp
    | [c] => simp
    | c :: d :: r =>
      simp only [List.map_cons, List.cons_prefix_cons, List.nil_prefix, and_true, @eq_comm _ '0', @eq_comm _ 'x',
        @eq_comm _ 'X', toLower_eq_zero_iff, toLower_eq_x_iff, hX, and_false, not_false_eq_true, ← not_or, and_or_left]
  constructor
  · intro h
    exact ⟨(hends _).1 (List.head?_map ▸ h.head), (hends _).1 (List.getLast?_map ▸ h.last), hmark.1 h.mark⟩
  · intro h
    exact ⟨List.head?_map ▸ (hends _).2 h.head, List.getLast?_map ▸ (hends _).2 h.last, hmark.2 h.mark⟩

/-! ### Normal forms -/

/-- What is left of a text without the blanks around it and without one mark. -/
def body (cs : List Char) : List Char := strip (Text.trim cs)

theorem normal_eq (cs : List Char) : normal cs = (body cs).map Char.toLower := rfl

theorem length_normal_le (cs : List Char) : (normal cs).length ≤ cs.length := by
  rw [normal_eq, List.length_map]
  exact Nat.le_trans (strip_suffix _).length_le (Text.trim_infix cs).length_le

theorem isBare_of_length_normal {cs : List Char} (h : (normal cs).length = cs.length) : IsBare cs := by
  rw [normal_eq, List.length_map, body] at h
  have hstrip := (strip_suffix (Text.trim cs)).length_le
  have htrim := (Text.trim_infix cs).length_le
  have heq : Text.trim cs = cs := (Text.trim_infix cs).eq_of_length (by omega)
  exact (isBare_iff cs).2 ⟨heq, (strip_suffix cs).eq_of_length (by rw [heq] at h; exact h)⟩

theorem isBare_normal_iff (cs : List Char) : IsBare (normal cs) ↔ IsBare (body cs) := isBare_map_toLower _

/-- A normal form that is bare is its own normal form, and no other is. -/
theorem normal_normal_iff (cs : List Char) : normal (normal cs) = normal cs ↔ IsBare (body cs) := by
  rw [← isBare_normal_iff]
  constructor
  · intro h
    exact isBare_of_length_normal (congrArg List.length h)
  · intro h
    obtain ⟨htrim, hstrip⟩ := (isBare_iff _).1 h
    rw [normal_eq (normal cs), body, htrim, hstrip, normal_eq, List.map_map]
    exact List.map_congr_left fun c _ => toLower_toLower c

end Hex

end ContractWatch
