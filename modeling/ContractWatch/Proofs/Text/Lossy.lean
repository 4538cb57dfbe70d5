import ContractWatch.Proofs.Text.Utf8

/-!
Lenient reading, told without the reader. Where no character stands, the bytes are cut after the longest part with which
a character begins, or after one byte if there is none; a lenient reader shows each character as it is and U+FFFD once
for each such part.
-/

namespace ContractWatch.Utf8

/-- A character has these bytes, or these and more. -/
def Begins (p : List UInt8) : Prop := ∃ c, p <+: String.utf8EncodeChar c

/-- At the head of `p ++ rest` stands no character, and `p` is the longest part there with which one begins, or one byte
where there is none. -/
structure Broken (p rest : List UInt8) : Prop where
  no_char : ∀ c, ¬ String.utf8EncodeChar c <+: p ++ rest
  nonempty : p ≠ []
  begins_or_single : Begins p ∨ p.length = 1
  longest : ∀ q, q <+: p ++ rest → Begins q → q.length ≤ p.length

/-- Characters that stand for bytes, in order: each for its own bytes, or U+FFFD for a part that is none. -/
inductive Shown : List UInt8 → List Char → Prop
  | nil : Shown [] []
  | char {c bs cs} : Shown bs cs → Shown (String.utf8EncodeChar c ++ bs) (c :: cs)
  | part {p bs cs} : Broken p bs → Shown bs cs → Shown (p ++ bs) (replacement :: cs)

variable {p q bs rest : List UInt8} {cs : List Char}

theorem Broken.length_le (h : Broken p bs) (h' : Broken q rest) (he : p ++ bs = q ++ rest) : p.length ≤ q.length := by
  obtain hbegins | hone := h.begins_or_single
  · exact h'.longest p (he ▸ List.prefix_append p bs) hbegins
  · rw [hone]
    exact List.length_pos_iff.2 h'.nonempty

theorem Broken.unique (h : Broken p bs) (h' : Broken q rest) (he : p ++ bs = q ++ rest) : p = q ∧ bs = rest :=
  List.append_inj he (Nat.le_antisymm (h.length_le h' he) (h'.length_le h he.symm))

/-! ### Where the reader stops -/

/-- Whatever was read so far, there are bytes that complete it. -/
theorem exists_tail (low high : Nat) (hl : low ≤ high) (hh : high < 256) (more bits : Nat) :
    ∃ bs c, tail low high more bits bs = (some c, []) := by
  induction more generalizing low high bits with
  | zero => exact ⟨[], _, rfl⟩
  | succ more ih =>
    have hb : (UInt8.ofNat low).toNat = low := UInt8.toNat_ofNat_of_lt' (Nat.lt_of_le_of_lt hl hh)
    obtain ⟨bs, c, h⟩ := ih 0x80 0xbf (by decide) (by decide) (bits * 64 + low % 64)
    refine ⟨UInt8.ofNat low :: bs, c, ?_⟩
    rw [tail_cons (by omega) (by omega), hb, h]

/-- Where the reader stops, other bytes would have completed the character, and the byte that stands there would not
have gone on with it, whatever follows. -/
theorem tail_stops {low high : Nat} (hl : low ≤ high) (hh : high < 256) {more bits : Nat}
    (h : tail low high more bits bs = (none, rest)) :
    ∃ p, bs = p ++ rest ∧ (∃ qs c, tail low high more bits (p ++ qs) = (some c, [])) ∧
      ∀ b, rest.head? = some b → ∀ r, tail low high more bits (p ++ b :: r) = (none, b :: r) := by
  induction more generalizing low high bits bs with
  | zero => simp [tail] at h
  | succ more ih =>
    cases bs with
    | nil =>
      obtain rfl : [] = rest := congrArg Prod.snd h
      exact ⟨[], rfl, exists_tail low high hl hh _ _, by simp⟩
    | cons b bs =>
      by_cases hb : low ≤ b.toNat ∧ b.toNat ≤ high
      · rw [tail_cons hb.1 hb.2] at h
        obtain ⟨p, rfl, ⟨qs, c, hqs⟩, hstop⟩ := ih (by decide) (by decide) h
        refine ⟨b :: p, rfl, ⟨qs, c, ?_⟩, fun x hx r => ?_⟩
        · rw [List.cons_append, tail_cons hb.1 hb.2, hqs]
        · rw [List.cons_append, tail_cons hb.1 hb.2, hstop x hx r]
      · rw [tail, if_neg hb] at h
        obtain rfl : b :: bs = rest := congrArg Prod.snd h
        refine ⟨[], rfl, exists_tail low high hl hh _ _, fun x hx r => ?_⟩
        obtain rfl : b = x := Option.some.inj hx
        rw [List.nil_append, tail, if_neg hb]

theorem next_stops {b : UInt8} (h : next b bs = (none, rest)) :
    ∃ p, bs = p ++ rest ∧ (Begins (b :: p) ∨ (b :: p).length = 1) ∧
      ∀ x, rest.head? = some x → ∀ r, (next b (p ++ x :: r)).1 = none := by
  cases hlead : lead? b.toNat with
  | none =>
    obtain rfl : bs = rest := by simpa [next, hlead] using h
    exact ⟨[], rfl, .inr rfl, fun x _ r => by simp [next, hlead]⟩
  | some l =>
    obtain ⟨⟨hl, -, hh⟩, -⟩ := lead?_cases hlead
    have hnext (bs : List UInt8) : next b bs = tail l.low l.high l.more l.bits bs := by simp only [next, hlead]
    rw [hnext] at h
    obtain ⟨p, rfl, ⟨qs, c, hqs⟩, hstop⟩ := tail_stops hl (by omega) h
    have hc := encodeChar_of_next ((hnext _).trans hqs)
    rw [List.append_nil] at hc
    exact ⟨p, rfl, .inl ⟨c, qs, hc.symm⟩, fun x hx r => by rw [hnext, hstop x hx r]⟩

theorem not_prefix_of_next {b : UInt8} (h : (next b bs).1 = none) (c : Char) :
    ¬ String.utf8EncodeChar c <+: b :: bs := by
  rintro ⟨r, hr⟩
  obtain ⟨b', more, hc, hnext⟩ := next_encodeChar c r
  rw [hc, List.cons_append, List.cons.injEq] at hr
  obtain ⟨rfl, rfl⟩ := hr
  rw [hnext] at h
  contradiction

theorem broken_of_next {b : UInt8} (h : next b bs = (none, rest)) : ∃ p, bs = p ++ rest ∧ Broken (b :: p) rest := by
  obtain ⟨p, rfl, hbegins, hstop⟩ := next_stops h
  refine ⟨p, rfl, fun c => ?_, List.cons_ne_nil _ _, hbegins, fun q hq ⟨c, hc⟩ => Nat.le_of_not_lt fun hlt => ?_⟩
  · exact not_prefix_of_next (congrArg Prod.fst h) c
  · -- A longer part would go on with the byte at which the reader stopped.
    obtain ⟨s, rfl⟩ := List.prefix_of_prefix_length_le (List.prefix_append _ _) hq (Nat.le_of_lt hlt)
    cases s with
    | nil => simp at hlt
    | cons x s =>
      obtain ⟨t, rfl⟩ := (List.prefix_append_right_inj _).1 hq
      obtain ⟨r, hr⟩ := hc
      rw [List.append_assoc, List.cons_append, List.cons_append] at hr
      exact not_prefix_of_next (hstop x rfl (s ++ r)) c (hr ▸ List.prefix_rfl)

theorem next_of_broken (h : Broken p bs) : ∃ b more, p = b :: more ∧ next b (more ++ bs) = (none, bs) := by
  obtain ⟨b, more, rfl⟩ := List.exists_cons_of_ne_nil h.nonempty
  refine ⟨b, more, rfl, ?_⟩
  cases hnext : next b (more ++ bs) with
  | mk o rest =>
    cases o with
    | some c => exact absurd ⟨rest, encodeChar_of_next hnext⟩ (h.no_char c)
    | none =>
      obtain ⟨q, hq, hbroken⟩ := broken_of_next hnext
      rw [(h.unique hbroken (congrArg (b :: ·) hq)).2]

/-! ### What is shown -/

theorem lossy_nil : (lossy []).toList = [] := by
  rw [lossy, parts_nil, String.toList_ofList, List.map_nil]

theorem lossy_cons {b : UInt8} {o : Option Char} (h : next b bs = (o, rest)) :
    (lossy (b :: bs)).toList = o.getD replacement :: (lossy rest).toList := by
  rw [lossy, parts_cons, h, String.toList_ofList, List.map_cons, lossy, String.toList_ofList]

theorem shown_lossy (bs : List UInt8) : Shown bs (lossy bs).toList := by
  match bs with
  | [] =>
    rw [lossy_nil]
    exact .nil
  | b :: bs =>
    cases hnext : next b bs with
    | mk o rest =>
      have hlen : rest.length ≤ bs.length := by simpa [hnext] using next_length_le b bs
      have hrest := shown_lossy rest
      rw [lossy_cons hnext]
      cases o with
      | none =>
        obtain ⟨p, rfl, hp⟩ := broken_of_next hnext
        exact .part hp hrest
      | some c =>
        rw [← encodeChar_of_next hnext]
        exact .char hrest
termination_by bs.length
decreasing_by exact Nat.lt_succ_of_le hlen

theorem Shown.eq_lossy (h : Shown bs cs) : cs = (lossy bs).toList := by
  induction h with
  | nil => rw [lossy_nil]
  | @char c bs cs _ ih =>
    obtain ⟨b, more, hc, hnext⟩ := next_encodeChar c bs
    rw [hc, List.cons_append, lossy_cons hnext, ← ih, Option.getD_some]
  | part hp _ ih =>
    obtain ⟨b, more, rfl, hnext⟩ := next_of_broken hp
    rw [List.cons_append, lossy_cons hnext, ← ih, Option.getD_none]

/-- A lenient reader shows what stands for the bytes, and nothing else stands for them. -/
theorem shown_iff (bs : List UInt8) (cs : List Char) : Shown bs cs ↔ cs = (lossy bs).toList := by
  constructor
  · exact Shown.eq_lossy
  · rintro rfl
    exact shown_lossy bs

/-- A character that is cut short is one part; of a surrogate every byte is one. -/
example : lossy [0xf0, 0x9f, 0x92, 0x41, 0xed, 0xa0, 0x80] = "\ufffdA\ufffd\ufffd\ufffd" := by cbv

end ContractWatch.Utf8
