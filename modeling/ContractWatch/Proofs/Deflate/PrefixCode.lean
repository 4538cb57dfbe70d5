import ContractWatch.Deflate.Encoder
import ContractWatch.Proofs.Deflate.Bits

/-!
Code words read back. A tree reads each of its words as the symbol of that word, so that all a writer has to do
is to take its words from the tree that the reader will build.
-/

namespace ContractWatch.Deflate

theorem mapM_cons_eq_some {α β : Type} {f : α → Option β} {x : α} {xs : List α} {zs : List β}
    (h : (x :: xs).mapM f = some zs) : ∃ y, f x = some y ∧ ∃ ys, xs.mapM f = some ys ∧ zs = y :: ys := by
  rw [List.mapM_cons] at h
  obtain ⟨y, hy, h⟩ := Option.bind_eq_some_iff.1 h
  obtain ⟨ys, hys, h⟩ := Option.bind_eq_some_iff.1 h
  exact ⟨y, hy, ys, hys, (Option.some.inj h).symm⟩

namespace Tree

theorem reads_word {t : Tree} {s : Nat} {w : List Bool} (h : (s, w) ∈ t.words) : Reads t.read w s := by
  induction t generalizing w with
  | leaf s' =>
    obtain ⟨rfl, rfl⟩ : s = s' ∧ w = [] := by simpa [words] using h
    exact fun r _ => rfl
  | gap => simp [words] at h
  | node a b iha ihb =>
    simp only [words, List.mem_append, List.mem_map, Prod.mk.injEq] at h
    intro r hr
    obtain ⟨⟨_, v⟩, hv, rfl, rfl⟩ | ⟨⟨_, v⟩, hv, rfl, rfl⟩ := h
    all_goals
      obtain ⟨hb, hw⟩ := Reader.split_head (List.singleton_append ▸ hr)
      simp only [read, reads_bit _ r hb]
    · rw [iha hv _ hw, ← Reader.skip_add, List.length_cons, Nat.add_comm]
      rfl
    · rw [ihb hv _ hw, ← Reader.skip_add, List.length_cons, Nat.add_comm]
      rfl

theorem mem_words_of_word? {t : Tree} {s : Nat} {w : List Bool} (h : t.book.word? s = some w) : (s, w) ∈ t.words := by
  simp only [book, Book.word?, List.getElem?_toArray, List.getElem?_map] at h
  cases hs : (List.range bookSize)[s]? with
  | none => simp [hs] at h
  | some s' =>
    obtain rfl : s = s' := by simpa using (List.getElem?_eq_some_iff.1 hs).2
    have hlookup : t.words.lookup s = some w := by simpa [hs] using h
    obtain ⟨_, _, hwords, -⟩ := List.lookup_eq_some_iff.1 hlookup
    rw [hwords]
    exact List.mem_append_right _ List.mem_cons_self

theorem reads_word? {t : Tree} {s : Nat} {w : List Bool} (h : t.book.word? s = some w) : Reads t.read w s :=
  reads_word (mem_words_of_word? h)

/-- Words below a fork have a bit at least. -/
def IsFork : Tree → Prop
  | .node _ _ => True
  | _ => False

theorem IsFork.ne_nil {t : Tree} (ht : t.IsFork) {s : Nat} {w : List Bool} (h : t.book.word? s = some w) :
    w ≠ [] := by
  have hm := mem_words_of_word? h
  cases t with
  | leaf _ => exact ht.elim
  | gap => exact ht.elim
  | node a b =>
    rintro rfl
    simp [words] at hm

theorem isFork_grow {room depth length s : Nat} {ws : List (Nat × Nat)} (h : length ≠ depth) :
    (grow (room + 1) depth ((length, s) :: ws)).1.IsFork := by
  simp [grow, h, IsFork]

end Tree

theorem pos_of_mem_ordered {ls : List Nat} {p : Nat × Nat} (h : p ∈ ordered ls) : p.1 ≠ 0 := by
  simp only [ordered, List.mem_flatMap, List.mem_filter, decide_eq_true_eq] at h
  obtain ⟨l, -, -, hp⟩ := h
  omega

theorem isFork_of_codeTree? {c : Coverage} {ls : List Nat} {t : Tree} (h : codeTree? c ls = some t) : t.IsFork := by
  unfold codeTree? at h
  match ho : ordered ls with
  | [] =>
    simp only [ho, Option.ite_none_right_eq_some, Option.some.injEq] at h
    rw [← h.2]
    trivial
  | (length, s) :: ws =>
    have hm : (length, s) ∈ ordered ls := by
      rw [ho]
      exact List.mem_cons_self
    have hf : (Tree.grow maxLength 0 ((length, s) :: ws)).1.IsFork := Tree.isFork_grow (pos_of_mem_ordered hm)
    simp only [ho] at h
    split at h
    · contradiction
    · rename_i hg _
      rw [hg] at hf
      obtain ⟨-, ht⟩ := Option.ite_none_right_eq_some.1 h
      exact Option.some.inj ht ▸ hf
    · contradiction

end ContractWatch.Deflate
