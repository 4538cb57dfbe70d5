import ContractWatch.Monitor.Seen

/-!
The laws of the flags, and hashes whose flags are up as a plain list.
-/

namespace ContractWatch.Seen

/-- The given hashes, the flag of each one up. -/
def ofHashes (hs : List TxHash) : Seen := ⟨hs.map fun h => (h, true)⟩

variable {s : Seen} {hs : List TxHash} {h : TxHash}

theorem enroll_eq : s.enroll h = if s.has h then (false, s) else (true, s.mark h) := by
  rw [enroll, has]
  match s.flags.lookup h with
  | some true => rfl
  | some false => rfl
  | none => rfl

theorem lookup_raise (h h' : TxHash) (fs : List (TxHash × Bool)) :
    (raise h fs).lookup h' = if h' = h then some true else fs.lookup h' := by
  induction fs with
  | nil => by_cases he : h' = h <;> simp [raise, he]
  | cons p fs ih =>
    obtain ⟨k, f⟩ := p
    rw [raise]
    by_cases hk : k = h
    · subst hk
      rw [if_pos rfl, List.lookup_cons, List.lookup_cons]
      by_cases he : h' = k
      · simp [he]
      · simp [he, beq_false_of_ne he]
    · rw [if_neg hk, List.lookup_cons, List.lookup_cons, ih]
      by_cases he : h' = k
      · simp [he, hk]
      · simp [beq_false_of_ne he]

theorem lookup_ofHashes : (ofHashes hs).flags.lookup h = if h ∈ hs then some true else none := by
  induction hs with
  | nil => rfl
  | cons h' hs ih =>
    simp only [ofHashes, List.map_cons, List.lookup_cons, List.mem_cons] at ih ⊢
    by_cases he : h = h'
    · simp [he]
    · simp [he, beq_false_of_ne he, ih]

theorem has_ofHashes : (ofHashes hs).has h = true ↔ h ∈ hs := by
  rw [has, lookup_ofHashes]
  split <;> simp_all

theorem mark_ofHashes (hn : h ∉ hs) : (ofHashes hs).mark h = ofHashes (hs ++ [h]) := by
  induction hs with
  | nil => rfl
  | cons h' hs ih =>
    rw [List.mem_cons, not_or] at hn
    simp only [ofHashes, mark, List.map_cons, List.cons_append, raise, Seen.mk.injEq, if_neg (Ne.symm hn.1)] at ih ⊢
    rw [ih hn.2]

/-- A flag that is up stays so. -/
theorem mark_ofHashes_of_mem (hm : h ∈ hs) : (ofHashes hs).mark h = ofHashes hs := by
  induction hs with
  | nil => contradiction
  | cons h' hs ih =>
    simp only [ofHashes, mark, List.map_cons, raise, Seen.mk.injEq] at ih ⊢
    by_cases he : h' = h
    · rw [if_pos he]
    · rw [if_neg he, ih (List.mem_of_ne_of_mem (Ne.symm he) hm)]

end ContractWatch.Seen
