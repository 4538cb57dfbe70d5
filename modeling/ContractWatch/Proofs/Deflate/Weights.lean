import ContractWatch.Deflate.Weights

/-!
What is known of the lengths that the weights of symbols lead to: there is one for every weight, and none is above
the limit.
-/

namespace ContractWatch.Deflate

@[simp] theorem lengthsOf_length (weights : List Nat) : (lengthsOf weights).length = weights.length := by
  simp [lengthsOf]

@[simp] theorem limitedLengths_length (limit tries : Nat) (weights : List Nat) :
    (limitedLengths limit tries weights).length = weights.length := by
  induction tries generalizing weights with
  | zero =>
    simp only [limitedLengths]
    split <;> simp
  | succ tries ih =>
    simp only [limitedLengths]
    split <;> simp [ih]

theorem le_of_mem_limitedLengths {limit tries : Nat} {weights : List Nat} {l : Nat}
    (h : l ∈ limitedLengths limit tries weights) : l ≤ limit := by
  induction tries generalizing weights with
  | zero =>
    simp only [limitedLengths] at h
    split at h
    · rename_i hall
      simpa using List.all_eq_true.1 hall l h
    · obtain ⟨_, _, rfl⟩ := List.mem_map.1 h
      exact Nat.zero_le _
  | succ tries ih =>
    simp only [limitedLengths] at h
    split at h
    · rename_i hall
      simpa using List.all_eq_true.1 hall l h
    · exact ih h

@[simp] theorem atLeastTwo_length (weights : List Nat) : (atLeastTwo weights).length = weights.length := by
  unfold atLeastTwo
  split
  · split <;> simp
  · rfl

@[simp] theorem count_length (size : Nat) (symbols : List Nat) : (count size symbols).length = size := by
  have h (a : Array Nat) : (symbols.foldl (fun a s => a.modify s (· + 1)) a).size = a.size := by
    induction symbols generalizing a with
    | nil => rfl
    | cons s symbols ih => simp [ih]
  simp [count, h]

end ContractWatch.Deflate
