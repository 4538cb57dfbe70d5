import ContractWatch.Text.Split

/-!
The parts of a text.
-/

namespace ContractWatch.Text

variable {c : Char}

theorem splitOn_ne_nil (c : Char) (cs : List Char) : splitOn c cs ≠ [] := by
  cases cs with
  | nil => simp [splitOn]
  | cons d cs =>
    rw [splitOn]
    split
    · split <;> simp
    · simp

/-- The first part ends where the character first stands. -/
theorem splitOn_append {part : List Char} (h : c ∉ part) (cs : List Char) :
    splitOn c (part ++ c :: cs) = part :: splitOn c cs := by
  induction part with
  | nil =>
    obtain ⟨p, ps, hp⟩ := List.exists_cons_of_ne_nil (splitOn_ne_nil c cs)
    simp [splitOn, hp]
  | cons d part ih =>
    rw [List.mem_cons, not_or] at h
    rw [List.cons_append, splitOn, ih h.2]
    simp [Ne.symm h.1]

/-- So does the last part begin behind the last one. -/
theorem eq_of_append_cons {a b d e : List Char} (hd : c ∉ d) (he : c ∉ e) (h : a ++ c :: d = b ++ c :: e) : d = e := by
  have hlast (a d : List Char) (hd : c ∉ d) : (a ++ c :: d).reverse.takeWhile (· ≠ c) = d.reverse := by
    have hpos : ∀ x ∈ d.reverse, decide (x ≠ c) = true := fun x hx =>
      decide_eq_true fun hxc => hd (hxc ▸ List.mem_reverse.1 hx)
    rw [List.reverse_append, List.reverse_cons, List.append_assoc, List.takeWhile_append_of_pos hpos]
    simp
  rw [← List.reverse_inj, ← hlast a d hd, ← hlast b e he, h]

end ContractWatch.Text
