import Mathlib.Data.List.Induction
import Mathlib.Data.List.Nodup
import Mathlib.Data.List.Perm.Basic

/-!
Lists with each element kept where it first appears.
-/

namespace ContractWatch

/-- `a` is in the list and no `b` is before it. -/
def Precedes {α : Type} (xs : List α) (a b : α) : Prop := a ≠ b ∧ ∃ l r, xs = l ++ a :: r ∧ b ∉ l

theorem eraseDups_concat {α : Type} [BEq α] [LawfulBEq α] (xs : List α) (x : α) :
    (xs ++ [x]).eraseDups = if x ∈ xs then xs.eraseDups else xs.eraseDups ++ [x] := by
  rw [List.eraseDups_append]
  by_cases h : x ∈ xs <;> simp [List.removeAll, h, List.eraseDups_cons]

theorem eraseDups_map {α β : Type} [BEq α] [LawfulBEq α] [BEq β] [LawfulBEq β] {f : α → β}
    (hf : ∀ a b, f a = f b → a = b) (xs : List α) : (xs.map f).eraseDups = xs.eraseDups.map f := by
  induction xs using List.reverseRecOn with
  | nil => rfl
  | append_singleton xs x ih =>
    have hmem : f x ∈ xs.map f ↔ x ∈ xs := by
      rw [List.mem_map]
      exact ⟨fun ⟨a, ha, he⟩ => hf a x he ▸ ha, fun hx => ⟨x, hx, rfl⟩⟩
    rw [List.map_append, List.map_singleton, eraseDups_concat, eraseDups_concat, ih]
    by_cases hx : x ∈ xs <;> simp [hmem, hx]

theorem eraseDups_mono {α : Type} [BEq α] [LawfulBEq α] {xs ys : List α} (h : xs <+: ys) :
    xs.eraseDups <+: ys.eraseDups := by
  obtain ⟨zs, rfl⟩ := h
  rw [List.eraseDups_append]
  exact List.prefix_append _ _

theorem eraseDups_pairwise_precedes {α : Type} [BEq α] [LawfulBEq α] (xs : List α) :
    xs.eraseDups.Pairwise (Precedes xs) := by
  induction xs using List.reverseRecOn with
  | nil => exact .nil
  | append_singleton xs x ih =>
    have grow : xs.eraseDups.Pairwise (Precedes (xs ++ [x])) := by
      refine ih.imp ?_
      rintro a b ⟨hne, l, r, rfl, hb⟩
      exact ⟨hne, l, r ++ [x], by simp, hb⟩
    rw [eraseDups_concat]
    split
    · exact grow
    · rename_i hx
      refine List.pairwise_append.2 ⟨grow, List.pairwise_singleton _ _, fun a ha b hb => ?_⟩
      rw [List.mem_singleton] at hb
      subst hb
      rw [List.mem_eraseDups] at ha
      obtain ⟨l, r, rfl⟩ := List.append_of_mem ha
      simp only [List.mem_append, List.mem_cons, not_or] at hx
      exact ⟨Ne.symm hx.2.1, l, r ++ [b], by simp, hx.1⟩

theorem nodup_eraseDups {α : Type} [BEq α] [LawfulBEq α] (xs : List α) : xs.eraseDups.Nodup :=
  (eraseDups_pairwise_precedes xs).imp fun h => h.1

theorem perm_eraseDups {α : Type} [BEq α] [LawfulBEq α] {xs ys : List α} (h : xs.Perm ys) :
    xs.eraseDups.Perm ys.eraseDups := by
  refine (List.perm_ext_iff_of_nodup (nodup_eraseDups xs) (nodup_eraseDups ys)).2 fun a => ?_
  rw [List.mem_eraseDups, List.mem_eraseDups, h.mem_iff]

end ContractWatch
