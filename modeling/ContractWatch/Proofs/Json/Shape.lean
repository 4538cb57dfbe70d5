import ContractWatch.Json.Shape
import ContractWatch.Proofs.Json.Values

/-!
Values of a shape read back.
-/

namespace ContractWatch.Json

theorem asNat_nat {n : Nat} (h : n < 0x10000000000000000) : (nat n).asNat? = some n := by
  have hn : 0 ≤ (n : Int) ∧ (n : Int) < 0x10000000000000000 := by omega
  rw [nat, asNat?, if_pos hn, Int.toNat_natCast]

theorem lt_of_asNat? {v : Json} {n : Nat} (h : v.asNat? = some n) : n < 0x10000000000000000 := by
  cases v with
  | int k =>
    rw [asNat?] at h
    split at h
    · cases h
      omega
    · contradiction
  | _ => contradiction

theorem isPlain_nat {n : Nat} (h : n < 0x10000000000000000) : (nat n).IsPlain := by
  have hn : -0x8000000000000000 ≤ (n : Int) ∧ (n : Int) < 0x10000000000000000 := by omega
  exact hn

theorem isPlain_texts (ss : List String) : (texts ss).IsPlain := by
  refine isPlain_list.2 fun v hv => ?_
  obtain ⟨s, -, rfl⟩ := List.mem_map.1 hv
  exact trivial

theorem asList_map {α : Type} {f : α → Json} {g : Json → Option α} {xs : List α}
    (h : ∀ x ∈ xs, g (f x) = some x) :
    (list (xs.map f)).asList? g = some xs := by
  simp only [asList?]
  induction xs with
  | nil => rfl
  | cons x xs ih =>
    rw [List.map_cons, List.mapM_cons, h x List.mem_cons_self, ih fun y hy => h y (List.mem_cons_of_mem _ hy)]
    rfl

theorem asText_eq_some_iff (v : Json) (s : String) : v.asText? = some s ↔ v = .text s := by
  cases v <;> simp [asText?]

/-- Where writing one item undoes reading it, writing all items undoes reading all. -/
theorem mapM_eq_some_iff {α β : Type} {f : α → Option β} {g : β → α} (h : ∀ a b, f a = some b ↔ a = g b) {xs : List α}
    {ys : List β} : xs.mapM f = some ys ↔ xs = ys.map g := by
  induction xs generalizing ys with
  | nil => cases ys <;> simp
  | cons x xs ih =>
    simp only [List.mapM_cons, bind, Option.bind_eq_some_iff, pure, Option.some.injEq, h, ih]
    cases ys with
    | nil => simp
    | cons y ys => simp

/-- A list is read as itself if every item is. -/
theorem mapM_eq_self_iff {α : Type} {f : α → Option α} {xs : List α} :
    xs.mapM f = some xs ↔ ∀ x ∈ xs, f x = some x := by
  induction xs with
  | nil => simp
  | cons x xs ih =>
    simp only [List.mapM_cons, bind, Option.bind_eq_some_iff, pure, Option.some.injEq, List.forall_mem_cons, ← ih]
    constructor
    · rintro ⟨y, hy, ys, hys, h⟩
      obtain ⟨rfl, rfl⟩ := List.cons.inj h
      exact ⟨hy, hys⟩
    · rintro ⟨hx, hxs⟩
      exact ⟨x, hx, xs, hxs, rfl⟩

theorem exists_of_mem_mapM {α β : Type} {f : α → Option β} {xs : List α} {ys : List β} (h : xs.mapM f = some ys)
    {y : β} (hy : y ∈ ys) : ∃ x ∈ xs, f x = some y := by
  induction xs generalizing ys with
  | nil =>
    cases h
    contradiction
  | cons x xs ih =>
    simp only [List.mapM_cons, bind, Option.bind_eq_some_iff, pure, Option.some.injEq] at h
    obtain ⟨z, hz, zs, hzs, rfl⟩ := h
    rcases List.mem_cons.1 hy with rfl | hy
    · exact ⟨x, List.mem_cons_self, hz⟩
    · obtain ⟨x', hx', hxy⟩ := ih hzs hy
      exact ⟨x', List.mem_cons_of_mem _ hx', hxy⟩

theorem asList_asText_eq_some_iff (v : Json) (ss : List String) : v.asList? asText? = some ss ↔ v = .texts ss := by
  cases v with
  | list xs => simp [asList?, texts, mapM_eq_some_iff asText_eq_some_iff]
  | _ => simp [asList?, texts]

end ContractWatch.Json
