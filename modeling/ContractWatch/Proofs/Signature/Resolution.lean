import ContractWatch.Signature.Resolution

/-!
Resolving as two independent selections: the constants without signature, and the signatures of the others. Each
constant is on one side only, as often as it was asked for.
-/

namespace ContractWatch.Signature.Table

/-- A constant with each of its signatures. -/
def expand (t : Table) (hex : String) : List Match := (t.lookup hex).map fun text => ⟨text, hex⟩

theorem resolve_eq (t : Table) (hexes : List String) :
    t.resolve hexes = ⟨hexes.flatMap t.expand, hexes.filter fun hex => (t.lookup hex).isEmpty⟩ := by
  induction hexes with
  | nil => rfl
  | cons hex rest ih =>
    cases h : t.lookup hex with
    | nil => simp [resolve, expand, h, ih]
    | cons text texts => simp [resolve, expand, h, ih]

theorem hex_of_mem_expand {t : Table} {hex : String} {x : Match} (h : x ∈ t.expand hex) :
    x.hex = hex ∧ t.lookup hex ≠ [] := by
  obtain ⟨text, htext, rfl⟩ := List.mem_map.1 h
  exact ⟨rfl, List.ne_nil_of_mem htext⟩

/-- The constants that are found are those with a signature. -/
theorem mem_hexes_iff {t : Table} {hexes : List String} {s : String} :
    s ∈ (hexes.flatMap t.expand).map (·.hex) ↔ s ∈ hexes ∧ t.lookup s ≠ [] := by
  simp only [List.mem_map, List.mem_flatMap]
  constructor
  · rintro ⟨x, ⟨hex, hh, hx⟩, rfl⟩
    obtain ⟨rfl, hne⟩ := hex_of_mem_expand hx
    exact ⟨hh, hne⟩
  · rintro ⟨hs, hne⟩
    obtain ⟨text, htext⟩ := List.exists_mem_of_ne_nil _ hne
    exact ⟨⟨text, s⟩, ⟨s, hs, List.mem_map_of_mem htext⟩, rfl⟩

/-- Constants without signature add nothing to what is found. -/
theorem flatMap_expand_filter (t : Table) (hexes : List String) :
    (hexes.filter fun hex => t.lookup hex ≠ []).flatMap t.expand = hexes.flatMap t.expand := by
  induction hexes with
  | nil => rfl
  | cons hex rest ih =>
    by_cases h : t.lookup hex = []
    · simpa [h, expand] using ih
    · simpa [h] using ih

theorem count_expand (t : Table) (hex s : String) :
    ((t.expand hex).map (·.hex)).count s = if hex = s then (t.lookup s).length else 0 := by
  have hhex : (t.expand hex).map (·.hex) = List.replicate (t.lookup hex).length hex := by
    rw [expand, List.map_map]
    exact List.map_const'
  rw [hhex, List.count_replicate]
  by_cases h : hex = s <;> simp [h]

/-- A constant is found as often as it was asked for, each time with all its signatures. -/
theorem count_found (t : Table) (hexes : List String) (s : String) :
    ((hexes.flatMap t.expand).map (·.hex)).count s = hexes.count s * (t.lookup s).length := by
  induction hexes with
  | nil => simp
  | cons hex rest ih =>
    rw [List.flatMap_cons, List.map_append, List.count_append, ih, count_expand, List.count_cons]
    by_cases h : hex = s
    · simp [h, Nat.add_mul, Nat.add_comm]
    · simp [h]

theorem count_unresolved (t : Table) (hexes : List String) (s : String) :
    (hexes.filter fun hex => (t.lookup hex).isEmpty).count s = if t.lookup s = [] then hexes.count s else 0 := by
  split
  · rename_i h
    exact List.count_filter (by simp [h])
  · rename_i h
    exact List.count_eq_zero.2 (by simp [h])

/-- Resolving puts the constants without signature on one side, in their order and as they are spelled, and those with
signatures on the other, once for each signature. So no constant is on both sides, each is counted on its side as often
as it was asked for, and lists of constants are resolved one behind the other as they would be alone. -/
theorem resolve_splits (t : Table) (hexes : List String) :
    (t.resolve hexes).unresolved = (hexes.filter fun hex => t.lookup hex = []) ∧
      (t.resolve hexes).found = ((hexes.filter fun hex => t.lookup hex ≠ []).flatMap fun hex =>
        (t.lookup hex).map fun text => ⟨text, hex⟩) ∧
      (∀ s ∈ (t.resolve hexes).unresolved, s ∉ (t.resolve hexes).found.map (·.hex)) ∧
      (∀ s, ((t.resolve hexes).found.map (·.hex)).count s = hexes.count s * (t.lookup s).length) ∧
      (∀ s, (t.resolve hexes).unresolved.count s = if t.lookup s = [] then hexes.count s else 0) ∧
      ∀ as bs, t.resolve (as ++ bs) = ⟨(t.resolve as).found ++ (t.resolve bs).found,
        (t.resolve as).unresolved ++ (t.resolve bs).unresolved⟩ := by
  simp only [resolve_eq]
  refine ⟨?_, (flatMap_expand_filter t hexes).symm, fun s hs hmem => ?_, count_found t hexes, count_unresolved t hexes,
    fun as bs => ?_⟩
  · exact List.filter_congr fun hex _ => by cases t.lookup hex <;> rfl
  · exact (mem_hexes_iff.1 hmem).2 (by simpa using (List.mem_filter.1 hs).2)
  · rw [List.flatMap_append, List.filter_append]

/-- A constant in two spellings, one with an entry but no signature, and one without an entry. -/
theorem resolve_splits_spellings :
    let t := ofEntries [("a9", ["f()", "g()"]), ("b0", [])]
    let r := t.resolve ["0xA9", "b0", "a9", "c1", "0xA9"]
    r.unresolved = ["b0", "c1"] ∧ (r.found.map (·.hex)).count "0xA9" = 4 ∧ "b0" ∉ r.found.map (·.hex) := by
  intro t r
  obtain ⟨hunresolved, -, hboth, hfound, -⟩ := resolve_splits t ["0xA9", "b0", "a9", "c1", "0xA9"]
  have hsplit : r.unresolved = ["b0", "c1"] := hunresolved.trans (by decide)
  refine ⟨hsplit, (hfound "0xA9").trans (by decide), hboth "b0" ?_⟩
  rw [hsplit]
  exact List.mem_cons_self

end ContractWatch.Signature.Table
