import ContractWatch.Chain.Address
import ContractWatch.Proofs.Text.Hex

/-!
Spelling an address with its checksum changes no more than letter case.
-/

namespace ContractWatch.Address

theorem toLower_withCase {digits marks : List Char} (hd : ∀ c ∈ digits, c.toLower = c ∧ c.toUpper.toLower = c)
    (hlen : digits.length ≤ marks.length) : (withCase digits marks).map Char.toLower = digits := by
  induction digits generalizing marks with
  | nil => simp [withCase]
  | cons c digits ih =>
    cases marks with
    | nil => simp at hlen
    | cons m marks =>
      obtain ⟨hlower, hupper⟩ := hd c List.mem_cons_self
      have hrest : (withCase digits marks).map Char.toLower = digits :=
        ih (fun c hc => hd c (List.mem_cons_of_mem _ hc)) (Nat.le_of_succ_le_succ hlen)
      rw [withCase, List.zipWith_cons_cons, ← withCase, List.map_cons, hrest]
      split
      · rw [hupper]
      · rw [hlower]

theorem toLower_checksum (a : Address) : a.checksum.map Char.toLower = Hex.encode a.bytes := by
  refine toLower_withCase (fun c hc => ?_) ?_
  · exact Hex.lower_of_mem_encode hc
  · simp [Hex.length_encode, a.length_eq]

theorem hyphen_not_mem_checksum (a : Address) : '-' ∉ a.checksum := by
  intro h
  have hmem : '-' ∈ Hex.encode a.bytes := by
    rw [← toLower_checksum]
    exact List.mem_map.2 ⟨'-', h, rfl⟩
  exact absurd (Hex.digit?_of_mem_encode hmem) (by decide)

end ContractWatch.Address
