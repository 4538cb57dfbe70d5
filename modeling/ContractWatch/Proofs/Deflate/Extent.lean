import ContractWatch.Proofs.Deflate.Steady

/-!
How far inflating goes. The steps that a limit counts take a bit each, so that no limit above the number of bits ever
decides anything, and what is inflated depends only on the bytes in front of those that are left.
-/

namespace ContractWatch.Deflate

theorem isFork_of_readCodes {r r' : Reader} {c : Codes} (h : readCodes r = .ok (c, r')) : c.literals.IsFork := by
  simp only [readCodes] at h
  split at h
  · contradiction
  split at h
  · contradiction
  split at h
  · contradiction
  split at h
  · contradiction
  split at h
  · contradiction
  split at h
  · contradiction
  split at h
  · rename_i hc
    cases h
    exact isFork_of_ofLengths hc
  · contradiction

variable {r r' : Reader} {out out' : Array UInt8} {limit limit' fuel fuel' kind : Nat}

/-- Tokens that are read within some limit are read within every limit above the number of their bits. -/
theorem inflateTokens_limit {c : Codes} (hc : c.literals.IsFork) (h : inflateTokens c fuel r out = .ok (out', r'))
    (hlt : r.bits.length < r'.bits.length + fuel') : inflateTokens c fuel' r out = .ok (out', r') := by
  induction fuel generalizing fuel' r out with
  | zero => contradiction
  | succ fuel ih =>
    have hle := (steady_inflateTokens c (fuel + 1) out r out' r' h).1
    obtain ⟨fuel', rfl⟩ : ∃ k, fuel' = k + 1 := ⟨fuel' - 1, by omega⟩
    rw [inflateTokens] at h ⊢
    split at h
    · contradiction
    · exact h
    · rename_i t r₁ ht
      have hlt₁ := (steady_readToken hc.steady_read r (some t) r₁ ht).1
      exact ih h (by omega)

theorem inflateBlock_limit (h : inflateBlock limit kind r out = .ok (out', r'))
    (hlt : r.bits.length < r'.bits.length + limit') : inflateBlock limit' kind r out = .ok (out', r') := by
  match kind with
  | 0 => exact h
  | 1 => exact inflateTokens_limit (isFork_of_ofLengths ofLengths_fixed) h hlt
  | 2 =>
    simp only [inflateBlock] at h ⊢
    split at h
    · contradiction
    · rename_i c r₁ hc
      have hle := (steady_readCodes r c r₁ hc).1
      exact inflateTokens_limit (isFork_of_readCodes hc) h (by omega)
  | _ + 3 => contradiction

theorem inflateBlocks_limit (h : inflateBlocks limit fuel r out = .ok (out', r'))
    (hlimit : r.bits.length < r'.bits.length + limit') (hfuel : r.bits.length < r'.bits.length + fuel') :
    inflateBlocks limit' fuel' r out = .ok (out', r') := by
  induction fuel generalizing fuel' r out with
  | zero => contradiction
  | succ fuel ih =>
    have hle := (steady_inflateBlocks limit (fuel + 1) out r out' r' h).1
    obtain ⟨fuel', rfl⟩ : ∃ k, fuel' = k + 1 := ⟨fuel' - 1, by omega⟩
    rw [inflateBlocks] at h ⊢
    split at h
    · contradiction
    rename_i last r₁ hlast
    have hle₁ := (Reader.steady_nat 1 r last r₁ hlast).1
    split at h
    · contradiction
    rename_i kind r₂ hkind
    have hle₂ := (Reader.steady_nat 2 r₁ kind r₂ hkind).1
    split at h
    · contradiction
    rename_i out₃ r₃ hblock
    have hle₃ := (steady_inflateBlock limit kind out r₂ out₃ r₃ hblock).1
    have hle₄ : r'.bits.length ≤ r₃.bits.length := by
      split at h
      · cases h
        exact Nat.le_refl _
      · exact (steady_inflateBlocks limit fuel out₃ r₃ out' r' h).1
    have hblock' : inflateBlock limit' kind r₂ out = .ok (out₃, r₃) := inflateBlock_limit hblock (by omega)
    simp only [hblock']
    split
    · rwa [if_pos ‹last = 1›] at h
    · rw [if_neg ‹¬ last = 1›] at h
      exact ih h (by omega) (by omega)

/-- Inflated data come from the bytes in front of those that are left, whatever bytes these are. -/
theorem exists_body_of_inflate {bs data rest : List UInt8} (h : inflate bs = .ok (data, rest)) :
    ∃ body, bs = body ++ rest ∧ ∀ rest', inflate (body ++ rest') = .ok (data, rest') := by
  simp only [inflate] at h
  split at h
  · contradiction
  rename_i out r hr
  cases h
  obtain ⟨-, body, hbytes, hbody⟩ := steady_inflateBlocks _ _ _ _ _ _ hr
  refine ⟨body, hbytes, fun rest' => ?_⟩
  have hlt : (Reader.ofBytes (body ++ rest')).bits.length <
      (⟨r.pending, rest'⟩ : Reader).bits.length + (8 * (body ++ rest').length + 1) := by
    simp only [Reader.bits_length, Reader.ofBytes, List.length_nil]
    omega
  have hblocks := inflateBlocks_limit (hbody rest') hlt hlt
  simp only [Reader.ofBytes] at hblocks
  simp only [inflate, Reader.ofBytes, hblocks]

end ContractWatch.Deflate
