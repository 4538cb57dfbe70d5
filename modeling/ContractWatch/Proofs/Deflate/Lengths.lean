import ContractWatch.Proofs.Deflate.PrefixCode
import ContractWatch.Proofs.Deflate.Weights

/-!
The head of a block read back: the runs that stand for the lengths of code words, and the code that the runs are
written in.
-/

namespace ContractWatch.Deflate

namespace Run

/-- The run has a written form. -/
def Fits : Run → Prop
  | one l => l < 16
  | again n => 3 ≤ n ∧ n ≤ 6
  | zeros n => 3 ≤ n ∧ n ≤ 138

theorem Fits.length_lt {run : Run} (h : run.Fits) (acc : List Nat) : acc.length < (run.expandOnto acc).length := by
  cases run with
  | one l => simp [expandOnto]
  | again n => simp [expandOnto]; have := h.1; omega
  | zeros n => simp [expandOnto]; have := h.1; omega

/-- `out` is what the runs make of `acc`, both with the last length first; a repetition has something to repeat. -/
inductive Expands : List Nat → List Run → List Nat → Prop
  | nil {acc} : Expands acc [] acc
  | cons {acc run runs out} : run.Fits → (∀ n, run = again n → acc ≠ []) →
      Expands (run.expandOnto acc) runs out → Expands acc (run :: runs) out

theorem Expands.length_le {acc out : List Nat} {runs : List Run} (h : Expands acc runs out) :
    acc.length ≤ out.length := by
  induction h with
  | nil => exact Nat.le_refl _
  | cons hf _ _ ih => exact Nat.le_of_lt (Nat.lt_of_lt_of_le (hf.length_lt _) ih)

theorem Expands.append {acc mid out : List Nat} {runs runs' : List Run} (h : Expands acc runs mid)
    (h' : Expands mid runs' out) : Expands acc (runs ++ runs') out := by
  induction h with
  | nil => exact h'
  | cons hf ha _ ih => exact .cons hf ha (ih h')

theorem Expands.ones {l : Nat} (hl : l < 16) (acc : List Nat) (n : Nat) :
    Expands acc (List.replicate n (one l)) (List.replicate n l ++ acc) := by
  induction n generalizing acc with
  | zero => exact .nil
  | succ n ih =>
    have h : Expands acc (one l :: List.replicate n (one l)) (List.replicate n l ++ l :: acc) :=
      .cons hl (by simp) (ih (l :: acc))
    rwa [List.append_cons, ← List.replicate_succ', ← List.replicate_succ] at h

theorem Expands.of_zeroRuns (acc : List Nat) (n : Nat) : Expands acc (zeroRuns n) (List.replicate n 0 ++ acc) := by
  fun_induction zeroRuns n generalizing acc with
  | case1 n h ih =>
    have hn : List.replicate n 0 ++ acc = List.replicate (n - 138) 0 ++ (List.replicate 138 0 ++ acc) := by
      rw [← List.append_assoc, List.replicate_append_replicate]
      congr 2
      omega
    rw [hn]
    exact .cons ⟨by decide, by decide⟩ (by simp) (ih _)
  | case2 n h h3 => exact .cons ⟨h3, Nat.le_of_not_lt h⟩ (by simp) .nil
  | case3 n h h3 => exact .ones (by decide) acc n

theorem Expands.of_againRuns {l : Nat} (hl : l < 16) (acc : List Nat) (n : Nat) :
    Expands (l :: acc) (againRuns l n) (List.replicate n l ++ l :: acc) := by
  fun_induction againRuns l n generalizing acc with
  | case1 n h ih =>
    have hn : List.replicate n l ++ l :: acc = List.replicate (n - 6) l ++ l :: (List.replicate 6 l ++ acc) := by
      rw [List.append_cons, ← List.replicate_succ', List.append_cons, ← List.replicate_succ', ← List.append_assoc,
        List.replicate_append_replicate]
      congr 2
      omega
    rw [hn]
    exact .cons ⟨by decide, by decide⟩ (by simp) (ih _)
  | case2 n h h3 => exact .cons ⟨h3, Nat.le_of_not_lt h⟩ (by simp) .nil
  | case3 n h h3 => exact .ones hl _ n

theorem Expands.of_sameRuns {l : Nat} (hl : l < 16) (acc : List Nat) (n : Nat) :
    Expands acc (sameRuns l n) (List.replicate n l ++ acc) := by
  unfold sameRuns
  split
  · rename_i h0
    subst h0
    exact .of_zeroRuns acc n
  · cases n with
    | zero => exact .nil
    | succ n =>
      rw [List.replicate_succ', List.append_assoc]
      exact .cons hl (by simp) (.of_againRuns hl acc n)

theorem Expands.of_groups {gs : List (Nat × Nat)} (hgs : ∀ g ∈ gs, g.1 < 16) (acc : List Nat) :
    Expands acc (gs.flatMap fun g => sameRuns g.1 g.2)
      ((gs.flatMap fun g => List.replicate g.2 g.1).reverse ++ acc) := by
  induction gs generalizing acc with
  | nil => exact .nil
  | cons g gs ih =>
    simp only [List.flatMap_cons, List.reverse_append, List.reverse_replicate, List.append_assoc]
    exact (Expands.of_sameRuns (hgs g List.mem_cons_self) acc g.2).append
      (ih (fun g' hg' => hgs g' (List.mem_cons_of_mem _ hg')) _)

theorem flatMap_groups (ls : List Nat) : (groups ls).flatMap (fun g => List.replicate g.2 g.1) = ls := by
  induction ls with
  | nil => rfl
  | cons l ls ih =>
    simp only [groups]
    split
    · rename_i l' n gs hg
      simp only [hg, List.flatMap_cons] at ih
      split
      · rename_i hl
        simp [hl, List.replicate_succ, ih]
      · simp [ih]
    · rename_i hg
      simp only [hg, List.flatMap_nil] at ih
      simp [← ih]

theorem mem_of_mem_groups {ls : List Nat} {g : Nat × Nat} (h : g ∈ groups ls) : g.1 ∈ ls := by
  induction ls generalizing g with
  | nil => simp [groups] at h
  | cons l ls ih =>
    simp only [groups] at h
    split at h
    · rename_i l' n gs hg
      rw [hg] at ih
      split at h
      · rename_i hl
        obtain rfl | h := List.mem_cons.1 h
        · simp [hl]
        · exact List.mem_cons_of_mem _ (ih (List.mem_cons_of_mem _ h))
      · obtain rfl | h := List.mem_cons.1 h
        · exact List.mem_cons_self
        · exact List.mem_cons_of_mem _ (ih h)
    · rw [List.mem_singleton] at h
      simp [h]

/-- Lengths come back from their runs. -/
theorem Expands.of_runsOf {ls : List Nat} (hls : ∀ l ∈ ls, l < 16) : Expands [] (runsOf ls) ls.reverse := by
  have h := Expands.of_groups (fun g hg => hls g.1 (mem_of_mem_groups hg)) []
  rwa [flatMap_groups, List.append_nil] at h

theorem reads_extraBits {run : Run} (hf : run.Fits) {acc : List Nat} (ha : ∀ n, run = again n → acc ≠ []) :
    Reads (ofSymbol acc run.symbol) run.extraBits run := by
  intro r hr
  cases run with
  | one l =>
    have hl : l < 16 := hf
    simp [ofSymbol, symbol, extraBits, hl]
  | again n =>
    have hn : n - 3 < 2 ^ 2 := by have := hf.2; omega
    have h3 : 3 + (n - 3) = n := by have := hf.1; omega
    simp only [extraBits] at hr
    simp [ofSymbol, symbol, extraBits, ha, reads_nat 2 (n - 3) hn r hr, Except.map, h3]
  | zeros n =>
    obtain ⟨h3, h138⟩ := hf
    by_cases h10 : n ≤ 10
    · have hn : n - 3 < 2 ^ 3 := by omega
      have h3 : 3 + (n - 3) = n := by omega
      simp only [extraBits, h10, if_true] at hr
      simp [ofSymbol, symbol, extraBits, h10, reads_nat 3 (n - 3) hn r hr, Except.map, h3]
    · have hn : n - 11 < 2 ^ 7 := by omega
      have h11 : 11 + (n - 11) = n := by omega
      simp only [extraBits, h10, if_false] at hr
      simp [ofSymbol, symbol, extraBits, h10, reads_nat 7 (n - 11) hn r hr, Except.map, h11]

theorem reads_run {t : Tree} {run : Run} {w : List Bool} (hf : run.Fits) {acc : List Nat}
    (ha : ∀ n, run = again n → acc ≠ []) (hw : runBits? t.book run = some w) : Reads (Run.read t acc) w run := by
  obtain ⟨v, hv, rfl⟩ := Option.map_eq_some_iff.1 hw
  intro r hr
  obtain ⟨hv', hx⟩ := Reader.split_head hr
  simp only [Run.read, Tree.reads_word? hv r hv', reads_extraBits hf ha _ hx, List.length_append, Reader.skip_add]

end Run

/-- Written runs are read until all lengths are there. -/
theorem reads_lengths {t : Tree} {acc out : List Nat} {runs : List Run} {ws : List (List Bool)} {fuel : Nat}
    (h : Run.Expands acc runs out) (hw : runs.mapM (runBits? t.book) = some ws)
    (hfuel : out.length < acc.length + fuel) :
    Reads (readLengths t out.length fuel acc) ws.flatten out.reverse := by
  induction h generalizing ws fuel with
  | @nil acc =>
    obtain rfl : ws = [] := by simpa using hw.symm
    cases fuel with
    | zero => omega
    | succ fuel => exact fun r _ => by simp [readLengths]
  | @cons acc run runs out hf ha hrest ih =>
    obtain ⟨w, hrun, ws, hruns, rfl⟩ := mapM_cons_eq_some hw
    have hlt := hf.length_lt acc
    have hle := hrest.length_le
    cases fuel with
    | zero => omega
    | succ fuel =>
      intro r hr
      rw [List.flatten_cons] at hr
      obtain ⟨hv, hx⟩ := Reader.split_head hr
      have hne : ¬ acc.length = out.length := by omega
      have hle' : ¬ out.length < (run.expandOnto acc).length := by omega
      have hfuel' : out.length < (run.expandOnto acc).length + fuel := by omega
      simp only [readLengths, hne, if_false, Run.reads_run hf ha hrun r hv, hle', ih hruns hfuel' _ hx,
        List.flatten_cons, List.length_append, Reader.skip_add]

theorem reads_nats (width : Nat) {ns : List Nat} (h : ∀ n ∈ ns, n < 2 ^ width) :
    Reads (readNats width ns.length) (ns.flatMap (natBits width)) ns := by
  induction ns with
  | nil => exact fun r _ => rfl
  | cons n ns ih =>
    intro r hr
    rw [List.flatMap_cons] at hr
    obtain ⟨hn, hns⟩ := Reader.split_head hr
    have hrest := ih (fun n' hn' => h n' (List.mem_cons_of_mem _ hn')) _ hns
    simp only [List.length_cons, readNats, reads_nat width n (h n List.mem_cons_self) r hn, hrest, List.flatMap_cons,
      List.length_append, Reader.skip_add]

theorem lookup_zip_map {β : Type} {l : List Nat} (f : Nat → β) {s : Nat} (h : s ∈ l) :
    (l.zip (l.map f)).lookup s = some (f s) := by
  induction l with
  | nil => simp at h
  | cons x l ih =>
    rw [List.map_cons, List.zip_cons_cons, List.lookup_cons]
    by_cases hx : s = x
    · simp [hx]
    · have : (s == x) = false := by simpa using hx
      rw [this]
      exact ih ((List.mem_cons.1 h).resolve_left hx)

theorem reorder_lengthOrder {ls : List Nat} (h : ls.length = 19) :
    reorder (lengthOrder.map fun s => ls.getD s 0) = ls := by
  have hmem : ∀ s < 19, s ∈ lengthOrder := by decide
  apply List.ext_getElem
  · simp [reorder, h]
  · intro s hs hs'
    have : s < 19 := by omega
    simp [reorder, lookup_zip_map _ (hmem s this), hs']

/-- A written head is read as the codes of the lengths that it was made for. -/
theorem reads_codes {literals distances : List Nat} {head : List Bool} {codes : Codes}
    (hl : literals.length = maxLiterals) (hd : distances.length = maxDistances)
    (hlt : ∀ l ∈ literals ++ distances, l < 16) (hhead : headBits? literals distances = some head)
    (hcodes : Codes.ofLengths? literals distances = some codes) : Reads readCodes head codes := by
  simp only [headBits?] at hhead
  generalize hls : limitedLengths 7 16 (atLeastTwo (count 19 ((runsOf (literals ++ distances)).map Run.symbol))) = ls
    at hhead
  have hlen : ls.length = 19 := by simp [← hls]
  have hle : ∀ l ∈ ls, l < 2 ^ 3 := fun l h => Nat.lt_succ_of_le (le_of_mem_limitedLengths (hls ▸ h))
  split at hhead
  · contradiction
  rename_i t ht
  obtain ⟨ws, hws, rfl⟩ := Option.map_eq_some_iff.1 hhead
  have hcounts : Reads (readNats 5 2) (natBits 5 (maxLiterals - 257) ++ natBits 5 (maxDistances - 1)) [29, 29] := by
    have hlt : ∀ n ∈ [29, 29], n < 2 ^ 5 := by decide
    have h := reads_nats 5 hlt
    simpa [maxLiterals, maxDistances] using h
  have hnats : Reads (readNats 3 19) (lengthOrder.flatMap fun s => natBits 3 (ls.getD s 0))
      (lengthOrder.map fun s => ls.getD s 0) := by
    have hlt : ∀ n ∈ lengthOrder.map fun s => ls.getD s 0, n < 2 ^ 3 := by
      intro n hn
      obtain ⟨s, -, rfl⟩ := List.mem_map.1 hn
      rw [List.getD_eq_getElem?_getD]
      cases hs : ls[s]? with
      | none => decide
      | some l => exact hle l (List.mem_of_getElem? hs)
    have h := reads_nats 3 hlt
    simpa [List.flatMap_map, lengthOrder] using h
  have htotal : (literals ++ distances).reverse.length = 316 := by
    simp [hl, hd, maxLiterals, maxDistances]
  have hlengths : Reads (readLengths t 316 317 []) ws.flatten (literals ++ distances) := by
    have hfuel : (literals ++ distances).reverse.length < ([] : List Nat).length + 317 := by
      rw [htotal]
      decide
    have h := reads_lengths (Run.Expands.of_runsOf hlt) hws hfuel
    rwa [htotal, List.reverse_reverse] at h
  have htake : (literals ++ distances).take 286 = literals := List.take_left' hl
  have hdrop : (literals ++ distances).drop 286 = distances := List.drop_left' hl
  intro r hr
  rw [List.append_assoc, List.append_assoc] at hr
  obtain ⟨h1, hr⟩ := Reader.split_head hr
  obtain ⟨h2, hr⟩ := Reader.split_head hr
  obtain ⟨h3, h4⟩ := Reader.split_head hr
  simp only [readCodes, hcounts r h1, reads_nat 4 15 (by decide) _ h2]
  have hroom : ¬ (maxLiterals < 257 + [29, 29].getD 0 0 ∨ maxDistances < 1 + [29, 29].getD 1 0) := by decide
  rw [if_neg hroom]
  simp only [Nat.reduceAdd, hnats _ h3, reorder_lengthOrder hlen, ht, List.getD_cons_zero, List.getD_cons_succ,
    hlengths _ h4, htake, hdrop, hcodes]
  simp only [List.length_append, Reader.skip_add]

end ContractWatch.Deflate
