import ContractWatch.Json.Free
import ContractWatch.Proofs.Json.Everywhere
import ContractWatch.Proofs.Json.Shape
import Mathlib.Data.String.Basic

/-!
Free values as they are kept. Reading leaves every object with its members in strict order of their keys, and a value
that is so ordered, and embeds no text, is kept as it is.
-/

namespace ContractWatch.Json

/-- As free values are kept: whole numbers have 64 bits, nothing is garbled, and members are sorted by key. -/
def IsKept (v : Json) : Prop :=
  v.Everywhere fun
    | .int n => -0x8000000000000000 ≤ n ∧ n < 0x10000000000000000
    | .record ms => (ms.map (·.1)).Pairwise (· < ·)
    | .garbled => False
    | _ => True

def HasNoReal (v : Json) : Prop :=
  v.Everywhere fun
    | .real _ => False
    | _ => True

/-- No object begins with the key of embedded texts. -/
def HasNoEmbedding (v : Json) : Prop :=
  v.Everywhere fun
    | .record ms => isEmbedding ms = false
    | _ => True

theorem isKept_list {xs : List Json} : (Json.list xs).IsKept ↔ ∀ x ∈ xs, x.IsKept := by
  simp [IsKept, everywhere_list]

theorem isKept_record {ms : List (String × Json)} :
    (Json.record ms).IsKept ↔ (ms.map (·.1)).Pairwise (· < ·) ∧ ∀ m ∈ ms, m.2.IsKept := by
  simp [IsKept, everywhere_record]

theorem IsKept.isPlain {v : Json} (hk : v.IsKept) (hr : v.HasNoReal) : v.IsPlain := by
  induction hk with
  | @atom v ha hv =>
    cases v with
    | int n => exact hv
    | real s => exact hr.here
    | garbled => exact hv
    | list xs => contradiction
    | record ms => contradiction
    | _ => trivial
  | list _ _ ih => exact isPlain_list.2 fun x hx => ih x hx ((everywhere_list.1 hr).2 x hx)
  | record _ _ ih => exact isPlain_record.2 fun m hm => ih m hm ((everywhere_record.1 hr).2 m hm)

/-! ### Members in order -/

theorem insert_of_lt {k : String} {v : Json} {ms : List (String × Json)} (h : ∀ m ∈ ms, m.1 < k) :
    insert k v ms = ms ++ [(k, v)] := by
  induction ms with
  | nil => rfl
  | cons m ms ih =>
    obtain ⟨k', v'⟩ := m
    obtain ⟨hm, hms⟩ := List.forall_mem_cons.1 h
    rw [insert, if_neg (lt_asymm hm), if_neg (ne_of_gt hm), ih hms, List.cons_append]

theorem mem_insert {k : String} {v : Json} {ms : List (String × Json)} {m : String × Json} (h : m ∈ insert k v ms) :
    m = (k, v) ∨ m ∈ ms := by
  induction ms with
  | nil => exact .inl (List.mem_singleton.1 h)
  | cons m' ms ih =>
    rw [insert] at h
    split at h
    · exact List.mem_cons.1 h
    · split at h
      · exact (List.mem_cons.1 h).imp_right (List.mem_cons_of_mem _)
      · rcases List.mem_cons.1 h with rfl | h
        · exact .inr List.mem_cons_self
        · exact (ih h).imp_right (List.mem_cons_of_mem _)

theorem insert_sorted {k : String} {v : Json} {ms : List (String × Json)} (h : (ms.map (·.1)).Pairwise (· < ·)) :
    ((insert k v ms).map (·.1)).Pairwise (· < ·) := by
  induction ms with
  | nil => exact List.pairwise_singleton _ _
  | cons m ms ih =>
    obtain ⟨hm, hms⟩ := List.pairwise_cons.1 h
    rw [insert]
    split
    · rename_i hk
      refine List.pairwise_cons.2 ⟨fun k' hk' => ?_, h⟩
      rcases List.mem_cons.1 hk' with rfl | hk'
      · exact hk
      · exact lt_trans hk (hm k' hk')
    · rename_i hk
      split
      · rename_i he
        exact List.pairwise_cons.2 ⟨he ▸ hm, hms⟩
      · rename_i hne
        refine List.pairwise_cons.2 ⟨fun k' hk' => ?_, ih hms⟩
        obtain ⟨m', hm', rfl⟩ := List.mem_map.1 hk'
        rcases mem_insert hm' with rfl | hm'
        · exact lt_of_le_of_ne (not_lt.1 hk) (Ne.symm hne)
        · exact hm _ (List.mem_map_of_mem hm')

/-! ### Reading values as they are kept -/

theorem list?_eq_mapM (read : String → Option Json) (xs : List Json) :
    canonicalWith?.list? read xs = xs.mapM (canonicalWith? read) := by
  induction xs with
  | nil => rfl
  | cons x xs ih =>
    rw [canonicalWith?.list?, List.mapM_cons, ih]
    cases canonicalWith? read x with
    | none => rfl
    | some y => cases xs.mapM (canonicalWith? read) <;> rfl

variable {read : String → Option Json}

/-- The member with its value as it is kept. -/
def keptMember? (read : String → Option Json) (m : String × Json) : Option (String × Json) :=
  (canonicalWith? read m.2).map fun w => (m.1, w)

theorem keptMember?_eq_self_iff (m : String × Json) :
    keptMember? read m = some m ↔ canonicalWith? read m.2 = some m.2 := by
  cases h : canonicalWith? read m.2 <;> simp [keptMember?, h, Prod.ext_iff]

/-- Members in order are put behind one another. -/
theorem record?_of_sorted {sorted ms : List (String × Json)} (hs : ((sorted ++ ms).map (·.1)).Pairwise (· < ·)) :
    canonicalWith?.record? read sorted ms = (ms.mapM (keptMember? read)).map (sorted ++ ·) := by
  induction ms generalizing sorted with
  | nil => simp [canonicalWith?.record?]
  | cons m ms ih =>
    obtain ⟨k, v⟩ := m
    have hlt : ∀ m ∈ sorted, m.1 < k := by
      intro m hm
      rw [List.map_append, List.pairwise_append] at hs
      exact hs.2.2 m.1 (List.mem_map_of_mem hm) k List.mem_cons_self
    rw [canonicalWith?.record?, List.mapM_cons, keptMember?]
    cases canonicalWith? read v with
    | none => rfl
    | some w =>
      have hnext : ((sorted ++ [(k, w)] ++ ms).map (·.1)).Pairwise (· < ·) := by simpa using hs
      simp only [insert_of_lt hlt, ih hnext]
      cases ms.mapM (keptMember? read) <;> simp

/-- A value that is as free values are kept, and embeds no text, is kept as it is. -/
theorem canonicalWith?_of_isKept {v : Json} (hk : v.IsKept) (he : v.HasNoEmbedding) :
    canonicalWith? read v = some v := by
  induction hk with
  | @atom v ha hv =>
    cases v with
    | garbled => exact hv.elim
    | list xs => contradiction
    | record ms => contradiction
    | _ => rfl
  | @list xs _ _ ih =>
    have hxs : xs.mapM (canonicalWith? read) = some xs :=
      mapM_eq_self_iff.2 fun x hx => ih x hx ((everywhere_list.1 he).2 x hx)
    rw [canonicalWith?, list?_eq_mapM, hxs]
    rfl
  | @record ms hs _ ih =>
    obtain ⟨hfirst, hmembers⟩ := everywhere_record.1 he
    have hms : ms.mapM (keptMember? read) = some ms :=
      mapM_eq_self_iff.2 fun m hm => (keptMember?_eq_self_iff m).2 (ih m hm (hmembers m hm))
    have hsorted : canonicalWith?.record? read [] ms = _ := record?_of_sorted hs
    rw [canonicalWith?, hfirst, hsorted, hms]
    rfl

theorem canonical?_of_isKept {v : Json} (hk : v.IsKept) (he : v.HasNoEmbedding) : v.canonical? = some v :=
  canonicalWith?_of_isKept hk he

theorem isKept_of_record? {sorted ms ms' : List (String × Json)}
    (hs : (sorted.map (·.1)).Pairwise (· < ·)) (hsorted : ∀ m ∈ sorted, m.2.IsKept)
    (hms : ∀ m ∈ ms, ∀ w, canonicalWith? read m.2 = some w → w.IsKept)
    (h : canonicalWith?.record? read sorted ms = some ms') : (Json.record ms').IsKept := by
  induction ms generalizing sorted with
  | nil =>
    cases h
    exact isKept_record.2 ⟨hs, hsorted⟩
  | cons m ms ih =>
    obtain ⟨k, v⟩ := m
    obtain ⟨hm, hrest⟩ := List.forall_mem_cons.1 hms
    rw [canonicalWith?.record?] at h
    split at h
    · rename_i w hw
      refine ih (insert_sorted hs) (fun m' hm' => ?_) hrest h
      rcases mem_insert hm' with rfl | hm'
      · exact hm w hw
      · exact hsorted m' hm'
    · contradiction

/-- Whatever is read is as free values are kept, if what is read for embedded texts is. -/
theorem isKept_of_canonicalWith? (hread : ∀ s w, read s = some w → w.IsKept) {v w : Json} (hv : v.InRange)
    (h : canonicalWith? read v = some w) : w.IsKept := by
  induction hv generalizing w with
  | @atom v ha hv =>
    cases v with
    | garbled => contradiction
    | list xs => contradiction
    | record ms => contradiction
    | int n =>
      cases h
      exact .atom rfl hv
    | _ =>
      cases h
      exact .atom rfl trivial
  | @list xs _ _ ih =>
    rw [canonicalWith?, list?_eq_mapM] at h
    obtain ⟨ys, hys, rfl⟩ := Option.map_eq_some_iff.1 h
    refine isKept_list.2 fun y hy => ?_
    obtain ⟨x, hx, hxy⟩ := exists_of_mem_mapM hys hy
    exact ih x hx hxy
  | @record ms _ _ ih =>
    rw [canonicalWith?] at h
    split at h
    · obtain ⟨s, -, hs⟩ := Option.bind_eq_some_iff.1 h
      exact hread s w hs
    · obtain ⟨ms', hms', rfl⟩ := Option.map_eq_some_iff.1 h
      exact isKept_of_record? .nil (by simp) ih hms'

theorem isKept_of_embedded? (fuel : Nat) {s : String} {w : Json} (h : embedded? fuel s = some w) : w.IsKept := by
  induction fuel generalizing s w with
  | zero => contradiction
  | succ fuel ih =>
    rw [embedded?] at h
    obtain ⟨v, hv, h⟩ := Option.bind_eq_some_iff.1 h
    split at h
    · exact isKept_of_canonicalWith? (fun _ _ => ih) (inRange_of_parseText hv) h
    · contradiction

theorem isKept_of_canonical? {v w : Json} (hv : v.InRange) (h : v.canonical? = some w) : w.IsKept :=
  isKept_of_canonicalWith? (fun _ _ => isKept_of_embedded? _) hv h

end ContractWatch.Json
