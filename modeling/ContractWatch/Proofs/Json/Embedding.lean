import ContractWatch.Proofs.Json.Free
import ContractWatch.Proofs.Json.Weight

/-!
Texts embedded in values. Reading them adds no characters, so that a text inside a text is shorter and no text spells
its own embedding. The fuel of the reader is thus enough, and a value that is kept as it is embeds nothing.
-/

namespace ContractWatch.Json

open weight (listWeight recordWeight)

variable {read : String → Option Json}

theorem recordWeight_insert_le (k : String) (v : Json) (ms : List (String × Json)) :
    recordWeight (insert k v ms) ≤ k.length + v.weight + recordWeight ms := by
  induction ms with
  | nil => exact Nat.le_refl _
  | cons m ms ih =>
    rw [insert]
    split
    · exact Nat.le_refl _
    split
    all_goals
      simp only [recordWeight]
      omega

/-- The only member of an embedding is its text. -/
theorem eq_of_embeddedText? {ms : List (String × Json)} {s : String} (he : isEmbedding ms)
    (h : embeddedText? ms = some s) : ms = [(embeddingKey, .text s)] := by
  unfold embeddedText? at h
  split at h
  · cases h
    rw [isEmbedding, decide_eq_true_eq] at he
    rw [he]
  · contradiction

theorem length_lt_of_embeddedText? {ms : List (String × Json)} {s : String} (he : isEmbedding ms)
    (h : embeddedText? ms = some s) : s.length < (Json.record ms).weight := by
  have hkey : 0 < embeddingKey.length := by decide
  rw [eq_of_embeddedText? he h, weight, recordWeight, weight]
  omega

/-! ### Reading adds no characters -/

theorem listWeight_le_of_mapM {f : Json → Option Json} {xs ys : List Json}
    (hxs : ∀ x ∈ xs, ∀ y, f x = some y → y.weight ≤ x.weight) (h : xs.mapM f = some ys) :
    listWeight ys ≤ listWeight xs := by
  induction xs generalizing ys with
  | nil =>
    cases h
    exact Nat.le_refl _
  | cons x xs ih =>
    obtain ⟨hx, hrest⟩ := List.forall_mem_cons.1 hxs
    simp only [List.mapM_cons, bind, Option.bind_eq_some_iff, pure, Option.some.injEq] at h
    obtain ⟨y, hy, ys, hys, rfl⟩ := h
    exact Nat.add_le_add (hx y hy) (ih hrest hys)

theorem recordWeight_le_of_record? {sorted ms ms' : List (String × Json)}
    (hms : ∀ m ∈ ms, ∀ w, canonicalWith? read m.2 = some w → w.weight ≤ m.2.weight)
    (h : canonicalWith?.record? read sorted ms = some ms') :
    recordWeight ms' ≤ recordWeight sorted + recordWeight ms := by
  induction ms generalizing sorted with
  | nil =>
    cases h
    exact Nat.le_add_right _ _
  | cons m ms ih =>
    obtain ⟨k, v⟩ := m
    obtain ⟨hm, hrest⟩ := List.forall_mem_cons.1 hms
    rw [canonicalWith?.record?] at h
    split at h
    · rename_i w hw
      have hle := ih hrest h
      have hinsert := recordWeight_insert_le k w sorted
      have hv : w.weight ≤ v.weight := hm w hw
      rw [recordWeight]
      omega
    · contradiction

theorem weight_le_of_canonicalWith? (hread : ∀ s w, read s = some w → w.weight ≤ s.length) {v w : Json}
    (hv : v.InRange) (h : canonicalWith? read v = some w) : w.weight ≤ v.weight := by
  induction hv generalizing w with
  | @atom v ha hv =>
    cases v with
    | garbled => contradiction
    | list xs => contradiction
    | record ms => contradiction
    | _ =>
      cases h
      exact Nat.le_refl _
  | @list xs _ _ ih =>
    rw [canonicalWith?, list?_eq_mapM] at h
    obtain ⟨ys, hys, rfl⟩ := Option.map_eq_some_iff.1 h
    exact listWeight_le_of_mapM (fun x hx y hy => ih x hx hy) hys
  | @record ms _ _ ih =>
    rw [canonicalWith?] at h
    split at h
    · rename_i he
      obtain ⟨s, hs, hw⟩ := Option.bind_eq_some_iff.1 h
      exact Nat.le_trans (hread s w hw) (Nat.le_of_lt (length_lt_of_embeddedText? he hs))
    · obtain ⟨ms', hms', rfl⟩ := Option.map_eq_some_iff.1 h
      have hle := recordWeight_le_of_record? (fun m hm w hw => ih m hm hw) hms'
      rwa [recordWeight, Nat.zero_add] at hle

theorem weight_le_of_embedded? (fuel : Nat) {s : String} {w : Json} (h : embedded? fuel s = some w) :
    w.weight ≤ s.length := by
  induction fuel generalizing s w with
  | zero => contradiction
  | succ fuel ih =>
    rw [embedded?] at h
    obtain ⟨v, hv, h⟩ := Option.bind_eq_some_iff.1 h
    split at h
    · exact Nat.le_trans (weight_le_of_canonicalWith? (fun _ _ => ih) (inRange_of_parseText hv) h)
        (weight_le_of_parseText hv)
    · contradiction

/-! ### The fuel is enough -/

theorem weight_le_listWeight {xs : List Json} {x : Json} (h : x ∈ xs) : x.weight ≤ listWeight xs := by
  obtain ⟨before, after, rfl⟩ := List.append_of_mem h
  rw [listWeight_append, listWeight]
  omega

theorem weight_le_recordWeight {ms : List (String × Json)} {m : String × Json} (h : m ∈ ms) :
    m.2.weight ≤ recordWeight ms := by
  obtain ⟨before, after, rfl⟩ := List.append_of_mem h
  rw [recordWeight_append, recordWeight]
  omega

theorem list?_congr {read' : String → Option Json} {xs : List Json}
    (h : ∀ x ∈ xs, canonicalWith? read x = canonicalWith? read' x) :
    canonicalWith?.list? read xs = canonicalWith?.list? read' xs := by
  induction xs with
  | nil => rfl
  | cons x xs ih =>
    obtain ⟨hx, hxs⟩ := List.forall_mem_cons.1 h
    rw [canonicalWith?.list?, canonicalWith?.list?, hx, ih hxs]

theorem record?_congr {read' : String → Option Json} {sorted ms : List (String × Json)}
    (h : ∀ m ∈ ms, canonicalWith? read m.2 = canonicalWith? read' m.2) :
    canonicalWith?.record? read sorted ms = canonicalWith?.record? read' sorted ms := by
  induction ms generalizing sorted with
  | nil => rfl
  | cons m ms ih =>
    obtain ⟨hm, hms⟩ := List.forall_mem_cons.1 h
    rw [canonicalWith?.record?, canonicalWith?.record?, hm]
    cases canonicalWith? read' m.2 with
    | none => rfl
    | some w => exact ih hms

/-- Only texts shorter than the value are read. -/
theorem canonicalWith?_congr {read' : String → Option Json} {v : Json} (hv : v.InRange)
    (h : ∀ s, s.length < v.weight → read s = read' s) : canonicalWith? read v = canonicalWith? read' v := by
  induction hv with
  | @atom v ha _ => cases v <;> first | rfl | contradiction
  | @list xs _ _ ih =>
    have hxs := list?_congr fun x hx =>
      ih x hx fun s hs => h s (Nat.lt_of_lt_of_le hs (weight_le_listWeight hx))
    rw [canonicalWith?, canonicalWith?, hxs]
  | @record ms _ _ ih =>
    rw [canonicalWith?, canonicalWith?]
    split
    · rename_i he
      cases hs : embeddedText? ms with
      | none => rfl
      | some s => exact h s (length_lt_of_embeddedText? he hs)
    · have hms : canonicalWith?.record? read [] ms = canonicalWith?.record? read' [] ms := record?_congr fun m hm =>
        ih m hm fun s hs => h s (Nat.lt_of_lt_of_le hs (weight_le_recordWeight hm))
      rw [hms]

theorem embedded?_fuel {n k : Nat} {s : String} (hn : s.length < n) (hk : s.length < k) :
    embedded? n s = embedded? k s := by
  induction n generalizing k s with
  | zero => contradiction
  | succ n ih =>
    obtain ⟨k, rfl⟩ := Nat.exists_eq_succ_of_ne_zero (Nat.ne_zero_of_lt hk)
    rw [embedded?, embedded?]
    cases hv : parseText s with
    | none => rfl
    | some v =>
      have hle := weight_le_of_parseText hv
      have hread : canonicalWith? (embedded? n) v = canonicalWith? (embedded? k) v :=
        canonicalWith?_congr (inRange_of_parseText hv) fun t ht => ih (by omega) (by omega)
      simp only [Option.bind_some, hread]

/-- In place of an embedding stands the value that its text spells. -/
theorem canonical?_embedding (s : String) : (record [(embeddingKey, .text s)]).canonical? =
    (parseText s).bind fun v => if v.depth ≤ maxDepth then v.canonical? else none := by
  have he : isEmbedding [(embeddingKey, .text s)] := by simp [isEmbedding]
  rw [canonical?, canonicalWith?, if_pos he, embeddedText?, Option.bind_some, embedded?]
  cases hv : parseText s with
  | none => rfl
  | some v =>
    have hle := weight_le_of_parseText hv
    have hread : canonicalWith? (embedded? s.length) v = v.canonical? :=
      canonicalWith?_congr (inRange_of_parseText hv) fun t ht => embedded?_fuel (by omega) (by omega)
    simp only [Option.bind_some, hread]

/-! ### What is kept as it is -/

/-- No text spells the embedding of itself. -/
theorem embedded?_ne_self (fuel : Nat) (s : String) : embedded? fuel s ≠ some (.record [(embeddingKey, .text s)]) := by
  intro h
  have he : isEmbedding [(embeddingKey, .text s)] := by simp [isEmbedding]
  have hlt : s.length < (Json.record [(embeddingKey, .text s)]).weight := length_lt_of_embeddedText? he rfl
  have hle := weight_le_of_embedded? fuel h
  omega

/-- What is kept as it is embeds nothing. -/
theorem hasNoEmbedding_of_canonicalWith? (hread : ∀ s, read s ≠ some (.record [(embeddingKey, .text s)])) {v : Json}
    (hk : v.IsKept) (h : canonicalWith? read v = some v) : v.HasNoEmbedding := by
  induction hk with
  | @atom v ha _ =>
    refine .atom ha ?_
    cases v with
    | record ms => contradiction
    | _ => trivial
  | @list xs _ _ ih =>
    rw [canonicalWith?, list?_eq_mapM, Option.map_eq_some_iff] at h
    obtain ⟨ys, hys, hlist⟩ := h
    obtain rfl := Json.list.inj hlist
    exact .list trivial fun x hx => ih x hx (mapM_eq_self_iff.1 hys x hx)
  | @record ms hs _ ih =>
    rw [canonicalWith?] at h
    split at h
    · rename_i he
      obtain ⟨s, hs, hw⟩ := Option.bind_eq_some_iff.1 h
      rw [eq_of_embeddedText? he hs] at hw
      exact absurd hw (hread s)
    · rename_i he
      have hsorted : canonicalWith?.record? read [] ms = _ := record?_of_sorted hs
      rw [hsorted, Option.map_map, Option.map_eq_some_iff] at h
      obtain ⟨ns, hns, hrecord⟩ := h
      obtain rfl := Json.record.inj hrecord
      refine .record (Bool.eq_false_of_not_eq_true he) fun m hm => ih m hm ?_
      exact (keptMember?_eq_self_iff m).1 (mapM_eq_self_iff.1 hns m hm)

/-- A value as free values are kept is kept as it is exactly if it embeds no text. -/
theorem canonical?_eq_self_iff {v : Json} (hk : v.IsKept) : v.canonical? = some v ↔ v.HasNoEmbedding :=
  ⟨hasNoEmbedding_of_canonicalWith? (fun _ => embedded?_ne_self _ _) hk, canonical?_of_isKept hk⟩

end ContractWatch.Json
