import ContractWatch.Proofs.Distinct
import ContractWatch.Proofs.Json.Shape
import ContractWatch.Signature.Table

/-!
What a table holds. Entries whose keys have one normal form are joined, in their order; the members of a document
are entries too, but of members with exactly one key only the last counts, in the place of the first.
-/

namespace ContractWatch.Signature

open Hex (normalText)

/-! ### Look-up in lists of entries -/

theorem lookup_extend (k : String) (ss : List String) (es : List Entry) (q : String) :
    (extend k ss es).lookup q = if q = k then some ((es.lookup k).getD [] ++ ss) else es.lookup q := by
  induction es with
  | nil =>
    by_cases hq : q = k
    · simp [extend, hq]
    · simp [extend, List.lookup_cons, beq_false_of_ne hq, hq]
  | cons e es ih =>
    obtain ⟨k', ss'⟩ := e
    by_cases hk : k' = k
    · subst hk
      by_cases hq : q = k'
      · simp [extend, hq]
      · simp [extend, hq, List.lookup_cons, beq_false_of_ne hq]
    · have hk' : (k == k') = false := beq_false_of_ne (Ne.symm hk)
      simp only [extend, hk, if_false, List.lookup_cons, ih, hk']
      by_cases hq : q = k'
      · subst hq
        simp [hk]
      · simp [beq_false_of_ne hq]

theorem lookup_eq_some_iff_mem {es : List Entry} (h : (es.map (·.1)).Nodup) {k : String} {ss : List String} :
    es.lookup k = some ss ↔ (k, ss) ∈ es := by
  induction es with
  | nil => simp
  | cons e es ih =>
    obtain ⟨k', ss'⟩ := e
    obtain ⟨hnew, hrest⟩ := List.nodup_cons.1 h
    rw [List.lookup_cons, List.mem_cons, Prod.mk.injEq]
    by_cases hk : k = k'
    · subst hk
      have hmem : (k, ss) ∉ es := fun hm => hnew (List.mem_map.2 ⟨_, hm, rfl⟩)
      simp [hmem, eq_comm]
    · simp [beq_false_of_ne hk, hk, ih hrest]

namespace Table

/-! ### Tables of entries -/

theorem lookup_add (t : Table) (e : Entry) (q : String) :
    (t.add e).lookup q = t.lookup q ++ if normalText e.1 = normalText q then e.2 else [] := by
  simp only [lookup, add, lookup_extend]
  by_cases h : normalText e.1 = normalText q
  · simp [h]
  · simp [h, Ne.symm h]

theorem ofEntries_concat (es : List Entry) (e : Entry) : ofEntries (es ++ [e]) = (ofEntries es).add e := by
  rw [ofEntries, ofEntries, List.foldl_concat]

theorem lookup_ofEntries (es : List Entry) (q : String) :
    (ofEntries es).lookup q = (es.filter fun e => normalText e.1 = normalText q).flatMap (·.2) := by
  induction es using List.reverseRecOn with
  | nil => rfl
  | append_singleton es e ih =>
    rw [ofEntries_concat, lookup_add, ih, List.filter_append, List.flatMap_append]
    by_cases h : normalText e.1 = normalText q <;> simp [h]

theorem keys_ofEntries (es : List Entry) :
    (ofEntries es).entries.map (·.1) = (es.map fun e => normalText e.1).eraseDups := by
  induction es using List.reverseRecOn with
  | nil => rfl
  | append_singleton es e ih =>
    rw [ofEntries_concat, add, extend_keys, ih, List.map_append, List.map_singleton, eraseDups_concat]
    simp only [List.mem_eraseDups]

theorem size_ofEntries (es : List Entry) :
    (ofEntries es).size = (es.map fun e => normalText e.1).eraseDups.length := by
  rw [← keys_ofEntries, List.length_map, size]

/-- The order in which a table keeps its keys does not show. -/
theorem lookup_eq_of_perm {t t' : Table} (h : t.entries.Perm t'.entries) (q : String) : t.lookup q = t'.lookup q := by
  have hsame : t.entries.lookup (normalText q) = t'.entries.lookup (normalText q) := by
    ext ss
    rw [lookup_eq_some_iff_mem t.keys_nodup, lookup_eq_some_iff_mem t'.keys_nodup, h.mem_iff]
  rw [lookup, lookup, hsame]

/-! ### Documents -/

/-- The entry as a member of a document. -/
def member (e : Entry) : String × Json := (e.1, .texts e.2)

theorem entry?_eq_some_iff (m : String × Json) (e : Entry) : entry? m = some e ↔ m = member e := by
  obtain ⟨k, v⟩ := m
  obtain ⟨k', ss⟩ := e
  simp only [Option.map_eq_some_iff, entry?, Json.asList_asText_eq_some_iff, member, Prod.mk.injEq]
  constructor
  · rintro ⟨ss', hv, rfl, rfl⟩
    exact ⟨rfl, hv⟩
  · rintro ⟨rfl, hv⟩
    exact ⟨ss, hv, rfl, rfl⟩

theorem parseText_document (es : List Entry) :
    Json.parseText (Json.record (es.map member)).render = some (.record (es.map member)) := by
  refine Json.parseText_render (Json.isPlain_record.2 fun m hm => ?_)
  obtain ⟨e, -, rfl⟩ := List.mem_map.1 hm
  exact Json.isPlain_texts e.2

theorem ofText_eq_ok_iff (s : String) (t : Table) :
    ofText s = .ok t ↔
      ∃ es, Json.parseText s = some (.record (es.map member)) ∧ t = ofEntries (collapse es) := by
  have hread (v : Json) : ofJson? v = some t ↔ ∃ es, v = .record (es.map member) ∧ t = ofEntries (collapse es) := by
    cases v with
    | record ms =>
      rw [ofJson?, Option.map_eq_some_iff]
      simp only [Json.mapM_eq_some_iff entry?_eq_some_iff, Json.record.injEq, @eq_comm _ t]
    | _ => simp [ofJson?]
  simp only [ofText]
  cases hp : Json.parseText s with
  | none => simp
  | some v =>
    simp only [Option.bind_some, Option.some.injEq, ← hread]
    cases ofJson? v <;> simp

/-- What the last of the entries with the key says. -/
def lastOf (es : List Entry) (k : String) : List String := (es.reverse.lookup k).getD []

theorem lastOf_concat (es : List Entry) (e : Entry) (k : String) :
    lastOf (es ++ [e]) k = if k = e.1 then e.2 else lastOf es k := by
  rw [lastOf, List.reverse_append, List.reverse_singleton, List.singleton_append, List.lookup_cons]
  by_cases h : k = e.1
  · simp [h]
  · simp [h, beq_false_of_ne h, lastOf]

theorem replace_map (e : Entry) {ks : List String} (hks : ks.Nodup) (f : String → List String) :
    replace e (ks.map fun k => (k, f k)) =
      (if e.1 ∈ ks then ks else ks ++ [e.1]).map fun k => (k, if k = e.1 then e.2 else f k) := by
  induction ks with
  | nil => simp [replace]
  | cons k ks ih =>
    obtain ⟨hnew, hrest⟩ := List.nodup_cons.1 hks
    by_cases hk : k = e.1
    · subst hk
      have hsame : ∀ k ∈ ks, k ≠ e.1 := fun k hk he => hnew (he ▸ hk)
      simpa [replace] using fun k hk he => absurd he (hsame k hk)
    · rw [List.map_cons, replace, if_neg hk, ih hrest]
      by_cases hmem : e.1 ∈ ks <;> simp [hk, Ne.symm hk, hmem]

theorem collapse_eq (es : List Entry) : collapse es = (es.map (·.1)).eraseDups.map fun k => (k, lastOf es k) := by
  induction es using List.reverseRecOn with
  | nil => rfl
  | append_singleton es e ih =>
    have hstep : collapse (es ++ [e]) = replace e (collapse es) := by
      rw [collapse, collapse, List.foldl_concat]
    simp only [hstep, ih, replace_map e (nodup_eraseDups _), List.mem_eraseDups, List.map_append, List.map_singleton,
      eraseDups_concat, lastOf_concat]

theorem replace_of_not_mem {e : Entry} {ds : List Entry} (h : e.1 ∉ ds.map (·.1)) : replace e ds = ds ++ [e] := by
  induction ds with
  | nil => rfl
  | cons d ds ih =>
    rw [List.map_cons, List.mem_cons, not_or] at h
    rw [replace, if_neg (Ne.symm h.1), ih h.2, List.cons_append]

theorem collapse_of_nodup {es : List Entry} (h : (es.map (·.1)).Nodup) : collapse es = es := by
  induction es using List.reverseRecOn with
  | nil => rfl
  | append_singleton es e ih =>
    rw [List.map_append, List.map_singleton] at h
    obtain ⟨hkeys, -, hnew⟩ := List.nodup_append.1 h
    have hfresh : e.1 ∉ es.map (·.1) := fun hm => hnew _ hm _ (List.mem_singleton.2 rfl) rfl
    rw [collapse, List.foldl_concat, ← collapse, ih hkeys, replace_of_not_mem hfresh]

/-- Look-up joins the signatures of all entries under the normal form of the text, in order, and the size counts
normal forms. A document is a table of its members, where of members with exactly one key the last one counts, in the
place of the first. The order in which a table keeps its keys does not matter. -/
theorem entries_join_by_normal_form :
    (∀ (es : List Entry) (q : String),
      (ofEntries es).lookup q = (es.filter fun e => normalText e.1 = normalText q).flatMap (·.2)) ∧
    (∀ es : List Entry, (ofEntries es).size = (es.map fun e => normalText e.1).eraseDups.length) ∧
    (∀ (s : String) (t : Table), ofText s = .ok t ↔ ∃ es : List Entry,
      Json.parseText s = some (.record (es.map fun e => (e.1, .texts e.2))) ∧
        t = ofEntries ((es.map (·.1)).eraseDups.map fun k => (k, (es.reverse.lookup k).getD []))) ∧
    (∀ t t' : Table, t.entries.Perm t'.entries → t.size = t'.size ∧ ∀ q, t.lookup q = t'.lookup q) := by
  refine ⟨lookup_ofEntries, size_ofEntries, fun s t => ?_, fun t t' h => ⟨h.length_eq, lookup_eq_of_perm h⟩⟩
  simp only [ofText_eq_ok_iff, collapse_eq]
  rfl

/-- Two spellings of a key, the first of them twice, and a table with its keys the other way round. -/
theorem entries_join_by_normal_form_spellings :
    let s := "\x7b\"0xA9\":[\"f()\"],\"a9\":[\"g()\"],\"0xA9\":[\"h()\"]\x7d"
    let t := ofEntries [("a9", ["h()", "g()"]), ("b0", [])]
    let t' := ofEntries [("b0", []), ("a9", ["h()", "g()"])]
    (∃ t, ofText s = .ok t ∧ t.size = 1 ∧ t.lookup "0Xa9" = ["h()", "g()"]) ∧
      t.size = t'.size ∧ t.lookup "0Xa9" = t'.lookup "0Xa9" := by
  intro s t t'
  obtain ⟨lookup, size, document, order⟩ := entries_join_by_normal_form
  let es : List Entry := [("0xA9", ["f()"]), ("a9", ["g()"]), ("0xA9", ["h()"])]
  have hs : s = (Json.record (es.map member)).render := by decide
  refine ⟨⟨_, (document s _).2 ⟨es, hs ▸ parseText_document es, rfl⟩, ?_, ?_⟩, ?_⟩
  · rw [size]
    decide
  · rw [lookup]
    decide
  · obtain ⟨hsize, hlookup⟩ := order t t' (.swap ..)
    exact ⟨hsize, hlookup "0Xa9"⟩

/-- In a document without a repeated key no signature is lost. -/
theorem lookup_document (s : String) (es : List Entry)
    (hs : Json.parseText s = some (.record (es.map fun e => (e.1, .texts e.2)))) (hkeys : (es.map (·.1)).Nodup) :
    ∃ t, ofText s = .ok t ∧ ∀ q, t.lookup q = (es.filter fun e => normalText e.1 = normalText q).flatMap (·.2) := by
  refine ⟨ofEntries es, (ofText_eq_ok_iff s _).2 ⟨es, hs, ?_⟩, lookup_ofEntries es⟩
  rw [collapse_of_nodup hkeys]

/-- Three spellings of one key. -/
theorem lookup_document_spellings :
    let s := "\x7b\"0xA9\":[\"f()\"],\"a9\":[\"g()\"],\"0Xa9\":[\"h()\"]\x7d"
    ∃ t, ofText s = .ok t ∧ t.lookup "a9" = ["f()", "g()", "h()"] := by
  intro s
  let es : List Entry := [("0xA9", ["f()"]), ("a9", ["g()"]), ("0Xa9", ["h()"])]
  have hs : s = (Json.record (es.map member)).render := by decide
  obtain ⟨t, ht, hlookup⟩ := lookup_document s es (hs ▸ parseText_document es) (by decide)
  refine ⟨t, ht, ?_⟩
  rw [hlookup]
  decide

/-- A key written twice in the same way is not joined: the first of its two signatures is lost. -/
theorem lookup_repeated_key :
    let s := "\x7b\"a9059cbb\":[\"first()\"],\"a9059cbb\":[\"second()\"]\x7d"
    let es : List Entry := [("a9059cbb", ["first()"]), ("a9059cbb", ["second()"])]
    Json.parseText s = some (.record (es.map fun e => (e.1, .texts e.2))) ∧
      ∃ t, ofText s = .ok t ∧ t.lookup "a9059cbb" = ["second()"] ∧
        (es.filter fun e => normalText e.1 = normalText "a9059cbb").flatMap (·.2) = ["first()", "second()"] := by
  intro s es
  have hs : s = (Json.record (es.map member)).render := by decide
  have hparse : Json.parseText s = some (.record (es.map member)) := hs ▸ parseText_document es
  exact ⟨hparse, _, (ofText_eq_ok_iff s _).2 ⟨es, hparse, rfl⟩, by decide, by decide⟩

end Table

end ContractWatch.Signature
