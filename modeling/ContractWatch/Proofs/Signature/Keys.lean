import ContractWatch.Proofs.Signature.Table
import ContractWatch.Proofs.Text.Normal

/-!
Keys as a table stores them. A stored key is a normal form, which finds its own signatures where it is bare. A table
that is built again from its own entries therefore answers as before exactly if all keys with signatures are bare.
-/

namespace ContractWatch.Signature.Table

open Hex (normalText IsBare body)

/-! ### Normal forms as keys -/

theorem isBare_normalText_iff (s : String) : IsBare (normalText s).toList ↔ IsBare (body s.toList) := by
  rw [normalText, String.toList_ofList, Hex.isBare_normal_iff]

theorem normalText_normalText_iff (s : String) :
    normalText (normalText s) = normalText s ↔ IsBare (body s.toList) := by
  rw [← Hex.normal_normal_iff, normalText, normalText, String.toList_ofList]
  exact ⟨String.ofList_injective, congrArg String.ofList⟩

theorem length_normalText_le (s : String) : (normalText s).length ≤ s.length := by
  rw [normalText, String.length_ofList, ← String.length_toList]
  exact Hex.length_normal_le s.toList

theorem isBare_of_length_normalText {s : String} (h : (normalText s).length = s.length) : IsBare s.toList := by
  rw [normalText, String.length_ofList, ← String.length_toList] at h
  exact Hex.isBare_of_length_normal h

/-- A table whose keys are normal forms, as the keys of every table that is built are. -/
def HasNormalKeys (t : Table) : Prop := ∀ e ∈ t.entries, ∃ s, normalText s = e.1

theorem hasNormalKeys_ofEntries (es : List Entry) : (ofEntries es).HasNormalKeys := by
  intro e he
  have hmem : e.1 ∈ (ofEntries es).entries.map (·.1) := List.mem_map.2 ⟨e, he, rfl⟩
  rw [keys_ofEntries, List.mem_eraseDups] at hmem
  obtain ⟨e', -, h⟩ := List.mem_map.1 hmem
  exact ⟨e'.1, h⟩

theorem hasNormalKeys_of_ofText {s : String} {t : Table} (h : ofText s = .ok t) : t.HasNormalKeys := by
  obtain ⟨es, -, rfl⟩ := (ofText_eq_ok_iff s t).1 h
  exact hasNormalKeys_ofEntries _

variable {t : Table} {e : Entry}

theorem HasNormalKeys.normalText_of_isBare (ht : t.HasNormalKeys) (he : e ∈ t.entries) (hbare : IsBare e.1.toList) :
    normalText e.1 = e.1 := by
  obtain ⟨s, hs⟩ := ht e he
  rw [← hs] at hbare ⊢
  exact (normalText_normalText_iff s).2 ((isBare_normalText_iff s).1 hbare)

/-! ### Look-up of stored keys -/

theorem lookup_of_mem (he : e ∈ t.entries) {q : String} (hq : normalText q = e.1) : t.lookup q = e.2 := by
  rw [lookup, hq, (lookup_eq_some_iff_mem t.keys_nodup).2 he, Option.getD_some]

theorem exists_of_lookup_ne_nil {q : String} (h : t.lookup q ≠ []) :
    ∃ e ∈ t.entries, e.1 = normalText q ∧ e.2 = t.lookup q := by
  cases hl : t.entries.lookup (normalText q) with
  | none => exact absurd (by rw [lookup, hl, Option.getD_none]) h
  | some ss => exact ⟨_, (lookup_eq_some_iff_mem t.keys_nodup).1 hl, rfl, by rw [lookup, hl, Option.getD_some]⟩

/-! ### Tables built again -/

theorem flatMap_filter_key {es : List Entry} (hkeys : (es.map (·.1)).Nodup) (k : String) :
    (es.filter fun e => e.1 = k).flatMap (·.2) = (es.lookup k).getD [] := by
  induction es with
  | nil => rfl
  | cons e es ih =>
    obtain ⟨hnew, hrest⟩ := List.nodup_cons.1 hkeys
    rw [List.lookup_cons]
    by_cases hk : e.1 = k
    · have hnone : (es.filter fun e => e.1 = k) = [] := by
        refine List.filter_eq_nil_iff.2 fun e' he' h => hnew ?_
        exact List.mem_map.2 ⟨e', he', (of_decide_eq_true h).trans hk.symm⟩
      simp [hk, hnone]
    · simp [hk, beq_false_of_ne (Ne.symm hk), ih hrest]

/-- Entries without signatures have no part in what is collected. -/
theorem flatMap_filter_congr {es : List Entry} {p p' : Entry → Bool} (h : ∀ e ∈ es, e.2 ≠ [] → p e = p' e) :
    (es.filter p).flatMap (·.2) = (es.filter p').flatMap (·.2) := by
  induction es with
  | nil => rfl
  | cons e es ih =>
    have hrest := ih fun e' he' => h e' (List.mem_cons_of_mem _ he')
    by_cases hss : e.2 = []
    · cases hp : p e <;> cases hp' : p' e <;> simp [hp, hp', hss, hrest]
    · rw [List.filter_cons, List.filter_cons, h e List.mem_cons_self hss]
      split
      · rw [List.flatMap_cons, List.flatMap_cons, hrest]
      · exact hrest

theorem lookup_ofEntries_of_isBare (ht : t.HasNormalKeys) {es : List Entry} (hes : es.Perm t.entries)
    (hbare : ∀ e ∈ t.entries, e.2 ≠ [] → IsBare e.1.toList) (q : String) : (ofEntries es).lookup q = t.lookup q := by
  have hkeys : (es.map (·.1)).Nodup := (hes.map _).nodup_iff.2 t.keys_nodup
  have hsame : es.lookup (normalText q) = t.entries.lookup (normalText q) := by
    ext ss
    rw [lookup_eq_some_iff_mem hkeys, lookup_eq_some_iff_mem t.keys_nodup, hes.mem_iff]
  have hstored : t.lookup q = (es.filter fun e => e.1 = normalText q).flatMap (·.2) := by
    rw [flatMap_filter_key hkeys, hsame, lookup]
  rw [hstored, lookup_ofEntries]
  refine flatMap_filter_congr fun e he hss => ?_
  have hmem := hes.mem_iff.1 he
  rw [ht.normalText_of_isBare hmem (hbare e hmem hss)]

/-- Signatures of two keys that have one normal form come together. -/
theorem length_lookup_ofEntries {es : List Entry} {e e' : Entry} (he : e ∈ es) (he' : e' ∈ es) (hne : e ≠ e')
    (q : String) (h : normalText e.1 = normalText q) (h' : normalText e'.1 = normalText q) :
    e.2.length + e'.2.length ≤ ((ofEntries es).lookup q).length := by
  let met := es.filter fun e => normalText e.1 = normalText q
  have hmem : e ∈ met := List.mem_filter.2 ⟨he, decide_eq_true h⟩
  have hmem' : e' ∈ met.erase e := (List.mem_erase_of_ne hne.symm).2 (List.mem_filter.2 ⟨he', decide_eq_true h'⟩)
  have hperm : met.Perm (e :: e' :: (met.erase e).erase e') :=
    (List.perm_cons_erase hmem).trans ((List.perm_cons_erase hmem').cons e)
  rw [lookup_ofEntries, (hperm.flatMap_right (·.2)).length_eq, List.flatMap_cons, List.flatMap_cons,
    List.length_append, List.length_append]
  omega

/-- The signatures of a key that is not bare come under a shorter key, where they are found besides those that it has. -/
theorem isBare_of_lookup_ofEntries (ht : t.HasNormalKeys) {es : List Entry} (hes : es.Perm t.entries)
    (h : ∀ q, (ofEntries es).lookup q = t.lookup q) (e : Entry) (he : e ∈ t.entries) (hss : e.2 ≠ []) :
    IsBare e.1.toList := by
  induction hn : e.1.length using Nat.strongRecOn generalizing e with
  | ind n ih =>
    subst hn
    by_contra hbare
    have hshort : (normalText e.1).length < e.1.length :=
      Nat.lt_of_le_of_ne (length_normalText_le _) fun hlen => hbare (isBare_of_length_normalText hlen)
    have hfound : t.lookup e.1 ≠ [] := by
      rw [← h, lookup_ofEntries]
      intro hnil
      exact hss (List.flatMap_eq_nil_iff.1 hnil e (List.mem_filter.2 ⟨hes.mem_iff.2 he, decide_eq_true rfl⟩))
    obtain ⟨e', he', hkey, hss'⟩ := exists_of_lookup_ne_nil hfound
    rw [← hkey] at hshort
    have hself : normalText e'.1 = e'.1 :=
      ht.normalText_of_isBare he' (ih _ hshort e' he' (by rwa [hss']) rfl)
    have hne : e ≠ e' := by
      rintro rfl
      exact Nat.lt_irrefl _ hshort
    have hlen := length_lookup_ofEntries (hes.mem_iff.2 he) (hes.mem_iff.2 he') hne e.1 rfl (hself.trans hkey)
    rw [h, ← hss'] at hlen
    have hpos := List.length_pos_iff.2 hss
    omega

/-- Taking the normal form of a text twice changes nothing exactly if what is left of the text after one mark begins with
no blank and no other mark; then the normal form is bare. Every stored key belongs to the signatures that all its
spellings find, and it finds them itself if it is bare. A table built again from its entries, in any order, answers as
before exactly if its keys with signatures are all bare. -/
theorem stored_keys_bare (s : String) {t : Table} (ht : (∃ es, t = ofEntries es) ∨ ∃ s, ofText s = .ok t) :
    (normalText (normalText s) = normalText s ↔ IsBare (Hex.strip (Text.trim s.toList))) ∧
    (IsBare (normalText s).toList ↔ IsBare (Hex.strip (Text.trim s.toList))) ∧
    (∀ e ∈ t.entries, (∀ q, normalText q = e.1 → t.lookup q = e.2) ∧ (IsBare e.1.toList → t.lookup e.1 = e.2)) ∧
    ∀ es : List Entry, es.Perm t.entries →
      ((∀ q, (ofEntries es).lookup q = t.lookup q) ↔ ∀ e ∈ t.entries, e.2 ≠ [] → IsBare e.1.toList) := by
  have hkeys : t.HasNormalKeys := by
    obtain ⟨es, rfl⟩ | ⟨s, hs⟩ := ht
    · exact hasNormalKeys_ofEntries es
    · exact hasNormalKeys_of_ofText hs
  refine ⟨normalText_normalText_iff s, isBare_normalText_iff s, fun e he => ⟨fun q hq => ?_, fun hbare => ?_⟩,
    fun es hes => ⟨?_, ?_⟩⟩
  · exact lookup_of_mem he hq
  · exact lookup_of_mem he (hkeys.normalText_of_isBare he hbare)
  · exact isBare_of_lookup_ofEntries hkeys hes
  · exact lookup_ofEntries_of_isBare hkeys hes

/-- A document with two spellings of a key, and its table built again with the keys the other way round. -/
theorem stored_keys_bare_spellings :
    let s := "\x7b\"0xA9\":[\"f()\"],\"b0\":[],\" a9\":[\"g()\"]\x7d"
    ∃ t, ofText s = .ok t ∧ ("a9", ["f()", "g()"]) ∈ t.entries ∧ t.lookup "a9" = ["f()", "g()"] ∧
      (ofEntries [("b0", []), ("a9", ["f()", "g()"])]).lookup "0XA9" = t.lookup "0XA9" := by
  intro s
  let es : List Entry := [("0xA9", ["f()"]), ("b0", []), (" a9", ["g()"])]
  have hs : s = (Json.record (es.map member)).render := by decide
  have hread : ofText s = .ok (ofEntries es) :=
    (ofText_eq_ok_iff s _).2 ⟨es, hs ▸ parseText_document es, rfl⟩
  have hentries : (ofEntries es).entries = [("a9", ["f()", "g()"]), ("b0", [])] := by decide
  obtain ⟨-, -, found, rebuilt⟩ := stored_keys_bare "0xA9" (.inr ⟨s, hread⟩)
  have hmem : ("a9", ["f()", "g()"]) ∈ (ofEntries es).entries := by simp [hentries]
  have ha9 : IsBare ['a', '9'] := (Hex.isBare_iff _).2 (by decide)
  refine ⟨_, hread, hmem, (found _ hmem).2 ha9, (rebuilt _ ?_).2 ?_ "0XA9"⟩
  · rw [hentries]
    exact .swap ..
  · simpa [hentries] using ha9

/-- Of two marks one is left, so that a stored key does not find its signatures, nor does a table that is built again. -/
theorem stored_key_not_found :
    let s := "\x7b\"0x0xa9059cbb\":[\"f()\"]\x7d"
    ∃ t, ofText s = .ok t ∧ t.entries = [("0xa9059cbb", ["f()"])] ∧ t.lookup "0xa9059cbb" = [] ∧
      (ofEntries t.entries).lookup "0x0xa9059cbb" ≠ t.lookup "0x0xa9059cbb" ∧
      normalText (normalText "0x0xa9059cbb") ≠ normalText "0x0xa9059cbb" := by
  intro s
  let es : List Entry := [("0x0xa9059cbb", ["f()"])]
  have hs : s = (Json.record (es.map member)).render := by decide
  refine ⟨ofEntries es, (ofText_eq_ok_iff s _).2 ⟨es, hs ▸ parseText_document es, rfl⟩, ?_⟩
  exact ⟨by decide, by decide, by decide, by decide⟩

end ContractWatch.Signature.Table
