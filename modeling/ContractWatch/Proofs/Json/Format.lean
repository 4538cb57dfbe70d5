import ContractWatch.Proofs.Json.Everywhere
import ContractWatch.Proofs.Json.Shape

/-!
Types whose values are exchanged as JSON text.
-/

namespace ContractWatch.Json

/-! ### Parts of records -/

theorem isPlain_text (s : String) : (text s).IsPlain := trivial

theorem isPlain_list_map {α : Type} {f : α → Json} {xs : List α} (h : ∀ x ∈ xs, (f x).IsPlain) :
    (list (xs.map f)).IsPlain := by
  refine isPlain_list.2 fun v hv => ?_
  obtain ⟨x, hx, rfl⟩ := List.mem_map.1 hv
  exact h x hx

theorem asWord?_nat (w : UInt64) : (nat w.toNat).asWord? = some w := by
  rw [asWord?, asNat_nat w.toNat_lt, Option.map_some, UInt64.ofNat_toNat]

theorem asList_texts (ss : List String) : (texts ss).asList? asText? = some ss := asList_map fun _ _ => rfl

section

variable {α : Type} {f : α → Json} {g : Json → Option α}

theorem isPlain_option (h : ∀ a, (f a).IsPlain) (o : Option α) : (option f o).IsPlain := by
  cases o with
  | none => trivial
  | some a => exact h a

theorem asOption?_of_ne {v : Json} (h : v ≠ .null) : v.asOption? g = (g v).map some := by
  cases v with
  | null => contradiction
  | _ => rfl

theorem asOptional?_option (h : ∀ a, f a ≠ .null ∧ g (f a) = some a) (o : Option α) :
    asOptional? g (some (option f o)) = some o := by
  cases o with
  | none => rfl
  | some a => rw [asOptional?, option, asOption?_of_ne (h a).1, (h a).2, Option.map_some]

theorem exists_of_asOptional? {o : Option Json} {a : α} (h : asOptional? g o = some (some a)) :
    ∃ v, o = some v ∧ g v = some a := by
  cases o with
  | none => cases h
  | some v =>
    refine ⟨v, rfl, ?_⟩
    by_cases hv : v = .null
    · subst hv
      cases h
    · rw [asOptional?, asOption?_of_ne hv] at h
      obtain ⟨b, hb, hba⟩ := Option.map_eq_some_iff.1 h
      rw [hb, hba]

end

theorem member?_of_nodup {ms : List (String × Json)} (h : (ms.map (·.1)).Nodup) (k : String) :
    member? k ms = some (ms.lookup k) := by
  induction ms with
  | nil => rfl
  | cons m ms ih =>
    obtain ⟨k', v⟩ := m
    obtain ⟨hnew, hrest⟩ := List.nodup_cons.1 h
    by_cases hk : k' = k
    · subst hk
      have hnone : ms.filter (fun m => m.1 = k') = [] :=
        List.filter_eq_nil_iff.2 fun m hm he => hnew (List.mem_map.2 ⟨m, hm, of_decide_eq_true he⟩)
      simp [member?, hnone]
    · have hne : (k == k') = false := beq_false_of_ne (Ne.symm hk)
      have hskip : member? k ((k', v) :: ms) = member? k ms := by
        rw [member?, List.filter_cons_of_neg (by simpa using hk), member?]
      rw [hskip, ih hrest, List.lookup_cons, hne]

/-- No key of a record is written twice, so that each member is found by its key. -/
theorem members?_record {ms : List (String × Json)} (h : (ms.map (·.1)).Nodup) (ks : List String) (spare : Nat) :
    (record ms).members? ks spare = some (ks.map fun k => ms.lookup k) := by
  rw [members?]
  induction ks with
  | nil => rfl
  | cons k ks ih =>
    rw [List.mapM_cons, member?_of_nodup h, ih]
    rfl

theorem lookup_of_mem {ms : List (String × Json)} (h : (ms.map (·.1)).Nodup) {m : String × Json} (hm : m ∈ ms) :
    ms.lookup m.1 = some m.2 := by
  obtain ⟨before, after, rfl⟩ := List.append_of_mem hm
  rw [List.map_append, List.nodup_append] at h
  refine List.lookup_eq_some_iff.2 ⟨before, after, rfl, fun m' hm' => bne_iff_ne.2 fun he => ?_⟩
  exact h.2.2 m'.1 (List.mem_map_of_mem hm') m.1 List.mem_cons_self he.symm

/-- A record with all of its keys, in order. -/
theorem members?_full {ks : List String} (hks : ks.Nodup) {ms : List (String × Json)} (h : ms.map (·.1) = ks)
    (spare : Nat) : (record ms).members? ks spare = some (ms.map fun m => some m.2) := by
  subst h
  rw [members?_record hks, List.map_map]
  exact congrArg some (List.map_congr_left fun m hm => lookup_of_mem hks hm)

theorem mem_of_member? {k : String} {ms : List (String × Json)} {v : Json} (h : member? k ms = some (some v)) :
    (k, v) ∈ ms := by
  unfold member? at h
  split at h
  · cases h
  · rename_i k' v' hm
    cases h
    obtain ⟨hmem, hk⟩ := List.mem_filter.1 (hm ▸ List.mem_singleton.2 rfl : (k', v) ∈ ms.filter _)
    exact of_decide_eq_true hk ▸ hmem
  · contradiction

/-- Members are parts of the value. -/
theorem Everywhere.of_members? {p : Json → Prop} {v x : Json} (hv : v.Everywhere p) {ks : List String} {spare : Nat}
    {ms : List (Option Json)} (h : v.members? ks spare = some ms) (hx : some x ∈ ms) : x.Everywhere p := by
  cases v with
  | record kvs =>
    obtain ⟨k, -, hk⟩ := exists_of_mem_mapM h hx
    exact (everywhere_record.1 hv).2 _ (mem_of_member? hk)
  | list xs =>
    rw [members?] at h
    split at h
    · cases h
      rcases List.mem_append.1 hx with hx | hx
      · obtain ⟨y, hy, hyx⟩ := List.mem_map.1 hx
        cases hyx
        exact (everywhere_list.1 hv).2 x hy
      · cases List.eq_of_mem_replicate hx
    · contradiction
  | _ => contradiction

/-! ### Formats -/

/-- How the values of a type are written, and how they are read. -/
structure Format (α : Type) where
  write : α → Json
  read? : Json → Option α

namespace Format

variable {α : Type}

def text (f : Format α) (a : α) : String := (f.write a).render

def parse? (f : Format α) (s : String) : Option α := (parseText s).bind f.read?

/-- The text for what a text spells. -/
def rewrite? (f : Format α) (s : String) : Option String := (f.parse? s).map f.text

/-- Values of the type, which fulfil `typed`, are read back, and nothing else is ever read. -/
structure Faithful (f : Format α) (typed : α → Prop) : Prop where
  isPlain {a : α} : typed a → (f.write a).IsPlain
  read_write {a : α} : typed a → f.read? (f.write a) = some a
  typed_of_read {v : Json} {a : α} : f.read? v = some a → typed a

/-- Every value is what its text spells, and a text that was written for what another text spells is written again. -/
structure RoundTrips (f : Format α) (typed : α → Prop) : Prop where
  parse_text (a : α) : typed a → f.parse? (f.text a) = some a
  rewrite_fixed (t s : String) : f.rewrite? t = some s → f.rewrite? s = some s

theorem Faithful.roundTrips {f : Format α} {typed : α → Prop} (h : f.Faithful typed) : f.RoundTrips typed := by
  have hread (a : α) (ha : typed a) : f.parse? (f.text a) = some a := by
    rw [parse?, text, parseText_render (h.isPlain ha), Option.bind_some, h.read_write ha]
  refine ⟨hread, fun t s hs => ?_⟩
  obtain ⟨a, ha, rfl⟩ := Option.map_eq_some_iff.1 hs
  obtain ⟨v, -, hv⟩ := Option.bind_eq_some_iff.1 ha
  rw [rewrite?, hread a (h.typed_of_read hv), Option.map_some]

end Format

end ContractWatch.Json
