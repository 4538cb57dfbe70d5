import ContractWatch.Proofs.Code.WellFormed

/-!
The strict sweep beside the lenient one. Only the last instruction of a code can be short of data, so the strict
sweep fails at the end of the code or not at all, and where it does not fail it reads what the lenient one reads.
-/

namespace ContractWatch

theorem Opcode.mnemonic_push {op : UInt8} (h : isPush op = true) : mnemonic op = "PUSH" ++ Decimal.text (width op) := by
  have hnames : ∀ p ∈ names, isPush p.1 = false := by decide
  have hlookup : names.lookup op = none := by
    rw [List.lookup_eq_none_iff]
    intro p hp
    apply bne_iff_ne.2
    rintro rfl
    exact absurd (hnames p hp) (by simp [h])
  have hrange := (isPush_iff op).1 h
  have hle : 0x60 ≤ op.toNat := hrange.1
  have hnumber : op.toNat - 0x60 + 1 = width op := by
    rw [width_of_push hrange]
    omega
  rw [mnemonic, hlookup, ← hnumber]
  simp [families, hrange]

namespace Instruction

/-- A push with fewer bytes of data than it declares. -/
structure IsShort (i : Instruction) : Prop where
  push : 0x60 ≤ i.opcode ∧ i.opcode ≤ 0x7f
  length_lt : ∃ bs, i.data = some bs ∧ bs.length < i.opcode.toNat - 0x5f

variable {i : Instruction} {pc : Nat} {op : UInt8} {code rest : List UInt8} {acc : List Instruction}

theorem Sound.isShort_iff (h : i.Sound) : i.IsShort ↔ ¬ i.IsFull := by
  constructor
  · rintro ⟨-, bs, hbs, hlt⟩ hfull
    exact absurd (hfull bs hbs) (Nat.ne_of_lt hlt)
  · intro hshort
    cases hd : i.data with
    | none => exact absurd (fun bs hbs => by simp [hd] at hbs) hshort
    | some bs =>
      have hne : bs.length ≠ i.opcode.toNat - 0x5f := by
        intro he
        apply hshort
        intro bs' hbs'
        rw [hd] at hbs'
        exact Option.some.inj hbs' ▸ he
      exact ⟨h.push_iff.1 (by simp [hd]), bs, hd, Nat.lt_of_le_of_ne (h.length_le bs hd) hne⟩

theorem not_isFull_read (h : rest.length < Opcode.width op) : ¬ (read pc op rest).IsFull := by
  intro hfull
  cases hpush : Opcode.isPush op with
  | false => simp [Opcode.width, hpush] at h
  | true =>
    have hdata : (read pc op rest).data = some (rest.take (Opcode.width op)) := by
      simp [read, Opcode.width?, hpush]
    have hlen := hfull _ hdata
    rw [List.length_take, Nat.min_eq_right (Nat.le_of_lt h)] at hlen
    rw [Opcode.width_of_push ((Opcode.isPush_iff op).1 hpush)] at h
    exact absurd hlen (Nat.ne_of_lt h)

theorem strictSweepOnto_of_full (h : ∀ i ∈ sweep pc code, i.IsFull) :
    strictSweepOnto acc pc code = .ok ((sweep pc code).reverse ++ acc) := by
  fun_induction strictSweepOnto acc pc code with
  | case1 acc pc => simp [sweep]
  | case2 acc pc op rest hlt =>
    rw [List.length_take] at hlt
    exact absurd (h _ (by rw [sweep]; exact List.mem_cons_self)) (not_isFull_read (by omega))
  | case3 acc pc op rest hlt ih =>
    rw [sweep] at h ⊢
    rw [ih fun i hi => h i (List.mem_cons_of_mem _ hi)]
    simp

/-- The strict sweep gets past all instructions before the short one. -/
theorem strictSweepOnto_of_short {init : List Instruction} {last : Instruction} (h : sweep pc code = init ++ [last])
    (hshort : ¬ last.IsFull) :
    strictSweepOnto acc pc code = .error ⟨last.opcode, last.pc, pc + code.length - last.pc - 1⟩ := by
  fun_induction strictSweepOnto acc pc code generalizing init with
  | case1 acc pc => simp [sweep] at h
  | case2 acc pc op rest hlt =>
    rw [List.length_take] at hlt
    -- the short push takes all that is left, so it is the last instruction of the lenient list too
    rw [sweep_last (by omega)] at h
    obtain ⟨rfl, rfl⟩ : init = [] ∧ last = read pc op rest := by
      cases init with
      | nil => exact ⟨rfl, (List.cons.inj h).1.symm⟩
      | cons j js => simp at h
    congr
    simp only [read, List.length_cons]
    omega
  | case3 acc pc op rest hlt ih =>
    rw [List.length_take] at hlt
    rw [sweep] at h
    cases init with
    -- an instruction that got past the check has all of its data, so more must follow it
    | nil => exact absurd ((List.cons.inj h).1 ▸ isFull_read (by omega)) hshort
    | cons j js =>
      rw [ih (List.cons.inj h).2, List.length_drop, List.length_cons]
      congr 3
      omega

/-- Every push has all the data that it declares. -/
def Complete (is : List Instruction) : Prop :=
  ∀ i ∈ is, 0x60 ≤ i.opcode ∧ i.opcode ≤ 0x7f → ∃ bs, i.data = some bs ∧ bs.length = i.opcode.toNat - 0x5f

theorem complete_decode_iff : Complete (decode code) ↔ ∀ i ∈ decode code, i.IsFull := by
  have hsound := (wellFormed_decode code).sound
  constructor
  · intro h i hi bs hbs
    obtain ⟨bs', hbs', hlen⟩ := h i hi ((hsound i hi).push_iff.1 (by simp [hbs]))
    rw [hbs] at hbs'
    exact Option.some.inj hbs' ▸ hlen
  · intro h i hi hpush
    obtain ⟨bs, hbs⟩ := Option.isSome_iff_exists.1 ((hsound i hi).push_iff.2 hpush)
    exact ⟨bs, hbs, h i hi bs hbs⟩

theorem strictDecode_of_complete (h : Complete (decode code)) : strictDecode code = .ok (decode code) := by
  have hfull := complete_decode_iff.1 h
  rw [decode_eq_sweep] at hfull ⊢
  rw [strictDecode, strictSweepOnto_of_full hfull]
  simp [Except.map]

theorem strictDecode_of_not_complete (h : ¬ Complete (decode code)) :
    ∃ init last, decode code = init ++ [last] ∧ last.IsShort ∧ (∀ i ∈ init, ¬ i.IsShort) ∧
      strictDecode code = .error ⟨last.opcode, last.pc, code.length - last.pc - 1⟩ := by
  have hwell := wellFormed_decode code
  have hne : decode code ≠ [] := by
    intro hnil
    exact h fun i hi => by simp [hnil] at hi
  have heq := (List.dropLast_concat_getLast hne).symm
  have hlast : ¬ ((decode code).getLast hne).IsFull := by
    intro hfull
    apply h
    rw [complete_decode_iff, heq]
    intro i hi
    obtain hi | hi := List.mem_append.1 hi
    · exact hwell.full i hi
    · exact List.mem_singleton.1 hi ▸ hfull
  refine ⟨_, _, heq, ?_, fun i hi => ?_, ?_⟩
  · exact (hwell.sound _ (List.getLast_mem hne)).isShort_iff.2 hlast
  · intro hshort
    exact (hwell.sound i (List.dropLast_subset _ hi)).isShort_iff.1 hshort (hwell.full i hi)
  · have hsweep := (decode_eq_sweep code).symm.trans heq
    rw [strictDecode, strictSweepOnto_of_short hsweep hlast, Nat.zero_add]
    rfl

theorem strict_isOk_iff : (∃ is, Decoder.strict code = .ok is) ↔ Complete (decode code) := by
  constructor
  · rintro ⟨is, his⟩
    refine Classical.byContradiction fun h => ?_
    obtain ⟨_, _, _, _, _, herror⟩ := strictDecode_of_not_complete h
    rw [Decoder.strict, herror] at his
    contradiction
  · intro h
    refine ⟨decode code, ?_⟩
    rw [Decoder.strict, strictDecode_of_complete h]
    rfl

/-- The strict decoder accepts a code exactly if every push in the lenient list has all of its data, and then gives
the same list. Otherwise that list ends with the only push that is short, and the failure names it. -/
theorem strict_agrees (code : List UInt8) :
    ∃ is, Decoder.lenient code = .ok is ∧
      ((∃ js, Decoder.strict code = .ok js) ↔ Complete is) ∧
      (∀ js, Decoder.strict code = .ok js → js = is) ∧
      (¬ Complete is → ∃ init last n, is = init ++ [last] ∧ last.IsShort ∧ (∀ i ∈ init, ¬ i.IsShort) ∧
        n = last.opcode.toNat - 0x5f ∧ last.mnemonic = "PUSH" ++ Decimal.text n ∧
        Decoder.strict code = .error ⟨.decode, last.mnemonic ++ " em 0x" ++ String.ofList (Hex.natDigits last.pc) ++
          " exige " ++ Decimal.text n ++ " bytes, restam " ++ Decimal.text (code.length - last.pc - 1)⟩) := by
  refine ⟨decode code, rfl, ?_⟩
  by_cases h : Complete (decode code)
  · have hstrict : Decoder.strict code = .ok (decode code) := by
      rw [Decoder.strict, strictDecode_of_complete h]
      rfl
    refine ⟨⟨fun _ => h, fun _ => ⟨_, hstrict⟩⟩, fun js hjs => ?_, fun hn => absurd h hn⟩
    rw [hstrict] at hjs
    exact (Except.ok.inj hjs).symm
  · obtain ⟨init, last, heq, hshort, hinit, herror⟩ := strictDecode_of_not_complete h
    have hwidth := Opcode.width_of_push hshort.push
    have hstrict : Decoder.strict code =
        .error ⟨.decode, ShortPush.message ⟨last.opcode, last.pc, code.length - last.pc - 1⟩⟩ := by
      rw [Decoder.strict, herror]
      rfl
    refine ⟨⟨?_, fun hc => absurd hc h⟩, ?_, fun _ => ?_⟩
    · rintro ⟨js, hjs⟩
      rw [hstrict] at hjs
      contradiction
    · intro js hjs
      rw [hstrict] at hjs
      contradiction
    · refine ⟨init, last, _, heq, hshort, hinit, hwidth, ?_, hstrict⟩
      exact Opcode.mnemonic_push ((Opcode.isPush_iff _).2 hshort.push)

/-- A push that is two bytes short, and one that the end of the code just leaves whole. -/
theorem strict_agrees_push4 :
    Decoder.strict [0x00, 0x63, 0xaa, 0xbb] = .error ⟨.decode, "PUSH4 em 0x1 exige 4 bytes, restam 2"⟩ ∧
      Decoder.strict [0x61, 0xaa, 0xbb] = .ok [⟨0, 0x61, some [0xaa, 0xbb]⟩] := by
  have hcut : decode [0x00, 0x63, 0xaa, 0xbb] = [⟨0, 0x00, none⟩, ⟨1, 0x63, some [0xaa, 0xbb]⟩] := by
    simp [decode, sweepOnto, read, Opcode.width, Opcode.width?, Opcode.isPush]
  have hwhole : decode [0x61, 0xaa, 0xbb] = [⟨0, 0x61, some [0xaa, 0xbb]⟩] := decode_last (by decide)
  constructor
  · obtain ⟨is, his, -, -, hfails⟩ := strict_agrees [0x00, 0x63, 0xaa, 0xbb]
    obtain rfl := (Except.ok.inj his).symm.trans hcut
    obtain ⟨init, last, n, heq, -, -, rfl, -, herror⟩ := hfails (by simp [Complete])
    have hlast := congrArg List.getLast? heq
    rw [List.getLast?_concat] at hlast
    obtain rfl := Option.some.inj hlast
    rw [herror]
    rfl
  · obtain ⟨is, his, hiff, hsame, -⟩ := strict_agrees [0x61, 0xaa, 0xbb]
    obtain rfl := (Except.ok.inj his).symm.trans hwhole
    obtain ⟨js, hjs⟩ := hiff.2 (by simp [Complete])
    rw [hjs, hsame js hjs]

end Instruction

end ContractWatch
