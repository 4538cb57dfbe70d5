import ContractWatch.Proofs.Code.Sweep

/-!
The lists of instructions that codes have. They are told without the sweep: instructions lie one behind the other,
pushes and nothing else have data, and only at the very end data may be short. The sweep is a bijection onto these
lists, and its inverse writes the instructions down again.
-/

namespace ContractWatch

namespace Opcode

theorem isPush_iff (op : UInt8) : isPush op = true ↔ 0x60 ≤ op ∧ op ≤ 0x7f := by
  simp [isPush]

theorem width_of_push {op : UInt8} (h : 0x60 ≤ op ∧ op ≤ 0x7f) : width op = op.toNat - 0x5f :=
  if_pos ((isPush_iff op).2 h)

theorem width_of_not_push {op : UInt8} (h : ¬ (0x60 ≤ op ∧ op ≤ 0x7f)) : width op = 0 :=
  if_neg (mt (isPush_iff op).1 h)

end Opcode

namespace Instruction

/-- A push has data, at most as many bytes as it declares, and no other operation has. -/
structure Sound (i : Instruction) : Prop where
  push_iff : i.data.isSome = true ↔ 0x60 ≤ i.opcode ∧ i.opcode ≤ 0x7f
  length_le : ∀ bs, i.data = some bs → bs.length ≤ i.opcode.toNat - 0x5f

/-- None of the data is missing. -/
def IsFull (i : Instruction) : Prop := ∀ bs, i.data = some bs → bs.length = i.opcode.toNat - 0x5f

/-- Sound instructions side by side from `pc` on, all of them full but possibly the last one. -/
structure WellFormed (pc : Nat) (is : List Instruction) : Prop where
  adjacent : Adjacent pc is
  sound : ∀ i ∈ is, i.Sound
  full : ∀ i ∈ is.dropLast, i.IsFull

variable {i : Instruction} {is : List Instruction} {pc : Nat} {op : UInt8} {rest : List UInt8}

theorem adjacent_cons : Adjacent pc (i :: is) ↔ pc = i.pc ∧ Adjacent (i.pc + i.bytes.length) is := by
  constructor
  · intro h
    cases h with
    | cons h => exact ⟨rfl, h⟩
  · rintro ⟨rfl, h⟩
    exact .cons h

/-! ### What the sweep reads -/

theorem sound_read (pc : Nat) (op : UInt8) (rest : List UInt8) : (read pc op rest).Sound where
  push_iff := by simp [read, Opcode.width?, Opcode.isPush_iff]
  length_le bs h := by
    simp only [read, Opcode.width?, Option.map_eq_some_iff, Option.ite_none_right_eq_some] at h
    obtain ⟨w, ⟨hpush, hw⟩, rfl⟩ := h
    rw [List.length_take, ← Option.some.inj hw, Opcode.width_of_push ((Opcode.isPush_iff op).1 hpush)]
    exact Nat.min_le_left _ _

/-- Data that do not reach the end of the code are all there. -/
theorem isFull_read (h : Opcode.width op ≤ rest.length) : (read pc op rest).IsFull := by
  intro bs hbs
  simp only [read, Opcode.width?, Option.map_eq_some_iff, Option.ite_none_right_eq_some] at hbs
  obtain ⟨w, ⟨hpush, hw⟩, rfl⟩ := hbs
  rw [List.length_take, ← Option.some.inj hw, Nat.min_eq_left h,
    Opcode.width_of_push ((Opcode.isPush_iff op).1 hpush)]
  rfl

theorem sound_of_mem_sweep {code : List UInt8} (h : i ∈ sweep pc code) : i.Sound := by
  fun_induction sweep pc code with
  | case1 pc => contradiction
  | case2 pc op rest ih =>
    obtain rfl | h := List.mem_cons.1 h
    · exact sound_read pc op rest
    · exact ih h

theorem isFull_of_mem_dropLast_sweep {code : List UInt8} (h : i ∈ (sweep pc code).dropLast) : i.IsFull := by
  fun_induction sweep pc code with
  | case1 pc => contradiction
  | case2 pc op rest ih =>
    -- An instruction that is not the last one leaves something to sweep behind its data.
    cases hs : sweep (pc + 1 + Opcode.width op) (rest.drop (Opcode.width op)) with
    | nil => simp [hs] at h
    | cons j js =>
      rw [hs, List.dropLast_cons_cons, List.mem_cons] at h
      obtain rfl | h := h
      · refine isFull_read (Nat.le_of_not_lt fun hlt => ?_)
        rw [List.drop_eq_nil_of_le (Nat.le_of_lt hlt), sweep] at hs
        contradiction
      · exact ih (hs ▸ h)

theorem wellFormed_decode (code : List UInt8) : WellFormed 0 (decode code) := by
  rw [decode_eq_sweep]
  exact ⟨adjacent_sweep 0 code, fun _ => sound_of_mem_sweep, fun _ => isFull_of_mem_dropLast_sweep⟩

/-! ### Reading back what was written -/

theorem Sound.width_of_data (h : i.Sound) {bs : List UInt8} (hd : i.data = some bs) :
    Opcode.width? i.opcode = some (Opcode.width i.opcode) ∧ Opcode.width i.opcode = i.opcode.toNat - 0x5f := by
  have hpush := h.push_iff.1 (by simp [hd])
  simp [Opcode.width?, (Opcode.isPush_iff _).2 hpush, Opcode.width_of_push hpush]

theorem Sound.width_of_none (h : i.Sound) (hd : i.data = none) :
    Opcode.width? i.opcode = none ∧ Opcode.width i.opcode = 0 := by
  have hpush : ¬ (0x60 ≤ i.opcode ∧ i.opcode ≤ 0x7f) := by simp [← h.push_iff, hd]
  exact ⟨if_neg (mt (Opcode.isPush_iff _).1 hpush), Opcode.width_of_not_push hpush⟩

/-- The sweep finds the end of an instruction, by its width or because the code ends there. -/
theorem Sound.sweep_bytes (h : i.Sound) (hend : i.IsFull ∨ rest = []) :
    sweep i.pc (i.bytes ++ rest) = i :: sweep (i.pc + i.bytes.length) rest := by
  obtain ⟨pc, op, data⟩ := i
  cases data with
  | none =>
    obtain ⟨hnone, hzero⟩ := h.width_of_none rfl
    simp only at hnone hzero
    simp [bytes, sweep, read, hnone, hzero]
  | some bs =>
    obtain ⟨hsome, hwidth⟩ := h.width_of_data rfl
    simp only at hsome hwidth
    rw [bytes, Option.getD_some, List.cons_append, sweep, read, hsome, Option.map_some, hwidth]
    obtain hfull | rfl := hend
    · have hlen : bs.length = op.toNat - 0x5f := hfull bs rfl
      rw [List.take_left' hlen, List.drop_left' hlen, List.length_cons, hlen, Nat.add_right_comm, Nat.add_assoc]
    · have hlen : bs.length ≤ op.toNat - 0x5f := h.length_le bs rfl
      rw [List.append_nil, List.take_of_length_le hlen, List.drop_of_length_le hlen, sweep, sweep]

theorem WellFormed.tail (h : WellFormed pc (i :: is)) : WellFormed (i.pc + i.bytes.length) is where
  adjacent := (adjacent_cons.1 h.adjacent).2
  sound j hj := h.sound j (List.mem_cons_of_mem i hj)
  full j hj := by
    cases is with
    | nil => contradiction
    | cons k ks => exact h.full j (List.mem_cons_of_mem i hj)

theorem WellFormed.sweep_assemble (h : WellFormed pc is) : sweep pc (assemble is) = is := by
  induction is generalizing pc with
  | nil => simp [assemble, sweep]
  | cons i is ih =>
    have hend : i.IsFull ∨ assemble is = [] := by
      cases is with
      | nil => exact .inr rfl
      | cons j js => exact .inl (h.full i (by simp))
    rw [(adjacent_cons.1 h.adjacent).1, assemble_cons, (h.sound i List.mem_cons_self).sweep_bytes hend, ih h.tail]

/-- Cutting a code into instructions and writing instructions down undo each other. -/
theorem decode_bijective :
    (∀ code, ∃ is, Decoder.lenient code = .ok is ∧ WellFormed 0 is ∧ assemble is = code) ∧
      ∀ is, WellFormed 0 is → Decoder.lenient (assemble is) = .ok is := by
  constructor
  · intro code
    exact ⟨decode code, rfl, wellFormed_decode code, assemble_decode code⟩
  · intro is h
    rw [Decoder.lenient, decode_eq_sweep, h.sweep_assemble]

theorem decode_bijective_emptyPush :
    let is : List Instruction := [⟨0, 0x61, some [0x01, 0x02]⟩, ⟨3, 0x00, none⟩, ⟨4, 0x7f, some []⟩]
    WellFormed 0 is ∧ Decoder.lenient [0x61, 0x01, 0x02, 0x00, 0x7f] = .ok is := by
  intro is
  have h : WellFormed 0 is := {
    adjacent := by simp [is, adjacent_cons, bytes, Adjacent.nil]
    sound := fun i hi => by
      obtain rfl | rfl | rfl := by simpa [is] using hi
      all_goals exact ⟨by decide, fun bs hbs => by cases hbs <;> decide⟩
    full := fun i hi => by
      obtain rfl | rfl := by simpa [is] using hi
      all_goals exact fun bs hbs => by cases hbs <;> rfl }
  exact ⟨h, decode_bijective.2 is h⟩

end Instruction

end ContractWatch
