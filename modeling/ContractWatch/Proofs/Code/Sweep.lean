import ContractWatch.Code.Instruction

/-!
The sweep and the instruction boundaries of a code. A boundary is the start of the code, or what follows an
instruction at a boundary together with the data that it declares; the sweep reads an instruction at every boundary
inside the code and at no other place.
-/

namespace ContractWatch

inductive Boundary (code : List UInt8) : Nat → Prop
  | start : Boundary code 0
  | next {p op} : Boundary code p → code[p]? = some op → Boundary code (p + 1 + Opcode.width op)

namespace Instruction

/-- The instructions of the code from `pc` on. -/
def sweep (pc : Nat) : List UInt8 → List Instruction
  | [] => []
  | op :: rest => read pc op rest :: sweep (pc + 1 + Opcode.width op) (rest.drop (Opcode.width op))
termination_by code => code.length
decreasing_by simp only [List.length_cons, List.length_drop]; omega

theorem sweepOnto_eq (acc : List Instruction) (pc : Nat) (code : List UInt8) :
    sweepOnto acc pc code = (sweep pc code).reverse ++ acc := by
  fun_induction sweepOnto acc pc code with
  | case1 acc pc => simp [sweep]
  | case2 acc pc op rest ih => simp [sweep, ih]

theorem decode_eq_sweep (code : List UInt8) : decode code = sweep 0 code := by
  simp [decode, sweepOnto_eq]

/-- Nothing follows a push that declares all that is left of the code. -/
theorem sweep_last {pc : Nat} {op : UInt8} {rest : List UInt8} (h : rest.length ≤ Opcode.width op) :
    sweep pc (op :: rest) = [read pc op rest] := by
  rw [sweep, List.drop_eq_nil_of_le h, sweep]

theorem decode_last {op : UInt8} {rest : List UInt8} (h : rest.length ≤ Opcode.width op) :
    decode (op :: rest) = [read 0 op rest] := by
  rw [decode_eq_sweep, sweep_last h]

theorem drop_eq_cons_of_getElem? {code : List UInt8} {p : Nat} {op : UInt8} (h : code[p]? = some op) :
    code.drop p = op :: code.drop (p + 1) := by
  obtain ⟨hp, rfl⟩ := List.getElem?_eq_some_iff.1 h
  exact List.drop_eq_getElem_cons hp

theorem sweep_drop_of_getElem? {code : List UInt8} {p : Nat} {op : UInt8} (h : code[p]? = some op) :
    sweep p (code.drop p) =
      read p op (code.drop (p + 1)) :: sweep (p + 1 + Opcode.width op) (code.drop (p + 1 + Opcode.width op)) := by
  rw [drop_eq_cons_of_getElem? h, sweep, List.drop_drop]

/-- What the sweep finds from a boundary on ends the list of all instructions. -/
theorem sweep_suffix_decode {code : List UInt8} {p : Nat} (h : Boundary code p) :
    sweep p (code.drop p) <:+ decode code := by
  induction h with
  | start => rw [decode_eq_sweep]; exact List.suffix_refl _
  | next _ hp ih =>
    rw [sweep_drop_of_getElem? hp] at ih
    exact (List.suffix_cons _ _).trans ih

theorem boundary_of_mem_sweep {code : List UInt8} {p : Nat} {i : Instruction} (hp : Boundary code p)
    (hi : i ∈ sweep p (code.drop p)) :
    ∃ op, Boundary code i.pc ∧ code[i.pc]? = some op ∧ i = read i.pc op (code.drop (i.pc + 1)) := by
  cases h : code[p]? with
  | none => simp [List.drop_eq_nil_of_le (List.getElem?_eq_none_iff.1 h), sweep] at hi
  | some op =>
    have := (List.getElem?_eq_some_iff.1 h).1
    rw [sweep_drop_of_getElem? h, List.mem_cons] at hi
    obtain rfl | hi := hi
    · exact ⟨op, hp, h, rfl⟩
    · exact boundary_of_mem_sweep (hp.next h) hi
termination_by code.length - p

/-- The instructions of a code are those that stand at its boundaries. -/
theorem mem_decode_iff {code : List UInt8} {i : Instruction} :
    i ∈ decode code ↔
      ∃ op, Boundary code i.pc ∧ code[i.pc]? = some op ∧ i = read i.pc op (code.drop (i.pc + 1)) := by
  constructor
  · intro hi
    rw [decode_eq_sweep] at hi
    exact boundary_of_mem_sweep .start hi
  · rintro ⟨op, hb, hop, hi⟩
    apply (sweep_suffix_decode hb).mem
    rw [sweep_drop_of_getElem? hop, hi]
    exact List.mem_cons_self

/-! ### The bytes of the instructions -/

@[simp] theorem assemble_cons (i : Instruction) (is : List Instruction) :
    assemble (i :: is) = i.bytes ++ assemble is := by
  rw [assemble, List.flatMap_cons, assemble]

/-- Each instruction starts where the bytes of those before it end, the first one at the given place. -/
inductive Adjacent : Nat → List Instruction → Prop
  | nil {pc} : Adjacent pc []
  | cons {i is} : Adjacent (i.pc + i.bytes.length) is → Adjacent i.pc (i :: is)

theorem Adjacent.pc_eq {pc : Nat} {is : List Instruction} (h : Adjacent pc is) {k : Nat} {i : Instruction}
    (hi : is[k]? = some i) : i.pc = pc + (assemble (is.take k)).length := by
  induction h generalizing k with
  | nil => simp at hi
  | @cons j is _ ih =>
    cases k with
    | zero =>
      obtain rfl := Option.some.inj hi
      rfl
    | succ k =>
      rw [ih hi, List.take_succ_cons, assemble_cons, List.length_append, Nat.add_assoc]

theorem bytes_read (pc : Nat) (op : UInt8) (rest : List UInt8) :
    (read pc op rest).bytes = op :: rest.take (Opcode.width op) := by
  cases h : Opcode.isPush op <;> simp [bytes, read, Opcode.width?, Opcode.width, h]

theorem assemble_sweep (pc : Nat) (code : List UInt8) : assemble (sweep pc code) = code := by
  fun_induction sweep pc code with
  | case1 pc => rfl
  | case2 pc op rest ih =>
    rw [assemble_cons, ih, bytes_read, List.cons_append, List.take_append_drop]

theorem adjacent_sweep (pc : Nat) (code : List UInt8) : Adjacent pc (sweep pc code) := by
  fun_induction sweep pc code with
  | case1 pc => exact .nil
  | case2 pc op rest ih =>
    have hcons := @Adjacent.cons (read pc op rest) (sweep (pc + 1 + Opcode.width op) (rest.drop (Opcode.width op)))
    apply hcons
    -- Data that are cut short leave nothing to sweep.
    by_cases hlen : Opcode.width op ≤ rest.length
    · have hnext : (read pc op rest).pc + (read pc op rest).bytes.length = pc + 1 + Opcode.width op := by
        rw [bytes_read, List.length_cons, List.length_take, Nat.min_eq_left hlen]
        simp only [read]
        omega
      rwa [hnext]
    · rw [List.drop_eq_nil_of_le (by omega), sweep]
      exact .nil

theorem assemble_decode (code : List UInt8) : assemble (decode code) = code := by
  rw [decode_eq_sweep, assemble_sweep]

theorem adjacent_decode (code : List UInt8) : Adjacent 0 (decode code) := by
  rw [decode_eq_sweep]
  exact adjacent_sweep 0 code

theorem pc_lt_of_mem_decode {code : List UInt8} {i : Instruction} (h : i ∈ decode code) : i.pc < code.length := by
  obtain ⟨op, -, hop, -⟩ := mem_decode_iff.1 h
  exact (List.getElem?_eq_some_iff.1 hop).1

/-! ### Order -/

theorem pc_ge_of_mem_sweep {pc : Nat} {code : List UInt8} {i : Instruction}
    (hi : i ∈ sweep pc code) : pc ≤ i.pc := by
  fun_induction sweep pc code with
  | case1 pc => simp at hi
  | case2 pc op rest ih =>
    obtain rfl | hi := List.mem_cons.1 hi
    · exact Nat.le_refl _
    · have := ih hi
      omega

theorem sweep_pairwise (pc : Nat) (code : List UInt8) : (sweep pc code).Pairwise fun i j => i.pc < j.pc := by
  fun_induction sweep pc code with
  | case1 pc => exact .nil
  | case2 pc op rest ih =>
    refine .cons (fun j hj => ?_) ih
    have := pc_ge_of_mem_sweep hj
    simp only [read]
    omega

theorem decode_pairwise (code : List UInt8) : (decode code).Pairwise fun i j => i.pc < j.pc := by
  rw [decode_eq_sweep]
  exact sweep_pairwise 0 code

end Instruction

end ContractWatch
