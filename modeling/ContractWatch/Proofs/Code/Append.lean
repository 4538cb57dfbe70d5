import ContractWatch.Proofs.Code.Candidates
import ContractWatch.Proofs.Code.Strict

/-!
Bytes behind a code. Whole instructions stay as they are, a push that the end of the code cut short takes the data it
lacks from the bytes behind it, and what follows is read as a code of its own. So the candidates of a code are the
first ones of every code that begins with it.
-/

namespace ContractWatch

namespace Instruction

/-- The instruction `n` bytes further on. -/
def shift (n : Nat) (i : Instruction) : Instruction := { i with pc := n + i.pc }

/-- The push with bytes behind the data that it has. -/
def fill (i : Instruction) (more : List UInt8) : Instruction := { i with data := i.data.map (· ++ more) }

variable {i last : Instruction} {is init : List Instruction} {pc : Nat} {bs rest : List UInt8}

theorem sweep_add (n pc : Nat) (code : List UInt8) : sweep (n + pc) code = (sweep pc code).map (shift n) := by
  fun_induction sweep pc code with
  | case1 pc => rw [sweep, List.map_nil]
  | case2 pc op rest ih =>
    have hpc : n + pc + 1 + Opcode.width op = n + (pc + 1 + Opcode.width op) := by omega
    rw [sweep, List.map_cons, ← ih, hpc]
    rfl

/-- From any place on, a code has the instructions that it has from the start. -/
theorem sweep_eq_shift (n : Nat) (code : List UInt8) : sweep n code = (decode code).map (shift n) := by
  rw [decode_eq_sweep, ← sweep_add, Nat.add_zero]

/-- Whole instructions are read whatever is behind them. -/
theorem sweep_append_of_full (h : Adjacent pc is) (hsound : ∀ i ∈ is, i.Sound) (hfull : ∀ i ∈ is, i.IsFull) :
    sweep pc (assemble is ++ rest) = is ++ sweep (pc + (assemble is).length) rest := by
  induction h with
  | nil => simp [assemble]
  | @cons i is _ ih =>
    rw [List.forall_mem_cons] at hsound hfull
    rw [assemble_cons, List.append_assoc, hsound.1.sweep_bytes (.inl hfull.1), ih hsound.2 hfull.2,
      List.length_append, Nat.add_assoc, List.cons_append]

/-- A push that is short of data takes them from what is behind it. -/
theorem sweep_append_of_short (hpush : 0x60 ≤ i.opcode ∧ i.opcode ≤ 0x7f) (hdata : i.data = some bs) {n : Nat}
    (hn : bs.length + n = i.opcode.toNat - 0x5f) :
    sweep i.pc (i.bytes ++ rest) = i.fill (rest.take n) :: sweep (i.pc + i.bytes.length + n) (rest.drop n) := by
  obtain ⟨pc, op, data⟩ := i
  obtain rfl : data = some bs := hdata
  have hwidth : Opcode.width op = bs.length + n := (Opcode.width_of_push hpush).trans hn.symm
  have hsome : Opcode.width? op = some (bs.length + n) := by
    simp [Opcode.width?, (Opcode.isPush_iff op).2 hpush, hwidth]
  have htake : (bs ++ rest).take (bs.length + n) = bs ++ rest.take n := List.take_length_add_append n
  have hdrop : (bs ++ rest).drop (bs.length + n) = rest.drop n := List.drop_length_add_append n
  have hpc : pc + 1 + (bs.length + n) = pc + (bs.length + 1) + n := by omega
  simp only [bytes, Option.getD_some, List.cons_append, List.length_cons, fill, Option.map_some]
  rw [sweep, read, hsome, hwidth, Option.map_some, htake, hdrop, hpc]

/-- Behind whole instructions a code begins anew. -/
theorem decode_append_of_complete {c : List UInt8} (h : Complete (decode c)) (d : List UInt8) :
    decode (c ++ d) = decode c ++ (decode d).map (shift c.length) := by
  have hwell := wellFormed_decode c
  have hsweep : sweep 0 (assemble (decode c) ++ d) = _ :=
    sweep_append_of_full hwell.adjacent hwell.sound (complete_decode_iff.1 h)
  rwa [assemble_decode, ← decode_eq_sweep, Nat.zero_add, sweep_eq_shift] at hsweep

theorem Adjacent.of_concat (h : Adjacent pc (is ++ [last])) :
    Adjacent pc is ∧ last.pc = pc + (assemble is).length := by
  constructor
  · induction is generalizing pc with
    | nil => exact .nil
    | cons i is ih =>
      rw [List.cons_append, adjacent_cons] at h
      exact adjacent_cons.2 ⟨h.1, ih h.2⟩
  · rw [h.pc_eq List.getElem?_concat_length, List.take_left]

/-- A push that the end of a code cuts short goes on into the bytes behind it. -/
theorem decode_append_of_concat {c : List UInt8} (hc : decode c = init ++ [last])
    (hpush : 0x60 ≤ last.opcode ∧ last.opcode ≤ 0x7f) (hdata : last.data = some bs) {n : Nat}
    (hn : bs.length + n = last.opcode.toNat - 0x5f) (d : List UInt8) :
    decode (c ++ d) = init ++ last.fill (d.take n) :: (decode (d.drop n)).map (shift (c.length + n)) := by
  have hwell := wellFormed_decode c
  rw [hc] at hwell
  obtain ⟨hadj, hpc⟩ := hwell.adjacent.of_concat
  rw [Nat.zero_add] at hpc
  have hbytes : c = assemble init ++ last.bytes := by
    rw [← assemble_decode c, hc, assemble, assemble, List.flatMap_append, List.flatMap_singleton]
  have hlength : c.length = last.pc + last.bytes.length := by
    rw [hbytes, List.length_append, hpc]
  have hsound : ∀ i ∈ init, i.Sound := fun i hi => hwell.sound i (List.mem_append_left _ hi)
  have hfull : ∀ i ∈ init, i.IsFull := fun i hi => hwell.full i (List.dropLast_concat.symm ▸ hi)
  calc decode (c ++ d)
    _ = sweep 0 (assemble init ++ (last.bytes ++ d)) := by rw [decode_eq_sweep, hbytes, List.append_assoc]
    _ = init ++ sweep last.pc (last.bytes ++ d) := by
      rw [sweep_append_of_full hadj hsound hfull, Nat.zero_add, hpc]
    _ = init ++ last.fill (d.take n) :: sweep (c.length + n) (d.drop n) := by
      rw [sweep_append_of_short hpush hdata hn, hlength]
    _ = _ := by rw [sweep_eq_shift]

theorem decode_append_of_not_complete {c : List UInt8} (h : ¬ Complete (decode c)) (d : List UInt8) :
    ∃ init last bs n, decode c = init ++ [last] ∧ last.IsShort ∧ last.data = some bs ∧ 0 < n ∧
      bs.length + n = last.opcode.toNat - 0x5f ∧
      decode (c ++ d) = init ++ last.fill (d.take n) :: (decode (d.drop n)).map (shift (c.length + n)) := by
  obtain ⟨init, last, hc, hshort, -, -⟩ := strictDecode_of_not_complete h
  obtain ⟨bs, hbs, hlt⟩ := hshort.length_lt
  have hn := Nat.add_sub_of_le (Nat.le_of_lt hlt)
  exact ⟨init, last, bs, _, hc, hshort, hbs, Nat.sub_pos_of_lt hlt, hn,
    decode_append_of_concat hc hshort.push hbs hn d⟩

/-! ### Candidates -/

theorem IsShort.constant?_eq_none (h : i.IsShort) (op : UInt8) : i.constant? op = none := by
  obtain ⟨hpush, bs, hbs, hlt⟩ := h
  have hne : bs.length ≠ Opcode.width i.opcode := by
    rw [Opcode.width_of_push hpush]
    exact Nat.ne_of_lt hlt
  simp [constant?, fullData?, Opcode.width?, (Opcode.isPush_iff _).2 hpush, hbs, hne]

/-- No constant is lost and none comes before those that are there. -/
theorem constants_decode_append (op : UInt8) (c d : List UInt8) :
    Candidates.constants op (decode c) <+: Candidates.constants op (decode (c ++ d)) := by
  by_cases h : Complete (decode c)
  · rw [decode_append_of_complete h, Candidates.constants_append]
    exact List.prefix_append _ _
  -- a push that is cut short is no candidate, so all constants of `c` are in front of it
  · obtain ⟨init, last, _, _, hc, hshort, -, -, -, happend⟩ := decode_append_of_not_complete h d
    rw [happend, hc, Candidates.constants_concat, hshort.constant?_eq_none, Option.toList_none, List.append_nil,
      Candidates.constants_append]
    exact List.prefix_append _ _

/-- What a code with bytes behind it is cut into, and that its candidates begin with those of the code. -/
theorem decode_append (c d : List UInt8) :
    ∃ is js ks, Decoder.lenient c = .ok is ∧ Decoder.lenient d = .ok js ∧ Decoder.lenient (c ++ d) = .ok ks ∧
      ((∃ ws, Decoder.strict c = .ok ws) → ks = is ++ js.map (shift c.length)) ∧
      ((¬ ∃ ws, Decoder.strict c = .ok ws) → ∃ init last bs n tail,
        is = init ++ [last] ∧ (0x60 ≤ last.opcode ∧ last.opcode ≤ 0x7f) ∧ last.data = some bs ∧
        0 < n ∧ bs.length + n = last.opcode.toNat - 0x5f ∧ Decoder.lenient (d.drop n) = .ok tail ∧
        ks = init ++ last.fill (d.take n) :: tail.map (shift (c.length + n))) ∧
      (Candidates.extract is).functions <+: (Candidates.extract ks).functions ∧
      (Candidates.extract is).events <+: (Candidates.extract ks).events := by
  refine ⟨decode c, decode d, decode (c ++ d), rfl, rfl, rfl, fun hok => ?_, fun hfail => ?_, ?_, ?_⟩
  · exact decode_append_of_complete (strict_isOk_iff.1 hok) d
  · obtain ⟨init, last, bs, n, hc, hshort, hbs, hpos, hn, happend⟩ :=
      decode_append_of_not_complete (mt strict_isOk_iff.2 hfail) d
    exact ⟨init, last, bs, n, _, hc, hshort.push, hbs, hpos, hn, rfl, happend⟩
  · rw [Candidates.extract_functions, Candidates.extract_functions]
    exact (eraseDups_mono (constants_decode_append _ c d)).map _
  · rw [Candidates.extract_events, Candidates.extract_events]
    exact (eraseDups_mono (constants_decode_append _ c d)).map _

/-- A push that two bytes fill, and a code that ends with a whole instruction. -/
theorem decode_append_push4 :
    Decoder.lenient ([0x00, 0x63, 0xaa, 0xbb] ++ [0xcc, 0xdd, 0x01]) =
        .ok [⟨0, 0x00, none⟩, ⟨1, 0x63, some [0xaa, 0xbb, 0xcc, 0xdd]⟩, ⟨6, 0x01, none⟩] ∧
      Decoder.lenient ([0x60, 0xaa] ++ [0x01]) = .ok [⟨0, 0x60, some [0xaa]⟩, ⟨2, 0x01, none⟩] := by
  have hcut : decode [0x00, 0x63, 0xaa, 0xbb] = [⟨0, 0x00, none⟩, ⟨1, 0x63, some [0xaa, 0xbb]⟩] := by
    simp [decode, sweepOnto, read, Opcode.width, Opcode.width?, Opcode.isPush]
  have hwhole : decode [0x60, 0xaa] = [⟨0, 0x60, some [0xaa]⟩] := decode_last (by decide)
  have hadd : decode [0x01] = [⟨0, 0x01, none⟩] := decode_last (by decide)
  constructor
  · obtain ⟨is, js, ks, his, -, hks, -, hfail, -⟩ := decode_append [0x00, 0x63, 0xaa, 0xbb] [0xcc, 0xdd, 0x01]
    obtain rfl := (Except.ok.inj his).symm.trans hcut
    have hstrict : ¬ ∃ ws, Decoder.strict [0x00, 0x63, 0xaa, 0xbb] = .ok ws := by
      rw [strict_isOk_iff, hcut]
      simp [Complete]
    obtain ⟨init, last, bs, n, tail, heq, -, hdata, -, hn, htail, rfl⟩ := hfail hstrict
    have hcat : [⟨0, 0x00, none⟩] ++ [⟨1, 0x63, some [0xaa, 0xbb]⟩] = init ++ [last] := heq
    obtain ⟨rfl, hlast⟩ := List.append_inj' hcat rfl
    obtain rfl := List.singleton_inj.1 hlast
    obtain rfl := Option.some.inj hdata
    obtain rfl : n = 2 := Nat.add_left_cancel hn
    obtain rfl := (Except.ok.inj htail).symm.trans hadd
    exact hks
  · obtain ⟨is, js, ks, his, hjs, hks, hok, -⟩ := decode_append [0x60, 0xaa] [0x01]
    obtain rfl := (Except.ok.inj his).symm.trans hwhole
    obtain rfl := (Except.ok.inj hjs).symm.trans hadd
    have hstrict : ∃ ws, Decoder.strict [0x60, 0xaa] = .ok ws := by
      rw [strict_isOk_iff, hwhole]
      simp [Complete]
    obtain rfl := hok hstrict
    exact hks

end Instruction

end ContractWatch
