import ContractWatch.Proofs.Code.Candidates
import ContractWatch.Proofs.Code.Sweep
import ContractWatch.Proofs.Monitor.Stages
import ContractWatch.Proofs.Signature.Resolution
import Mathlib.Data.List.Nodup

/-!
Accounting for constants from the code to the alert: which of them an alert names, in which of its lists, how often
and in which order.
-/

namespace ContractWatch

open Signature (Match Table)

/-- At the boundary `p` the code pushes by `op` a constant of `n` bytes, all of them there, with the text `s`. -/
structure Pushes (code : List UInt8) (op : UInt8) (n : Nat) (s : String) (p : Nat) : Prop where
  boundary : Boundary code p
  opcode : code[p]? = some op
  fits : p + 1 + n ≤ code.length
  text : s = Hex.text ((code.drop (p + 1)).take n)

/-- The code pushes `s` before it first pushes `s'`. -/
def PushedBefore (code : List UInt8) (op : UInt8) (n : Nat) (s s' : String) : Prop :=
  ∃ p, Pushes code op n s p ∧ ∀ q, Pushes code op n s' q → p < q

/-- What two lists of an alert say about the constants of `n` bytes that the code pushes by `op`. -/
structure Accounted (code : List UInt8) (op : UInt8) (n : Nat) (t : Table) (found : List Match)
    (unresolved : List String) : Prop where
  named_iff : ∀ s, (s ∈ found.map (·.hex) ∨ s ∈ unresolved) ↔ ∃ p, Pushes code op n s p
  not_both : ∀ s, ¬ (s ∈ found.map (·.hex) ∧ s ∈ unresolved)
  unresolved_count : ∀ s p, Pushes code op n s p → unresolved.count s = if t.lookup s = [] then 1 else 0
  found_run : ∀ s p, Pushes code op n s p → ∃ before after,
    found = before ++ (t.lookup s).map (fun text => ⟨text, s⟩) ++ after ∧
      s ∉ before.map (·.hex) ∧ s ∉ after.map (·.hex)
  unresolved_order : unresolved.Pairwise (PushedBefore code op n)
  found_order : (found.map (·.hex)).Pairwise fun s s' => s = s' ∨ PushedBefore code op n s s'

variable {code : List UInt8} {op : UInt8} {n : Nat}

theorem pushes_iff (hw : Opcode.width? op = some n) {s : String} {p : Nat} :
    Pushes code op n s p ↔
      ∃ i ∈ Instruction.decode code, i.pc = p ∧ ∃ bs, i.constant? op = some bs ∧ s = Hex.text bs := by
  constructor
  · rintro ⟨hb, hop, hfit, rfl⟩
    refine ⟨Instruction.read p op (code.drop (p + 1)), Instruction.mem_decode_iff.2 ⟨op, hb, hop, rfl⟩, rfl,
      (code.drop (p + 1)).take n, ?_, rfl⟩
    have hlen : ((code.drop (p + 1)).take n).length = n := by simp; omega
    simp [Instruction.constant?, Instruction.fullData?, Instruction.read, hw, hlen]
  · rintro ⟨⟨p, op', data⟩, hi, rfl, bs, hbs, rfl⟩
    obtain ⟨op'', hb, hop, hr⟩ := Instruction.mem_decode_iff.1 hi
    obtain ⟨rfl, rfl⟩ : op' = op'' ∧ data = _ := by simpa [Instruction.read] using hr
    simp only [Instruction.constant?, Instruction.fullData?, Option.ite_none_right_eq_some] at hbs
    obtain ⟨rfl, hbs⟩ := hbs
    simp only [hw, Option.map_some, Option.ite_none_right_eq_some, Option.some.injEq] at hbs
    obtain ⟨hlen, rfl⟩ := hbs
    have hp : p < code.length := (List.getElem?_eq_some_iff.1 hop).1
    have hfit : p + 1 + n ≤ code.length := by
      simp only [List.length_take, List.length_drop] at hlen
      omega
    exact ⟨hb, hop, hfit, rfl⟩

theorem PushedBefore.ne {s s' : String} (h : PushedBefore code op n s s') : s ≠ s' := by
  rintro rfl
  obtain ⟨p, hp, hlt⟩ := h
  exact Nat.lt_irrefl _ (hlt p hp)

/-- The constants of one kind as the scan leaves them. -/
def named (code : List UInt8) (op : UInt8) : List String :=
  (Candidates.constants op (Instruction.decode code)).eraseDups.map Hex.text

theorem mem_named_iff (hw : Opcode.width? op = some n) {s : String} :
    s ∈ named code op ↔ ∃ p, Pushes code op n s p := by
  simp only [named, List.mem_map, List.mem_eraseDups, Candidates.constants, List.mem_filterMap, pushes_iff hw]
  constructor
  · rintro ⟨bs, ⟨i, hi, hbs⟩, rfl⟩
    exact ⟨i.pc, i, hi, rfl, bs, hbs, rfl⟩
  · rintro ⟨_, i, hi, rfl, bs, hbs, rfl⟩
    exact ⟨bs, ⟨i, hi, hbs⟩, rfl⟩

theorem named_order (hw : Opcode.width? op = some n) : (named code op).Pairwise (PushedBefore code op n) := by
  refine List.pairwise_map.2 ((eraseDups_pairwise_precedes _).imp ?_)
  rintro a b ⟨hne, l, r, hl, hb⟩
  obtain ⟨is, js, hd, rfl, hjs⟩ := List.filterMap_eq_append_iff.1 hl
  obtain ⟨js₁, i, js₂, rfl, hnone, hi, rfl⟩ := List.filterMap_eq_cons_iff.1 hjs
  refine ⟨i.pc, (pushes_iff hw).2 ⟨i, by simp [hd], rfl, a, hi, rfl⟩, fun q hq => ?_⟩
  obtain ⟨j, hj, rfl, b', hb', htext⟩ := (pushes_iff hw).1 hq
  obtain rfl := Hex.text_injective htext
  have hpc := Instruction.decode_pairwise code
  rw [hd, List.pairwise_append, List.pairwise_append] at hpc
  rw [hd, List.mem_append, List.mem_append, List.mem_cons] at hj
  obtain hj | hj | rfl | hj := hj
  · exact absurd (List.mem_filterMap.2 ⟨j, hj, hb'⟩) hb
  · simp [hnone j hj] at hb'
  · rw [hi] at hb'
    exact absurd (Option.some.inj hb') hne
  · exact List.rel_of_pairwise_cons hpc.2.1.2.1 hj

variable {t : Table} {hexes : List String}

/-- Lists of constants are accounted for by resolving them once each, in the order of their first push. -/
theorem accounted_resolve (hmem : ∀ s, s ∈ hexes ↔ ∃ p, Pushes code op n s p)
    (hord : hexes.Pairwise (PushedBefore code op n)) :
    Accounted code op n t (t.resolve hexes).found (t.resolve hexes).unresolved := by
  have hnodup : hexes.Nodup := hord.imp PushedBefore.ne
  have hunres : ∀ s, s ∈ hexes.filter (fun hex => (t.lookup hex).isEmpty) ↔ s ∈ hexes ∧ t.lookup s = [] := by
    simp
  rw [Table.resolve_eq]
  refine ⟨fun s => ?_, fun s => ?_, fun s p hp => ?_, fun s p hp => ?_, hord.filter _, ?_⟩
  · rw [Table.mem_hexes_iff, hunres, ← hmem]
    tauto
  · rw [Table.mem_hexes_iff, hunres]
    tauto
  · have hs := (hmem s).2 ⟨p, hp⟩
    split
    · rename_i hl
      exact List.count_eq_one_of_mem (hnodup.filter _) ((hunres s).2 ⟨hs, hl⟩)
    · rename_i hl
      exact List.count_eq_zero_of_not_mem fun h => hl ((hunres s).1 h).2
  · obtain ⟨l, r, rfl⟩ := List.append_of_mem ((hmem s).2 ⟨p, hp⟩)
    obtain ⟨-, hsr, hl⟩ := List.nodup_append.1 hnodup
    refine ⟨l.flatMap t.expand, r.flatMap t.expand, by simp [Table.expand], ?_, ?_⟩
    · rw [Table.mem_hexes_iff]
      exact fun h => hl s h.1 s List.mem_cons_self rfl
    · rw [Table.mem_hexes_iff]
      exact fun h => (List.nodup_cons.1 hsr).1 h.1
  · rw [List.map_flatMap, List.pairwise_flatMap]
    constructor
    · intro s hs
      refine List.pairwise_map.2 (List.pairwise_of_forall_mem_list fun x hx y hy => .inl ?_)
      rw [(Table.hex_of_mem_expand hx).1, (Table.hex_of_mem_expand hy).1]
    · refine hord.imp fun {a b} hab x' hx' y' hy' => .inr ?_
      obtain ⟨x, hx, rfl⟩ := List.mem_map.1 hx'
      obtain ⟨y, hy, rfl⟩ := List.mem_map.1 hy'
      rwa [(Table.hex_of_mem_expand hx).1, (Table.hex_of_mem_expand hy).1]

namespace Monitor

/-- The lists of an alert account for every function selector and every event topic that the code pushes, and for
nothing else. -/
theorem alert_accounts (m : Monitor) (node : Node) (now : Instant) (tx : Transaction) (s : State) (a : Alert)
    (code : List UInt8) (hm : m.decoder = .lenient) (ha : (m.analyze node now tx s).1.result = .ok a)
    (hc : (node.code a.metadata.contract).value = .ok code) :
    Accounted code 0x63 4 m.tables.functions a.metadata.functions a.metadata.unknownFunctions ∧
      Accounted code 0x7f 32 m.tables.events a.metadata.events a.metadata.unknownEvents := by
  have h4 : Opcode.width? Opcode.push4 = some 4 := by decide
  have h32 : Opcode.width? Opcode.push32 = some 32 := by decide
  rw [deploys_of_lenient hm ha hc]
  constructor
  · have h : Accounted code Opcode.push4 4 m.tables.functions _ _ :=
      accounted_resolve (fun _ => mem_named_iff h4) (named_order h4)
    rw [named, ← Candidates.extract_functions] at h
    exact h
  · have h : Accounted code Opcode.push32 32 m.tables.events _ _ :=
      accounted_resolve (fun _ => mem_named_iff h32) (named_order h32)
    rw [named, ← Candidates.extract_events] at h
    exact h

/-- A selector that the code pushes twice and the table knows under two signatures, and between its pushes one that the
table does not know. -/
theorem alert_accounts_deadbeef :
    let transfer : List String := ["transfer(address,uint256)", "many_msg_babbage(bytes1)"]
    let m : Monitor := { settings := {}, tables := ⟨.ofEntries [("0xA9059CBB", transfer)], .empty⟩ }
    let tx : Transaction := { hash := .zero, sender := .zero, recipient := none, block := none }
    let code : List UInt8 :=
      [0x63, 0xa9, 0x05, 0x9c, 0xbb, 0x63, 0xde, 0xad, 0xbe, 0xef, 0x63, 0xa9, 0x05, 0x9c, 0xbb]
    let node : Node := .ofContract ⟨List.replicate 20 0xab, rfl⟩ code
    ∃ a before after, (m.analyze node .epoch tx m.start).1.result = .ok a ∧
      a.metadata.unknownFunctions.count "deadbeef" = 1 ∧ a.metadata.unknownFunctions.count "a9059cbb" = 0 ∧
      a.metadata.functions = before ++ transfer.map (fun text => ⟨text, "a9059cbb"⟩) ++ after ∧
      "a9059cbb" ∉ before.map (·.hex) ∧ "a9059cbb" ∉ after.map (·.hex) ∧
      "deadbeef" ∉ a.metadata.functions.map (·.hex) := by
  intro transfer m tx code node
  have hd : m.Deploys node tx m.start ⟨List.replicate 20 0xab, rfl⟩ code (Instruction.decode code) :=
    deploys_of_node (m.start_admits _) rfl (by decide) (by decide) rfl
  obtain ⟨a, ha⟩ : ∃ a, (m.analyze node .epoch tx m.start).1.result = .ok a := ⟨_, analyze_result_of_deploys .epoch hd⟩
  obtain ⟨functions, -⟩ := alert_accounts m node .epoch tx m.start a code rfl ha rfl
  have hknown : Pushes code 0x63 4 "a9059cbb" 0 := ⟨.start, rfl, by decide, by decide⟩
  have hfive : Boundary code 5 := show Boundary code (0 + 1 + Opcode.width 0x63) from .next .start rfl
  have hunknown : Pushes code 0x63 4 "deadbeef" 5 := ⟨hfive, rfl, by decide, by decide⟩
  have hfound : m.tables.functions.lookup "a9059cbb" = transfer := by decide
  have hnone : m.tables.functions.lookup "deadbeef" = [] := by decide
  have hcount := functions.unresolved_count _ _ hunknown
  have hcount' := functions.unresolved_count _ _ hknown
  rw [hnone, if_pos rfl] at hcount
  rw [hfound, if_neg (by decide)] at hcount'
  obtain ⟨before, after, hrun, hbefore, hafter⟩ := functions.found_run _ _ hknown
  rw [hfound] at hrun
  refine ⟨a, before, after, ha, hcount, hcount', hrun, hbefore, hafter, fun h => ?_⟩
  exact functions.not_both "deadbeef" ⟨h, List.count_pos_iff.1 (by omega)⟩

end Monitor

end ContractWatch
