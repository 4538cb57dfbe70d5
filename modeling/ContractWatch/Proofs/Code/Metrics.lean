import ContractWatch.Code.Metrics
import ContractWatch.Proofs.Code.WellFormed
import ContractWatch.Proofs.Json.Free
import ContractWatch.Proofs.Records
import Mathlib.Data.Set.Card

/-!
Measures of a code against the code itself. Every byte is an operation or one of its data, and of every operation there
are as many instructions as boundaries where it stands.
-/

namespace ContractWatch

namespace Instruction

variable {i : Instruction} {is : List Instruction}

/-- How many bytes of data the instruction has. -/
def dataLength (i : Instruction) : Nat := (i.data.getD []).length

theorem length_bytes (i : Instruction) : i.bytes.length = 1 + i.dataLength := by
  rw [bytes, List.length_cons, dataLength, Nat.add_comm]

theorem length_assemble (is : List Instruction) : (assemble is).length = is.length + (is.map dataLength).sum := by
  induction is with
  | nil => rfl
  | cons i is ih =>
    rw [assemble_cons, List.length_append, ih, length_bytes, List.length_cons, List.map_cons, List.sum_cons]
    omega

theorem length_decode (code : List UInt8) :
    code.length = (decode code).length + ((decode code).map dataLength).sum := by
  rw [← length_assemble, assemble_decode]

/-- The longest push has 32 bytes of data. -/
theorem Sound.dataLength_le (h : i.Sound) : i.dataLength ≤ if i.data.isSome then 32 else 0 := by
  cases hd : i.data with
  | none => simp [dataLength, hd]
  | some bs =>
    have hlen := h.length_le bs hd
    have hpush : i.opcode.toNat ≤ 0x7f := (h.push_iff.1 (by simp [hd])).2
    simp only [dataLength, hd, Option.getD_some, Option.isSome_some, if_true]
    omega

theorem sum_dataLength_le (h : ∀ i ∈ is, i.Sound) :
    (is.map dataLength).sum ≤ 32 * is.countP fun i => i.data.isSome := by
  induction is with
  | nil => exact Nat.le_refl _
  | cons i is ih =>
    obtain ⟨hi, his⟩ := List.forall_mem_cons.1 h
    have hdata := hi.dataLength_le
    have hrest := ih his
    rw [List.map_cons, List.sum_cons, List.countP_cons, Nat.mul_add]
    split at hdata
    · rw [if_pos ‹_›]
      omega
    · rw [if_neg ‹_›]
      omega

/-- The instructions with an operation that fulfils `p` are as many as the boundaries where one stands. -/
theorem countP_decode (code : List UInt8) (p : UInt8 → Prop) [DecidablePred p] :
    ((decode code).countP fun i => p i.opcode : ℕ∞) =
      {k | Boundary code k ∧ ∃ op, code[k]? = some op ∧ p op}.encard := by
  have hset : {k | Boundary code k ∧ ∃ op, code[k]? = some op ∧ p op} =
      (((decode code).filter fun i => p i.opcode).map (·.pc)).toFinset := by
    ext k
    simp only [Set.mem_ofPred_eq, List.coe_toFinset, List.mem_map, List.mem_filter, mem_decode_iff, decide_eq_true_eq]
    constructor
    · rintro ⟨hb, op, hop, hp⟩
      exact ⟨read k op (code.drop (k + 1)), ⟨⟨op, hb, hop, rfl⟩, hp⟩, rfl⟩
    · rintro ⟨i, ⟨⟨op, hb, hop, hi⟩, hp⟩, rfl⟩
      rw [hi] at hp
      exact ⟨hb, op, hop, hp⟩
  -- No two instructions start at the same place.
  have hnodup : (((decode code).filter fun i => p i.opcode).map (·.pc)).Nodup :=
    List.pairwise_map.2 (((decode_pairwise code).filter _).imp Nat.ne_of_lt)
  rw [hset, Set.encard_coe_eq_coe_finsetCard, List.toFinset_card_of_nodup hnodup, List.length_map,
    List.countP_eq_length_filter]

end Instruction

namespace Metrics

open Instruction (decode)

/-! ### Counts -/

theorem byteLength_measure (code : List UInt8) :
    let m := measure code (decode code)
    m.byteLength = m.instructionCount + ((decode code).map Instruction.dataLength).sum :=
  Instruction.length_decode code

/-- Counted are instructions with data, and these are those with a push. -/
theorem pushCount_measure (code : List UInt8) :
    ((measure code (decode code)).pushCount : ℕ∞) =
      {k | Boundary code k ∧ ∃ op, code[k]? = some op ∧ 0x60 ≤ op ∧ op ≤ 0x7f}.encard := by
  rw [← Instruction.countP_decode code fun op => 0x60 ≤ op ∧ op ≤ 0x7f]
  refine congrArg Nat.cast (List.countP_congr fun i hi => ?_)
  rw [((Instruction.wellFormed_decode code).sound i hi).push_iff, decide_eq_true_eq]

theorem pushCount_le (code : List UInt8) (is : List Instruction) :
    (measure code is).pushCount ≤ (measure code is).instructionCount :=
  List.countP_le_length

theorem instructionCount_le (code : List UInt8) :
    (measure code (decode code)).instructionCount ≤ (measure code (decode code)).byteLength := by
  rw [byteLength_measure]
  exact Nat.le_add_right _ _

theorem byteLength_le (code : List UInt8) :
    let m := measure code (decode code)
    m.byteLength ≤ m.instructionCount + 32 * m.pushCount := by
  intro m
  rw [byteLength_measure]
  exact Nat.add_le_add_left (Instruction.sum_dataLength_le (Instruction.wellFormed_decode code).sound) _

theorem hasWords_measure {code : List UInt8} (h : code.length < 2 ^ 64) : (measure code (decode code)).HasWords := by
  have hinstructions : (measure code (decode code)).instructionCount < 2 ^ 64 :=
    Nat.lt_of_le_of_lt (instructionCount_le code) h
  exact ⟨h, hinstructions, Nat.lt_of_le_of_lt (pushCount_le code _) hinstructions⟩

/-! ### Measures as a free value -/

/-- The measures with their members in order of the keys. -/
def sorted (m : Metrics) : Json :=
  .record [("byteLength", .nat m.byteLength), ("codeHash", .text m.codeHash),
    ("instructionCount", .nat m.instructionCount), ("pushCount", .nat m.pushCount)]

theorem canonical?_toJson (m : Metrics) : m.toJson.canonical? = some m.sorted := rfl

variable {m : Metrics}

theorem ofJson?_sorted (h : m.HasWords) : ofJson? m.sorted = some m := by
  have hv : m.sorted.members? keys 0 = some [some (.nat m.byteLength), some (.nat m.instructionCount),
      some (.nat m.pushCount), some (.text m.codeHash)] := by
    rw [sorted, Json.members?_record (by simp)]
    rfl
  rw [ofJson?_of_members hv, Json.asNat_nat h.byteLength, Option.bind_some, Json.asNat_nat h.instructionCount,
    Option.bind_some, Json.asNat_nat h.pushCount, Option.bind_some, Json.asText?, Option.bind_some]

/-- The members are words and a text. -/
theorem everywhere_sorted {p : Json → Prop} (hm : m.HasWords) (h : p m.sorted)
    (hnat : ∀ n : Nat, n < 0x10000000000000000 → p (.nat n)) (htext : ∀ s, p (.text s)) : m.sorted.Everywhere p := by
  have hword {n : Nat} (hn : n < 0x10000000000000000) : (Json.nat n).Everywhere p := .atom rfl (hnat n hn)
  have hhash : (Json.text m.codeHash).Everywhere p := .atom rfl (htext m.codeHash)
  exact Json.everywhere_record.2 ⟨h, by
    simp [hword hm.byteLength, hword hm.instructionCount, hword hm.pushCount, hhash]⟩

theorem isKept_sorted (h : m.HasWords) : m.sorted.IsKept := by
  refine everywhere_sorted h ?_ (fun n hn => ?_) fun s => trivial
  · show ["byteLength", "codeHash", "instructionCount", "pushCount"].Pairwise (· < ·)
    decide
  · show -0x8000000000000000 ≤ (n : Int) ∧ (n : Int) < 0x10000000000000000
    omega

theorem hasNoReal_sorted (h : m.HasWords) : m.sorted.HasNoReal :=
  everywhere_sorted h trivial (fun _ _ => trivial) fun _ => trivial

theorem depth_sorted (m : Metrics) : m.sorted.depth = 1 := rfl

theorem hasNoEmbedding_sorted (h : m.HasWords) : m.sorted.HasNoEmbedding := by
  refine everywhere_sorted h ?_ (fun _ _ => trivial) fun _ => trivial
  show Json.isEmbedding [("byteLength", _), _, _, _] = false
  rw [Json.isEmbedding]
  decide

end Metrics

theorem Analyzer.analyze_metrics (contract : Address) (code : List UInt8) (is : List Instruction) :
    metrics.analyze contract code is = .ok (Metrics.measure code is).sorted := by
  simp only [metrics, Metrics.canonical?_toJson, Option.getD_some]

end ContractWatch
