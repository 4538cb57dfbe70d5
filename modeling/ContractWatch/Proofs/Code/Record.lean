import ContractWatch.Code.Instruction
import ContractWatch.Proofs.Code.Opcode
import ContractWatch.Proofs.Code.Sweep
import ContractWatch.Proofs.Json.Shape
import Mathlib.Algebra.Group.Nat.Defs

/-!
The records of instructions read back. So no two lists of instructions have one text.
-/

namespace ContractWatch.Instruction

def keys : List String := ["pc", "opcode", "pushValue"]

/-- The bytes behind `0x`. -/
def data? (v : Json) : Option (List UInt8) :=
  match v.asText?.map String.toList with
  | some ('0' :: 'x' :: cs) => Hex.decode? cs
  | _ => none

/-- The instruction that a record tells of: its place, the operation with the mnemonic, and the data of a push. -/
def ofJson? (v : Json) : Option Instruction :=
  match v.members? keys 0 with
  | some [some pc, some opcode, some data] =>
    match pc.asNat?, opcode.asText?.bind Opcode.ofMnemonic?, data? data with
    | some pc, some op, some bs => some ⟨pc, op, some bs⟩
    | _, _, _ => none
  | some [some pc, some opcode, none] =>
    match pc.asNat?, opcode.asText?.bind Opcode.ofMnemonic? with
    | some pc, some op => some ⟨pc, op, none⟩
    | _, _ => none
  | _ => none

variable {v pc opcode data : Json} {n : Nat} {op : UInt8} {bs : List UInt8}

theorem ofJson_plain (hv : v.members? keys 0 = some [some pc, some opcode, none]) (hpc : pc.asNat? = some n)
    (hop : opcode.asText?.bind Opcode.ofMnemonic? = some op) : ofJson? v = some ⟨n, op, none⟩ := by
  simp only [ofJson?, hv, hpc, hop]

theorem ofJson_push (hv : v.members? keys 0 = some [some pc, some opcode, some data]) (hpc : pc.asNat? = some n)
    (hop : opcode.asText?.bind Opcode.ofMnemonic? = some op) (hdata : data? data = some bs) :
    ofJson? v = some ⟨n, op, some bs⟩ := by
  simp only [ofJson?, hv, hpc, hop, hdata]

theorem data_prefixed (bs : List UInt8) : data? (.text (Hex.prefixed bs)) = some bs := by
  simp [data?, Json.asText?, Hex.prefixed]

theorem ofJson_toJson {i : Instruction} (h : i.pc < 0x10000000000000000) : ofJson? i.toJson = some i := by
  obtain ⟨pc, op, data⟩ := i
  have hop : (Json.text (Opcode.mnemonic op)).asText?.bind Opcode.ofMnemonic? = some op :=
    Opcode.ofMnemonic_mnemonic op
  cases data with
  | none =>
    refine ofJson_plain ?_ (Json.asNat_nat h) hop
    simp [toJson, keys, Json.members?, Json.member?, mnemonic]
  | some bs =>
    refine ofJson_push ?_ (Json.asNat_nat h) hop (data_prefixed bs)
    simp [toJson, keys, Json.members?, Json.member?, mnemonic]

theorem isPlain_toJson {i : Instruction} (h : i.pc < 0x10000000000000000) : i.toJson.IsPlain := by
  obtain ⟨pc, op, data⟩ := i
  have hpc := Json.isPlain_nat h
  cases data <;> exact Json.isPlain_record.2 (by simp [hpc, Json.IsPlain])

/-- The text of a list of instructions spells a list of their records. -/
theorem parseText_listText {is : List Instruction} (h : ∀ i ∈ is, i.pc < 0x10000000000000000) :
    Json.parseText (listText is) = some (.list (is.map toJson)) := by
  apply Json.parseText_render
  rw [Json.isPlain_list]
  intro v hv
  obtain ⟨i, hi, rfl⟩ := List.mem_map.1 hv
  exact isPlain_toJson (h i hi)

/-- The instructions that a text tells of, as a list of their records. -/
def ofListText? (s : String) : Option (List Instruction) := (Json.parseText s).bind (·.asList? ofJson?)

theorem ofListText?_listText {is : List Instruction} (h : ∀ i ∈ is, i.pc < 0x10000000000000000) :
    ofListText? (listText is) = some is := by
  rw [ofListText?, parseText_listText h, Option.bind_some]
  exact Json.asList_map fun i hi => ofJson_toJson (h i hi)

/-- Lists of instructions with one text are one list, whatever operation has data and however many bytes of it.
Offsets are numbers of 64 bits. -/
theorem listText_injective {is js : List Instruction} (his : ∀ i ∈ is, i.pc < 2 ^ 64) (hjs : ∀ j ∈ js, j.pc < 2 ^ 64)
    (h : listText is = listText js) : is = js := by
  have hread : ofListText? (listText is) = some is := ofListText?_listText his
  rw [h, ofListText?_listText hjs] at hread
  exact (Option.some.inj hread).symm

/-- A push that nothing follows, and that having no byte of data is not having no data. -/
theorem listText_injective_push1 :
    let text := "[\x7b\"pc\":0,\"opcode\":\"PUSH1\",\"pushValue\":\"0x\"\x7d]"
    listText (decode [0x60]) = text ∧ listText [⟨0, 0x60, some []⟩] = text ∧ decode [0x60] = [⟨0, 0x60, some []⟩] ∧
      listText [⟨0, 0x60, some []⟩] ≠ listText [⟨0, 0x60, none⟩] := by
  intro text
  have hlisted : listText [⟨0, 0x60, some []⟩] = text := by decide
  have hswept : listText (decode [0x60]) = text := by
    rw [decode_last (by decide)]
    exact hlisted
  refine ⟨hswept, hlisted, ?_, fun h => ?_⟩
  · have hpc : ∀ i ∈ decode [0x60], i.pc < 2 ^ 64 := fun i hi => Nat.lt_trans (pc_lt_of_mem_decode hi) (by decide)
    exact listText_injective hpc (by decide) (hswept.trans hlisted.symm)
  · have hsame := listText_injective (by decide) (by decide) h
    contradiction

end ContractWatch.Instruction
