import ContractWatch.Proofs.Code.Sweep
import ContractWatch.Proofs.Monitor.Stages
import ContractWatch.Proofs.Payload
import Mathlib.Algebra.Group.Nat.Defs

/-!
The code of a contract recovered from the payload of its alert.
-/

namespace ContractWatch

theorem Alert.of_payload (tx : TxHash) (d : Deployment) (now : Instant) (number : UInt64) :
    (of tx d now number).metadata.payload = d.payload := rfl

namespace Monitor

/-- The records of a payload are those of the instructions of the code, each at the offset of its bytes; one behind
the other they are the code. Offsets are numbers of 64 bits, as the length of a code in memory is. -/
theorem payload_determines_code (m : Monitor) (node : Node) (now : Instant) (tx : Transaction) (s : State) (a : Alert)
    (code : List UInt8) (p : Payload) (hm : m.decoder = .lenient) (hlen : code.length < 2 ^ 64)
    (ha : (m.analyze node now tx s).1.result = .ok a) (hc : (node.code a.metadata.contract).value = .ok code)
    (hp : a.metadata.payload = some p) :
    a.metadata.bytecode = "0x" ++ Hex.text code ∧
      ∃ bytes text records is, p.jsonBytes = .ok bytes ∧ Utf8.decode? bytes = some text ∧
        Json.parseText text = some (.list records) ∧ records.mapM Instruction.ofJson? = some is ∧
        Instruction.assemble is = code ∧
        ∀ k i, is[k]? = some i → i.pc = (Instruction.assemble (is.take k)).length := by
  have heq := deploys_of_lenient hm ha hc
  have hpcs : ∀ i ∈ Instruction.decode code, i.pc < 0x10000000000000000 := fun i hi =>
    Nat.lt_trans (Instruction.pc_lt_of_mem_decode hi) hlen
  have hpayload : (m.describe tx.hash a.metadata.contract code (Instruction.decode code)).1.payload = some p := by
    rw [← hp, heq]
    rfl
  obtain ⟨-, rfl⟩ := Payload.ofInstructions_eq_ok.1 (describe_payload_eq_some.1 hpayload)
  have hrecords : (Json.list ((Instruction.decode code).map Instruction.toJson)).asList? Instruction.ofJson? =
      some (Instruction.decode code) :=
    Json.asList_map fun i hi => Instruction.ofJson_toJson (hpcs i hi)
  constructor
  · rw [heq, ← Hex.prefixed_eq]
    rfl
  · refine ⟨_, _, _, _, Payload.jsonBytes_ofText _ _, Utf8.decode_bytes _, Instruction.parseText_listText hpcs,
      hrecords, Instruction.assemble_decode code, fun k i hi => ?_⟩
    rw [(Instruction.adjacent_decode code).pc_eq hi, Nat.zero_add]

/-- A compressed payload of three instructions, of which the last one is a push that the end of the code cuts short. -/
theorem payload_determines_code_cut :
    let m : Monitor := { settings := {}, tables := ⟨.empty, .empty⟩ }
    let tx : Transaction := { hash := .zero, sender := .zero, recipient := none, block := none }
    let code : List UInt8 := [0x60, 0x80, 0x5f, 0x63, 0xa9, 0x05]
    let node : Node := .ofContract ⟨List.replicate 20 0xab, rfl⟩ code
    ∃ a p bytes text records is, (m.analyze node .epoch tx m.start).1.result = .ok a ∧ a.metadata.payload = some p ∧
      p.encoding = .gzipBase64 ∧ a.metadata.bytecode = "0x60805f63a905" ∧
      p.jsonBytes = .ok bytes ∧ Utf8.decode? bytes = some text ∧ Json.parseText text = some (.list records) ∧
      records.mapM Instruction.ofJson? = some is ∧ Instruction.assemble is = code ∧
      ∀ k i, is[k]? = some i → i.pc = (Instruction.assemble (is.take k)).length := by
  intro m tx code node
  have hcode : Instruction.decode code = [⟨0, 0x60, some [0x80]⟩, ⟨2, 0x5f, none⟩, ⟨3, 0x63, some [0xa9, 0x05]⟩] := by
    cbv
  have hlength : (Utf8.bytes (Instruction.listText (Instruction.decode code))).length = 119 := by
    rw [hcode]
    decide +kernel
  -- the compressor is too much to run here, but it cannot make so short a text too long
  have hsize : (Payload.ofText true (Instruction.listText (Instruction.decode code))).data.utf8ByteSize ≤ 524288 := by
    rw [Payload.ofText_data, Payload.dataOf_true]
    have hle := Payload.utf8ByteSize_compress_le (Utf8.bytes (Instruction.listText (Instruction.decode code)))
    omega
  have hd : m.Deploys node tx m.start ⟨List.replicate 20 0xab, rfl⟩ code (Instruction.decode code) :=
    deploys_of_node (m.start_admits _) rfl (by decide) (by decide) rfl
  have hcarried : (m.describe tx.hash ⟨List.replicate 20 0xab, rfl⟩ code (Instruction.decode code)).1.payload =
      some (Payload.ofText true (Instruction.listText (Instruction.decode code))) :=
    describe_payload_eq_some.2 (Payload.ofInstructions_eq_ok.2 ⟨hsize, rfl⟩)
  obtain ⟨a, ha, hp⟩ : ∃ a, (m.analyze node .epoch tx m.start).1.result = .ok a ∧ a.metadata.payload =
      some (Payload.ofText true (Instruction.listText (Instruction.decode code))) :=
    ⟨_, analyze_result_of_deploys .epoch hd, (Alert.of_payload ..).trans hcarried⟩
  obtain ⟨hbytecode, bytes, text, records, is, hbytes, htext, hrecords, his, hassemble, hpcs⟩ :=
    payload_determines_code m node .epoch tx m.start a code _ rfl (by decide) ha rfl hp
  exact ⟨a, _, bytes, text, records, is, ha, hp, rfl, hbytecode.trans (by decide), hbytes, htext, hrecords, his,
    hassemble, hpcs⟩

end Monitor

end ContractWatch
