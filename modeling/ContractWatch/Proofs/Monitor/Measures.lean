import ContractWatch.Proofs.Alert
import ContractWatch.Proofs.Code.Metrics
import ContractWatch.Proofs.Monitor.Stages

/-!
The measures of a code in the alert about it.
-/

namespace ContractWatch

open Instruction (decode)

/-- An alert whose analysis is measures is read back as it is. -/
theorem Alert.parse?_text_of_measures {a : Alert} {m : Metrics} (hm : m.HasWords)
    (ha : a.metadata.analysis = some m.sorted) : parse? a.text = some a := by
  have hanalysis {p : Json → Prop} (h : p m.sorted) : ∀ v, a.metadata.analysis = some v → p v := by
    intro v hv
    obtain rfl := Option.some.inj (ha.symm.trans hv)
    exact h
  have ht : a.Typed := hanalysis (Metrics.isKept_sorted hm)
  have hf : a.Fits := hanalysis ⟨Metrics.hasNoReal_sorted hm, by rw [m.depth_sorted]; decide⟩
  have he : a.EmbedsNone := hanalysis (Metrics.hasNoEmbedding_sorted hm)
  have hn : a.metadata.analysis ≠ some .null := by
    rw [ha]
    exact fun h => Json.noConfusion (Option.some.inj h)
  rw [(parse?_text_iff ht hf).2 he, readBack_of_ne hn]

namespace Metrics

/-- The measures of a code are those of its bytes and boundaries: every byte is an operation or one of its data, and
the pushes are those at boundaries, the last one also where its data are cut short. So each count bounds the next one.
The alert about the code has these measures as its analysis, and they are read back from there. Counts are numbers of
64 bits, as the length of a code in memory is. -/
theorem measures_of_code (code : List UInt8) :
    let m := measure code (decode code)
    m.byteLength = code.length ∧
    code.length = m.instructionCount + ((decode code).map fun i => (i.data.getD []).length).sum ∧
    (m.pushCount : ℕ∞) = {k | Boundary code k ∧ ∃ op, code[k]? = some op ∧ 0x60 ≤ op ∧ op ≤ 0x7f}.encard ∧
    m.pushCount ≤ m.instructionCount ∧ m.instructionCount ≤ m.byteLength ∧
    m.byteLength ≤ m.instructionCount + 32 * m.pushCount ∧
    (code.length < 2 ^ 64 → ∃ v, ofJson? v = some m ∧ format.parse? v.render = some m ∧
      (∀ contract, Analyzer.metrics.analyze contract code (decode code) = .ok v) ∧
      ∀ (w : Monitor) (node : Node) (now : Instant) (tx : Transaction) (s : Monitor.State) (a : Alert),
        w.decoder = .lenient → w.analyzer = some .metrics → (w.analyze node now tx s).1.result = .ok a →
        (node.code a.metadata.contract).value = .ok code →
        a.metadata.analysis = some v ∧ Alert.parse? a.text = some a) := by
  intro m
  refine ⟨rfl, byteLength_measure code, pushCount_measure code, pushCount_le code _, instructionCount_le code,
    byteLength_le code, fun hlen => ?_⟩
  have hm : m.HasWords := hasWords_measure hlen
  have hplain : m.sorted.IsPlain := (isKept_sorted hm).isPlain (hasNoReal_sorted hm)
  refine ⟨m.sorted, ofJson?_sorted hm, ?_, fun contract => Analyzer.analyze_metrics contract code _,
    fun w node now tx s a hdecoder hanalyzer ha hc => ?_⟩
  · rw [Json.Format.parse?, Json.parseText_render hplain, Option.bind_some]
    exact ofJson?_sorted hm
  · have hanalysis : a.metadata.analysis = some m.sorted := by
      rw [Monitor.deploys_of_lenient hdecoder ha hc]
      simp only [Alert.of, Monitor.describe_analysis, hanalyzer, Option.bind_some, Analyzer.analyze_metrics]
      rfl
    exact ⟨hanalysis, Alert.parse?_text_of_measures hm hanalysis⟩

/-- An operation that pushes no data, and a push that has one byte of two. -/
theorem measures_of_code_cutShort :
    let code : List UInt8 := [0x5f, 0x61, 0x01]
    let w : Monitor := .ofTables { extendedAnalysis := true } ⟨.empty, .empty⟩
    let tx : Transaction := { hash := .zero, sender := .zero, recipient := none, block := none }
    let node : Node := .ofContract ⟨List.replicate 20 0xab, rfl⟩ code
    let m := measure code (decode code)
    m.byteLength = 3 ∧ m.instructionCount = 2 ∧ m.pushCount = 1 ∧
      {k | Boundary code k ∧ ∃ op, code[k]? = some op ∧ 0x60 ≤ op ∧ op ≤ 0x7f}.encard = 1 ∧
      ∃ a v, (w.analyze node .epoch tx w.start).1.result = .ok a ∧ Alert.parse? a.text = some a ∧
        a.metadata.analysis = some v ∧ ofJson? v = some m := by
  intro code w tx node m
  obtain ⟨hbytes, -, hpushes, -, -, -, hread⟩ := measures_of_code code
  obtain ⟨v, hv, -, -, halert⟩ := hread (by decide)
  have hcode : decode code = [⟨0, 0x5f, none⟩, ⟨1, 0x61, some [0x01]⟩] := by cbv
  have hcount : m.pushCount = 1 := by
    show (decode code).countP _ = 1
    rw [hcode]
    rfl
  have hd : w.Deploys node tx w.start ⟨List.replicate 20 0xab, rfl⟩ code (decode code) :=
    Monitor.deploys_of_node (w.start_admits _) rfl (by decide) (by decide) rfl
  have ha := Monitor.analyze_result_of_deploys .epoch hd
  obtain ⟨hanalysis, hparse⟩ := halert w node .epoch tx w.start _ rfl rfl ha rfl
  refine ⟨hbytes, congrArg List.length hcode, hcount, ?_, _, v, ha, hparse, hanalysis, hv⟩
  rw [← hpushes, hcount]
  rfl

end Metrics

end ContractWatch
