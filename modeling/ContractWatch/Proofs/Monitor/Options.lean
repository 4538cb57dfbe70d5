import ContractWatch.Proofs.Code.Sweep
import ContractWatch.Proofs.Monitor.Trace
import ContractWatch.Proofs.Payload

/-!
What the options of a monitor are good for. Payload and analysis are worked out after everything that can end a
survey, and from then on nothing asks for them: monitors that differ in their options only go through the same
states, and their alerts differ in these two fields only.
-/

namespace ContractWatch

/-- The alert without what the options decide about. -/
def Alert.core (a : Alert) : Alert := { a with metadata := { a.metadata with payload := none, analysis := none } }

def Deployment.core (d : Deployment) : Deployment := { d with payload := none, analysis := none }

theorem Alert.core_of (h : TxHash) (d : Deployment) (now : Instant) (n : UInt64) :
    (Alert.of h d now n).core = Alert.of h d.core now n := by
  simp only [core, of, Deployment.core]

namespace Monitor

open ContractWatch.Action (calls)

/-- The same monitor with other options. -/
def withOptions (m : Monitor) (compress : Bool) (limit : UInt64) (extended : Bool) (analyzer : Option Analyzer) :
    Monitor :=
  { m with
    settings := { m.settings with compressPayload := compress, maxPayloadBytes := limit, extendedAnalysis := extended }
    analyzer := analyzer }

/-! ### Surveys -/

/-- Surveys that ask the same of the node, and end with the same reason or with deployments that look the same. -/
structure Agree {α β : Type} (f : α → β) (x y : Outcome α) : Prop where
  result : x.result.map f = y.result.map f
  calls : calls x.actions = calls y.actions

theorem Agree.refl {α β : Type} {f : α → β} (x : Outcome α) : Agree f x x := ⟨rfl, rfl⟩

theorem Agree.after {α β : Type} {f : α → β} {x y : Outcome α} (h : Agree f x y) (acts : List Action) :
    Agree f (x.after acts) (y.after acts) where
  result := h.result
  calls := by simp only [Outcome.after, Action.calls_append, h.calls]

/-- The monitors cut codes into instructions in the same way, and describe contracts in the same way as far as `f`
shows. -/
structure SameView {β : Type} (f : Deployment → β) (m m' : Monitor) : Prop where
  decoder : m.decoder = m'.decoder
  describe : ∀ h a code is, f (m.describe h a code is).1 = f (m'.describe h a code is).1

variable {β : Type} {f : Deployment → β} {m m' : Monitor}

theorem inspect_agree (hv : SameView f m m') (h : TxHash) (a : Address)
    (code : List UInt8) : Agree f (m.inspect h a code) (m'.inspect h a code) := by
  simp only [inspect, ← hv.decoder]
  split
  · exact .refl _
  · split
    · exact .refl _
    · rename_i is _
      exact ⟨congrArg Except.ok (hv.describe h a code is),
        (calls_describe m h a code is).trans (calls_describe m' h a code is).symm⟩

theorem fetch_agree (hv : SameView f m m') (node : Node) (h : TxHash)
    (a : Address) : Agree f (m.fetch node h a) (m'.fetch node h a) := by
  simp only [fetch]
  split
  · exact .refl _
  · exact (inspect_agree hv h a _).after _

theorem survey_agree (hv : SameView f m m') (node : Node) (tx : Transaction) :
    Agree f (m.survey node tx) (m'.survey node tx) := by
  simp only [survey]
  split
  · split
    · exact .refl _
    · exact .refl _
    · split
      · exact .refl _
      · exact (fetch_agree hv node tx.hash _).after _
  · exact .refl _

/-! ### Runs -/

/-- Monitors in the same state end an analysis in the same state, with alerts that look the same through all that the
descriptions agree about. -/
theorem analyze_agree {γ : Type} {g : Alert → γ} (hv : SameView f m m')
    (hg : ∀ h now n d d', f d = f d' → g (Alert.of h d now n) = g (Alert.of h d' now n)) (node : Node) (now : Instant)
    (tx : Transaction) (s : State) :
    Agree g (m.analyze node now tx s).1 (m'.analyze node now tx s).1 ∧
      (m.analyze node now tx s).2 = (m'.analyze node now tx s).2 := by
  by_cases h : s.Admits tx.hash
  · have hsurvey := survey_agree hv node tx
    rw [analyze_of_admits now h, analyze_of_admits now h]
    refine ⟨⟨?_, hsurvey.calls⟩, ?_⟩
    · simp only [except_map_map]
      exact except_map_eq_of_map_eq hsurvey.result (hg tx.hash now s.series.number)
    · rw [← State.settle_map s tx.hash f, hsurvey.result, State.settle_map]
  · rw [analyze_of_not_admits now h, analyze_of_not_admits now h]
    exact ⟨.refl _, rfl⟩

/-- Both monitors come to the delivery in the same state. They ask the node the same, and end with the same reason for
no alert, or with alerts that differ in payload and analysis at most. -/
structure InStep (m m' : Monitor) (before : List Delivery) (d : Delivery) : Prop where
  state : m.after before = m'.after before
  ending : (m.ending before d).map Alert.core = (m'.ending before d).map Alert.core
  alert : (m.outcome before d).alert.map Alert.core = (m'.outcome before d).alert.map Alert.core
  calls : calls (m.outcome before d).actions = calls (m'.outcome before d).actions

variable {before : List Delivery} {d : Delivery}

theorem ending_agree {γ : Type} {g : Alert → γ} (hv : SameView f m m')
    (hg : ∀ h now n d d', f d = f d' → g (Alert.of h d now n) = g (Alert.of h d' now n))
    (hs : m.after before = m'.after before) : (m.ending before d).map g = (m'.ending before d).map g := by
  rw [ending, ending, ← hs]
  exact (analyze_agree hv hg d.node d.now d.tx (m.after before)).1.result

theorem core_of_eq (h : TxHash) (now : Instant) (n : UInt64) (d d' : Deployment) (hd : d.core = d'.core) :
    (Alert.of h d now n).core = (Alert.of h d' now n).core := by
  rw [Alert.core_of, hd, Alert.core_of]

theorem inStep_of_sameView (hv : SameView Deployment.core m m') (hs : m.after before = m'.after before) :
    InStep m m' before d where
  state := hs
  ending := ending_agree hv core_of_eq hs
  alert := by
    rw [outcome_alert, outcome_alert, ← except_toOption_map, ending_agree hv core_of_eq hs, except_toOption_map]
  calls := by
    rw [calls_outcome, calls_outcome, ← hs]
    exact (analyze_agree hv core_of_eq d.node d.now d.tx (m.after before)).1.calls

section

variable (m : Monitor) (compress : Bool) (limit : UInt64) (extended : Bool) (analyzer : Option Analyzer)

theorem sameView_core : SameView Deployment.core m (m.withOptions compress limit extended analyzer) where
  decoder := rfl
  describe _ _ _ _ := rfl

theorem sameView_payload (hc : compress = m.settings.compressPayload) (hl : limit = m.settings.maxPayloadBytes) :
    SameView (·.payload) m (m.withOptions compress limit extended analyzer) where
  decoder := rfl
  describe h a code is := by simp only [describe_payload, withOptions, hc, hl]

theorem sameView_analysis (ha : analyzer = m.analyzer) :
    SameView (·.analysis) m (m.withOptions compress limit extended analyzer) where
  decoder := rfl
  describe h a code is := by simp only [describe_analysis, withOptions, ha]

theorem after_withOptions (ds : List Delivery) :
    m.after ds = (m.withOptions compress limit extended analyzer).after ds := by
  induction ds using List.reverseRecOn with
  | nil => rfl
  | append_singleton ds d ih =>
    rw [after_concat, after_concat, deliver_state, deliver_state, ← ih]
    exact (analyze_agree (sameView_core m compress limit extended analyzer) core_of_eq d.node d.now d.tx _).2

end

/-- Monitors with different options go through the same states and stay in step. Only payload and analysis of an
alert are left to the options, the one to limit and compression, the other to the analyzer. -/
theorem options_decide_no_alert (m : Monitor) (compress : Bool) (limit : UInt64) (extended : Bool)
    (analyzer : Option Analyzer) :
    let m' := m.withOptions compress limit extended analyzer
    (∀ ds, (m.run ds m.start).2 = (m'.run ds m'.start).2) ∧
    ∀ before d after,
      (m.run (before ++ d :: after) m.start).1[before.length]? = some (m.outcome before d) ∧
      (m'.run (before ++ d :: after) m'.start).1[before.length]? = some (m'.outcome before d) ∧
      InStep m m' before d ∧
      (compress = m.settings.compressPayload → limit = m.settings.maxPayloadBytes →
        (m.ending before d).map (fun a => a.metadata.payload) =
          (m'.ending before d).map (fun a => a.metadata.payload)) ∧
      (analyzer = m.analyzer →
        (m.ending before d).map (fun a => a.metadata.analysis) =
          (m'.ending before d).map (fun a => a.metadata.analysis)) := by
  intro m'
  have hstate (ds) : m.after ds = m'.after ds := m.after_withOptions compress limit extended analyzer ds
  refine ⟨hstate, fun before d after => ⟨m.run_at before after d, m'.run_at before after d, ?_, ?_, ?_⟩⟩
  · exact inStep_of_sameView (m.sameView_core compress limit extended analyzer) (hstate before)
  · intro hc hl
    exact ending_agree (m.sameView_payload compress limit extended analyzer hc hl) (fun _ _ _ _ _ h => h) (hstate before)
  · intro ha
    exact ending_agree (m.sameView_analysis compress limit extended analyzer ha) (fun _ _ _ _ _ h => h) (hstate before)

/-- No bytes allowed for the payload, and an analyzer that always fails. -/
theorem options_decide_no_alert_dropped :
    let m : Monitor := { settings := { compressPayload := false }, tables := ⟨.empty, .empty⟩ }
    let failing : Analyzer := ⟨"failing", fun _ _ _ => .error ⟨.other, ""⟩⟩
    let tx : Transaction := { hash := .zero, sender := .zero, recipient := none, block := none }
    let d : Delivery := ⟨tx, .ofContract ⟨List.replicate 20 0xab, rfl⟩ [0x60, 0x01], .epoch, none⟩
    let m' := m.withOptions false 0 true (some failing)
    InStep m m' [] d ∧
      (∃ a, m'.ending [] d = .ok a ∧ a.metadata.payload = none ∧ a.metadata.analysis = none) ∧
      (m.ending [] d).map (fun a => a.metadata.payload) =
        ((m.withOptions false 524288 true (some failing)).ending [] d).map (fun a => a.metadata.payload) ∧
      (m.ending [] d).map (fun a => a.metadata.analysis) =
        ((m.withOptions false 0 true none).ending [] d).map (fun a => a.metadata.analysis) := by
  intro m failing tx d m'
  let contract : Address := ⟨List.replicate 20 0xab, rfl⟩
  let is : List Instruction := [⟨0, 0x60, some [0x01]⟩]
  have his : Instruction.decode [0x60, 0x01] = is := Instruction.decode_last (by decide)
  have hd : m'.Deploys d.node tx m'.start contract [0x60, 0x01] is :=
    deploys_of_node (m'.start_admits _) rfl (by decide) (by decide) (congrArg Except.ok his)
  obtain ⟨-, dropped⟩ := options_decide_no_alert m false 0 true (some failing)
  obtain ⟨-, analyzed⟩ := options_decide_no_alert m false 524288 true (some failing)
  obtain ⟨-, cut⟩ := options_decide_no_alert m false 0 true none
  refine ⟨(dropped [] d []).2.2.1, ⟨_, analyze_result_of_deploys .epoch hd, ?_, ?_⟩,
    (analyzed [] d []).2.2.2.1 rfl rfl, (cut [] d []).2.2.2.2 rfl⟩
  · simp only [Alert.of, describe_payload, Payload.ofInstructions_eq]
    decide
  · simp only [Alert.of, describe_analysis]
    rfl

end Monitor

end ContractWatch
