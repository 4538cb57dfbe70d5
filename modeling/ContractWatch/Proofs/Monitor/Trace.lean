import ContractWatch.Proofs.Monitor.Delivery

/-!
What a survey does on its way. It gets as far as the answers let it, and its trace is what it did until then: first
the question for the receipt, then the one for the code, then the decoder, and at last the description with a warning
for each part that is left out.
-/

namespace ContractWatch

/-- The receipt of the transaction is known and names the contract. -/
def Node.Places (node : Node) (h : TxHash) (a : Address) : Prop :=
  ∃ r, (node.receipt h).value = .ok (some r) ∧ r.Names a

/-- Asking for a receipt, with what the node logs. -/
def Node.askedReceipt (node : Node) (h : TxHash) : List Action := .askReceipt h :: (node.receipt h).records.map .log

def Node.askedCode (node : Node) (a : Address) : List Action := .askCode a :: (node.code a).records.map .log

/-- A record about what failed, and none about what did not. -/
def warning {α : Type} (record : Failure → Record) : Except Failure α → List Record
  | .ok _ => []
  | .error e => [record e]

namespace Monitor

open ContractWatch.Action (calls records)

variable (m : Monitor) (node : Node) (tx : Transaction)

/-! ### Warnings -/

theorem payload_actions (h : TxHash) (is : List Instruction) :
    (m.payload h is).2 = (warning (payloadOmitted h)
      (Payload.ofInstructions m.settings.compressPayload m.settings.maxPayloadBytes.toNat is)).map .log := by
  unfold payload
  split
  · rename_i hp
    rw [hp]
    rfl
  · rename_i hp
    rw [hp]
    rfl

theorem analysis_actions (a : Address) (code : List UInt8) (is : List Instruction) :
    (m.analysis a code is).2 = m.analyzer.toList.flatMap fun x =>
      .analyze a :: (warning (analysisFailed x.name a) (x.analyze a code is)).map .log := by
  unfold analysis
  cases m.analyzer with
  | none => rfl
  | some x =>
    cases hx : x.analyze a code is with
    | ok v => simp [hx, warning]
    | error e => simp [hx, warning]

/-- The warnings about the parts that a description leaves out. -/
def omissions (h : TxHash) (a : Address) (code : List UInt8) (is : List Instruction) : List Record :=
  warning (payloadOmitted h)
      (Payload.ofInstructions m.settings.compressPayload m.settings.maxPayloadBytes.toNat is) ++
    m.analyzer.toList.flatMap fun x => warning (analysisFailed x.name a) (x.analyze a code is)

theorem records_describe (h : TxHash) (a : Address) (code : List UInt8) (is : List Instruction) :
    records (m.describe h a code is).2 = m.omissions h a code is := by
  simp only [describe, payload_actions, analysis_actions, omissions, Action.records_append, Action.records_logs]
  cases m.analyzer with
  | none => rfl
  | some x => simp [Action.record?]

theorem calls_describe (h : TxHash) (a : Address) (code : List UInt8) (is : List Instruction) :
    calls (m.describe h a code is).2 = [] := by
  simp only [describe, payload_actions, analysis_actions, Action.calls_append, Action.calls_logs]
  cases m.analyzer with
  | none => rfl
  | some x => simp [Action.calls_cons, Action.isCall]

theorem tellRecords_eq (notifier : Notifier) (a : Alert) :
    tellRecords notifier a = (notifier.notify (Utf8.bytes a.text)).records ++
      warning (notifyFailed a) (notifier.notify (Utf8.bytes a.text)).value := by
  unfold tellRecords
  extract_lets reply
  cases reply.value with
  | ok u => rfl
  | error e => rfl

/-! ### Surveys -/

/-- The ways that a survey can go, as far as its trace tells them apart. -/
inductive Course : Outcome Deployment → Prop
  | transfer : ¬ tx.isCreation = true → Course ⟨.error .notCreation, []⟩
  | unplaced {x} : tx.isCreation = true → (∀ a, ¬ node.Places tx.hash a) →
      Course ⟨.error x, node.askedReceipt tx.hash⟩
  | codeless {a x} : tx.isCreation = true → node.Places tx.hash a →
      Course ⟨.error x, node.askedReceipt tx.hash ++ node.askedCode a⟩
  | undecoded {a code x} : tx.isCreation = true → node.Places tx.hash a →
      Course ⟨.error x, node.askedReceipt tx.hash ++ (node.askedCode a ++ [.decode code])⟩
  | described {a code is} : tx.isCreation = true → node.Places tx.hash a →
      Course ⟨.ok (m.describe tx.hash a code is).1,
        node.askedReceipt tx.hash ++ (node.askedCode a ++ .decode code :: (m.describe tx.hash a code is).2)⟩

variable {m node tx}

theorem course_fetch {a : Address} (ht : tx.isCreation = true) (ha : node.Places tx.hash a) :
    m.Course node tx ((m.fetch node tx.hash a).after (node.askedReceipt tx.hash)) := by
  unfold fetch inspect
  extract_lets reply asked
  split
  · exact .codeless ht ha
  · split
    · rw [Outcome.after, Outcome.after, List.append_nil]
      exact .codeless ht ha
    · split
      · exact .undecoded ht ha
      · exact .described ht ha

theorem course_survey (m : Monitor) (node : Node) (tx : Transaction) : m.Course node tx (m.survey node tx) := by
  unfold survey
  split
  · rename_i ht
    extract_lets reply asked
    have unplaced (h : ∀ r a, reply.value = .ok (some r) → ¬ r.Names a) : ∀ a, ¬ node.Places tx.hash a := by
      rintro a ⟨r, hr, ha⟩
      exact h r a hr ha
    split
    · rename_i hr
      exact .unplaced ht (unplaced (by simp [hr]))
    · rename_i hr
      exact .unplaced ht (unplaced (by simp [hr]))
    · rename_i r hr
      split
      · rename_i hnone
        have hnames := (Transaction.deployed?_eq_none_iff ht r).1 hnone
        refine .unplaced ht (unplaced fun r' a hr' => ?_)
        obtain rfl : r = r' := Option.some.inj (Except.ok.inj (hr.symm.trans hr'))
        exact hnames a
      · rename_i a hsome
        exact course_fetch ht ⟨r, hr, (Transaction.deployed?_eq_some_iff ht r a).1 hsome⟩
  · exact .transfer ‹_›

end Monitor

end ContractWatch
