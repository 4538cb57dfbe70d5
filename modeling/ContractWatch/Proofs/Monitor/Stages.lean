import ContractWatch.Monitor.Run
import ContractWatch.Proofs.Monitor.Seen
import ContractWatch.Proofs.Text.Hex

/-!
The stages of an analysis. Each of them asks one question of the state, the transaction, the node or the decoder;
an analysis ends with the reason of the first stage that fails, and makes its alert out of the answers if none does.
-/

namespace ContractWatch

/-- The receipt of a transaction that succeeded and left a contract at `a`. -/
structure Receipt.Names (r : Receipt) (a : Address) : Prop where
  success : r.status = .success
  contract : r.contract = some a
  ne_zero : a ≠ .zero

namespace Transaction

theorem isCreation_iff (t : Transaction) : t.isCreation = true ↔ t.recipient = none ∨ t.recipient = some .zero := by
  cases h : t.recipient with
  | none => simp [isCreation, isNullRecipient, h]
  | some a => simp [isCreation, isNullRecipient, h, Octets.isZero]

theorem deployed?_eq_some_iff {t : Transaction} (ht : t.isCreation = true) (r : Receipt) (a : Address) :
    t.deployed? (some r) = some a ↔ r.Names a := by
  have h : t.deployed? (some r) = some a ↔ r.status = .success ∧ r.contract = some a ∧ a ≠ .zero := by
    simp only [deployed?, ht, if_true, TxStatus.isSuccess, decide_eq_true_eq]
    by_cases hs : r.status = .success <;> simp [hs, Option.filter_eq_some_iff, Octets.isZero]
  rw [h]
  exact ⟨fun ⟨hs, hc, hz⟩ => ⟨hs, hc, hz⟩, fun ⟨hs, hc, hz⟩ => ⟨hs, hc, hz⟩⟩

theorem deployed?_eq_none_iff {t : Transaction} (ht : t.isCreation = true) (r : Receipt) :
    t.deployed? (some r) = none ↔ ∀ a, ¬ r.Names a := by
  simp only [Option.eq_none_iff_forall_ne_some, ne_eq, deployed?_eq_some_iff ht]

end Transaction

namespace Monitor

/-- The hash may be handled: nothing is remembered, or the flag of the hash is not up. -/
def State.Admits (s : State) (h : TxHash) : Prop := ∀ seen, s.seen = some seen → seen.has h = false

theorem start_admits (m : Monitor) (h : TxHash) : m.start.Admits h := by
  intro seen hs
  unfold start at hs
  split at hs
  · cases hs
    rfl
  · contradiction

inductive Stage
  | admission | recipient | receiptCall | receiptPresence | deployment | codeCall | codePresence | decoding
  deriving DecidableEq

/-- The place of a stage in their order. -/
def Stage.rank : Stage → Nat
  | .admission => 0
  | .recipient => 1
  | .receiptCall => 2
  | .receiptPresence => 3
  | .deployment => 4
  | .codeCall => 5
  | .codePresence => 6
  | .decoding => 7

variable (m : Monitor) (node : Node) (tx : Transaction) (s : State)

/-- The stage fails for the reason, whatever the stages before it say. -/
inductive Fails : Stage → SkipReason → Prop
  | admission {seen} : s.seen = some seen → seen.has tx.hash = true → Fails .admission .alreadyProcessed
  | recipient {a} : tx.recipient = some a → a ≠ .zero → Fails .recipient .notCreation
  | receiptCall {e} : (node.receipt tx.hash).value = .error e → Fails .receiptCall (.receiptUnavailable e)
  | receiptPresence : (node.receipt tx.hash).value = .ok none → Fails .receiptPresence .receiptMissing
  | deployment {r} : (node.receipt tx.hash).value = .ok (some r) → (∀ a, ¬ r.Names a) →
      Fails .deployment .notCreation
  | codeCall {r a e} : (node.receipt tx.hash).value = .ok (some r) → r.Names a → (node.code a).value = .error e →
      Fails .codeCall (.codeUnavailable a e)
  | codePresence {r a} : (node.receipt tx.hash).value = .ok (some r) → r.Names a → (node.code a).value = .ok [] →
      Fails .codePresence (.emptyCode a)
  | decoding {r a code e} : (node.receipt tx.hash).value = .ok (some r) → r.Names a →
      (node.code a).value = .ok code → m.decoder code = .error e → Fails .decoding (.undecodable e)

/-- The stage fails for the reason, and none before it fails. -/
def FailsFirst (k : Stage) (x : SkipReason) : Prop :=
  m.Fails node tx s k x ∧ ∀ j y, m.Fails node tx s j y → k.rank ≤ j.rank

/-- No stage fails: a contract with the given code was deployed, and the code was cut into instructions. -/
structure Deploys (contract : Address) (code : List UInt8) (is : List Instruction) : Prop where
  admitted : s.Admits tx.hash
  recipient : tx.recipient = none ∨ tx.recipient = some .zero
  receipt : ∃ r, (node.receipt tx.hash).value = .ok (some r) ∧ r.Names contract
  fetched : (node.code contract).value = .ok code
  nonempty : code ≠ []
  decoded : m.decoder code = .ok is

end Monitor

/-- A node for which every transaction deployed the same contract. -/
def Node.ofContract (a : Address) (code : List UInt8) : Node where
  receipt h := { value := .ok (some ⟨h, .success, some a⟩) }
  code _ := { value := .ok code }

@[simp] theorem Outcome.after_result {α : Type} (acts : List Action) (o : Outcome α) :
    (o.after acts).result = o.result := rfl

namespace Monitor

/-- The state after a transaction was admitted and its analysis ended: the hash is marked, and an alert has used up
a number. -/
def State.settle {α : Type} (s : State) (h : TxHash) (r : Except SkipReason α) : State where
  seen := (s.mark h).seen
  series := match r with
    | .ok _ => ⟨s.series.number + 1⟩
    | .error _ => s.series

/-- What was found does not matter, only whether something was. -/
theorem State.settle_map {α β : Type} (s : State) (h : TxHash) (f : α → β) (r : Except SkipReason α) :
    s.settle h (r.map f) = s.settle h r := by
  cases r <;> rfl

variable {m : Monitor} {node : Node} {tx : Transaction} {s : State}

/-- Every code leads to an alert somewhere, unless it is empty or cannot be cut into instructions. -/
theorem deploys_of_node {a : Address} {code : List UInt8} {is : List Instruction} (hs : s.Admits tx.hash)
    (ht : tx.recipient = none) (ha : a ≠ .zero) (hc : code ≠ []) (hd : m.decoder code = .ok is) :
    m.Deploys (.ofContract a code) tx s a code is where
  admitted := hs
  recipient := .inl ht
  receipt := ⟨_, rfl, rfl, rfl, ha⟩
  fetched := rfl
  nonempty := hc
  decoded := hd

theorem State.enroll_of_not_admits {h : TxHash} (hs : ¬ s.Admits h) : s.enroll h = (false, s) := by
  obtain ⟨seen, series⟩ := s
  cases seen with
  | none => exact absurd (fun _ h => by cases h) hs
  | some seen =>
    cases hf : seen.has h with
    | false => exact absurd (fun _ h => by cases h; exact hf) hs
    | true => simp [enroll, Seen.enroll_eq, hf]

theorem State.enroll_of_admits {h : TxHash} (hs : s.Admits h) : s.enroll h = (true, s.mark h) := by
  obtain ⟨seen, series⟩ := s
  cases seen with
  | none => rfl
  | some seen => simp [enroll, Seen.enroll_eq, mark, hs seen rfl]

theorem analyze_of_not_admits (now : Instant) (h : ¬ s.Admits tx.hash) :
    m.analyze node now tx s = (⟨.error .alreadyProcessed, []⟩, s) := by
  simp [analyze, State.enroll_of_not_admits h]

theorem analyze_of_admits (now : Instant) (h : s.Admits tx.hash) :
    m.analyze node now tx s =
      (⟨(m.survey node tx).result.map fun d => Alert.of tx.hash d now s.series.number, (m.survey node tx).actions⟩,
       s.settle tx.hash (m.survey node tx).result) := by
  cases hr : (m.survey node tx).result with
  | error e => simp [analyze, State.enroll_of_admits h, hr, Except.map, State.settle, State.mark]
  | ok d =>
    simp [analyze, State.enroll_of_admits h, hr, Except.map, State.settle, State.mark, Alert.Series.issue]

theorem analyze_result_of_not_admits (now : Instant) (h : ¬ s.Admits tx.hash) :
    (m.analyze node now tx s).1.result = .error .alreadyProcessed := by
  rw [analyze_of_not_admits now h]

theorem analyze_result_of_admits (now : Instant) (h : s.Admits tx.hash) :
    (m.analyze node now tx s).1.result =
      (m.survey node tx).result.map fun d => Alert.of tx.hash d now s.series.number := by
  rw [analyze_of_admits now h]

theorem survey_result_of_receipt {r : Receipt} {a : Address} (ht : tx.isCreation = true)
    (hr : (node.receipt tx.hash).value = .ok (some r)) (ha : r.Names a) :
    (m.survey node tx).result = (m.fetch node tx.hash a).result := by
  simp [survey, ht, hr, (Transaction.deployed?_eq_some_iff ht r a).2 ha]

theorem fetch_result_of_code {a : Address} {code : List UInt8} (h : TxHash) (hc : (node.code a).value = .ok code) :
    (m.fetch node h a).result = (m.inspect h a code).result := by
  simp [fetch, hc]

theorem FailsFirst.admits {k : Stage} {x : SkipReason} (h : m.FailsFirst node tx s k x) (hk : 0 < k.rank) :
    s.Admits tx.hash := by
  intro seen hs
  cases hf : seen.has tx.hash with
  | false => rfl
  | true =>
    have : k.rank ≤ 0 := h.2 .admission _ (.admission hs hf)
    omega

theorem FailsFirst.isCreation {k : Stage} {x : SkipReason} (h : m.FailsFirst node tx s k x) (hk : 1 < k.rank) :
    tx.isCreation = true := by
  rw [Transaction.isCreation_iff]
  cases hr : tx.recipient with
  | none => exact .inl rfl
  | some a =>
    by_cases ha : a = .zero
    · exact .inr (congrArg some ha)
    · have : k.rank ≤ 1 := h.2 .recipient _ (.recipient hr ha)
      omega

/-- The deployment that an alert tells of, out of the answers of node and decoder. -/
theorem analyze_result_of_deploys (now : Instant) {a : Address} {code : List UInt8} {is : List Instruction}
    (h : m.Deploys node tx s a code is) :
    (m.analyze node now tx s).1.result =
      .ok (Alert.of tx.hash (m.describe tx.hash a code is).1 now s.series.number) := by
  obtain ⟨r, hr, ha⟩ := h.receipt
  have ht := (Transaction.isCreation_iff tx).2 h.recipient
  rw [analyze_result_of_admits now h.admitted, survey_result_of_receipt ht hr ha,
    fetch_result_of_code _ h.fetched]
  simp [inspect, h.nonempty, h.decoded, Except.map]

theorem analyze_result_of_failsFirst (now : Instant) {k : Stage} {x : SkipReason} (h : m.FailsFirst node tx s k x) :
    (m.analyze node now tx s).1.result = .error x := by
  -- At every stage the ones before it pass, so that its question is asked.
  cases hf : h.1 with
  | admission hs hh =>
    refine analyze_result_of_not_admits now fun hadm => ?_
    simp [hadm _ hs] at hh
  | recipient hr hz =>
    have ht : ¬ tx.isCreation = true := by simp [Transaction.isCreation_iff, hr, hz]
    rw [analyze_result_of_admits now (h.admits (by decide))]
    simp [survey, ht, Except.map]
  | receiptCall hr =>
    rw [analyze_result_of_admits now (h.admits (by decide))]
    simp [survey, h.isCreation (by decide), hr, Except.map]
  | receiptPresence hr =>
    rw [analyze_result_of_admits now (h.admits (by decide))]
    simp [survey, h.isCreation (by decide), hr, Except.map]
  | deployment hr hn =>
    have ht := h.isCreation (by decide)
    rw [analyze_result_of_admits now (h.admits (by decide))]
    simp [survey, ht, hr, (Transaction.deployed?_eq_none_iff ht _).2 hn, Except.map]
  | codeCall hr ha hc =>
    rw [analyze_result_of_admits now (h.admits (by decide)),
      survey_result_of_receipt (h.isCreation (by decide)) hr ha]
    simp [fetch, hc, Except.map]
  | codePresence hr ha hc =>
    rw [analyze_result_of_admits now (h.admits (by decide)),
      survey_result_of_receipt (h.isCreation (by decide)) hr ha, fetch_result_of_code _ hc]
    simp [inspect, Except.map]
  | @decoding r a code e hr ha hc hd =>
    have hne : code ≠ [] := by
      rintro rfl
      have := h.2 .codePresence _ (.codePresence hr ha hc)
      simp [Stage.rank] at this
    rw [analyze_result_of_admits now (h.admits (by decide)),
      survey_result_of_receipt (h.isCreation (by decide)) hr ha, fetch_result_of_code _ hc]
    simp [inspect, hne, hd, Except.map]

theorem Fails.exists_failsFirst {k : Stage} {x : SkipReason} (h : m.Fails node tx s k x) :
    ∃ k x, m.FailsFirst node tx s k x := by
  induction hn : k.rank using Nat.strongRecOn generalizing k x with
  | ind n ih =>
    by_cases he : ∃ j y, m.Fails node tx s j y ∧ j.rank < n
    · obtain ⟨j, y, hj, hlt⟩ := he
      exact ih j.rank hlt hj rfl
    · refine ⟨k, x, h, fun j y hj => ?_⟩
      rw [hn]
      exact Nat.le_of_not_lt fun hlt => he ⟨j, y, hj, hlt⟩

theorem deploys_of_not_fails (h : ∀ k x, ¬ m.Fails node tx s k x) :
    ∃ a code is, m.Deploys node tx s a code is := by
  have hadm : s.Admits tx.hash := fun seen hs =>
    Bool.eq_false_iff.2 fun hh => h _ _ (.admission hs hh)
  have ht : tx.recipient = none ∨ tx.recipient = some .zero := by
    cases hr : tx.recipient with
    | none => exact .inl rfl
    | some a => exact .inr (congrArg some (Decidable.byContradiction fun ha => h _ _ (.recipient hr ha)))
  match hr : (node.receipt tx.hash).value with
  | .error e => exact absurd (.receiptCall hr) (h _ _)
  | .ok none => exact absurd (.receiptPresence hr) (h _ _)
  | .ok (some r) =>
    have ha : ∃ a, r.Names a := Classical.byContradiction fun hn =>
      h _ _ (.deployment hr fun a ha => hn ⟨a, ha⟩)
    obtain ⟨a, ha⟩ := ha
    match hc : (node.code a).value with
    | .error e => exact absurd (.codeCall hr ha hc) (h _ _)
    | .ok [] => exact absurd (.codePresence hr ha hc) (h _ _)
    | .ok (b :: bs) =>
      match hd : m.decoder (b :: bs) with
      | .error e => exact absurd (.decoding hr ha hc hd) (h _ _)
      | .ok is => exact ⟨a, b :: bs, is, hadm, ht, ⟨r, hr, ha⟩, hc, by simp, hd⟩

/-- Of the answers either all are good, or there is a first bad one. -/
theorem deploys_or_failsFirst (m : Monitor) (node : Node) (tx : Transaction) (s : State) :
    (∃ a code is, m.Deploys node tx s a code is) ∨ ∃ k x, m.FailsFirst node tx s k x := by
  by_cases h : ∃ k x, m.Fails node tx s k x
  · obtain ⟨k, x, hf⟩ := h
    exact .inr hf.exists_failsFirst
  · exact .inl (deploys_of_not_fails fun k x hf => h ⟨k, x, hf⟩)

theorem deploys_of_analyze_ok {now : Instant} {a : Alert} (h : (m.analyze node now tx s).1.result = .ok a) :
    ∃ contract code is, m.Deploys node tx s contract code is ∧
      a = Alert.of tx.hash (m.describe tx.hash contract code is).1 now s.series.number := by
  obtain ⟨contract, code, is, hd⟩ | ⟨k, x, hf⟩ := deploys_or_failsFirst m node tx s
  · rw [analyze_result_of_deploys now hd] at h
    exact ⟨contract, code, is, hd, (Except.ok.inj h).symm⟩
  · rw [analyze_result_of_failsFirst now hf] at h
    contradiction

/-- With the lenient decoder an alert is made of the instructions of the whole code. -/
theorem deploys_of_lenient {now : Instant} {a : Alert} {code : List UInt8} (hm : m.decoder = .lenient)
    (ha : (m.analyze node now tx s).1.result = .ok a) (hc : (node.code a.metadata.contract).value = .ok code) :
    a = Alert.of tx.hash (m.describe tx.hash a.metadata.contract code (Instruction.decode code)).1 now
      s.series.number := by
  obtain ⟨contract, code', is, hd, rfl⟩ := deploys_of_analyze_ok ha
  obtain rfl : code' = code := Except.ok.inj (hd.fetched.symm.trans hc)
  have hdecoded := hd.decoded
  rw [hm] at hdecoded
  obtain rfl := Except.ok.inj hdecoded
  rfl

theorem describe_payload (m : Monitor) (h : TxHash) (a : Address) (code : List UInt8) (is : List Instruction) :
    (m.describe h a code is).1.payload =
      (Payload.ofInstructions m.settings.compressPayload m.settings.maxPayloadBytes.toNat is).toOption := by
  simp only [describe, payload]
  split <;> rename_i hp <;> simp [hp, Except.toOption]

theorem describe_payload_eq_some {h : TxHash} {a : Address} {code : List UInt8} {is : List Instruction} {p : Payload} :
    (m.describe h a code is).1.payload = some p ↔
      Payload.ofInstructions m.settings.compressPayload m.settings.maxPayloadBytes.toNat is = .ok p := by
  rw [describe_payload]
  cases Payload.ofInstructions m.settings.compressPayload m.settings.maxPayloadBytes.toNat is <;> simp [Except.toOption]

theorem describe_analysis (m : Monitor) (h : TxHash) (a : Address) (code : List UInt8) (is : List Instruction) :
    (m.describe h a code is).1.analysis = m.analyzer.bind fun x => (x.analyze a code is).toOption := by
  simp only [describe, analysis]
  cases hx : m.analyzer with
  | none => rfl
  | some x =>
    simp only [Option.bind_some]
    split <;> rename_i hv <;> simp [hv, Except.toOption]

/-- An analysis makes an alert exactly if no stage fails, out of the answers that it got, and ends with the reason
of the first stage that fails otherwise. -/
theorem analyze_ends (m : Monitor) (node : Node) (now : Instant) (tx : Transaction) (s : State) :
    ((∃ a, (m.analyze node now tx s).1.result = .ok a) ↔ ∃ contract code is, m.Deploys node tx s contract code is) ∧
    (∀ x, (m.analyze node now tx s).1.result = .error x ↔ ∃ k, m.FailsFirst node tx s k x) ∧
    (∀ a contract code is, (m.analyze node now tx s).1.result = .ok a → m.Deploys node tx s contract code is →
      a.metadata = {
        transaction := tx.hash
        contract := contract
        functions := (m.tables.functions.resolve (Candidates.extract is).functions).found
        unknownFunctions := (m.tables.functions.resolve (Candidates.extract is).functions).unresolved
        events := (m.tables.events.resolve (Candidates.extract is).events).found
        unknownEvents := (m.tables.events.resolve (Candidates.extract is).events).unresolved
        bytecode := "0x" ++ Hex.text code
        payload :=
          (Payload.ofInstructions m.settings.compressPayload m.settings.maxPayloadBytes.toNat is).toOption
        analysis := m.analyzer.bind fun x => (x.analyze contract code is).toOption }) := by
  refine ⟨⟨?_, ?_⟩, fun x => ⟨?_, ?_⟩, ?_⟩
  · rintro ⟨a, ha⟩
    obtain ⟨contract, code, is, hd, -⟩ := deploys_of_analyze_ok ha
    exact ⟨contract, code, is, hd⟩
  · rintro ⟨contract, code, is, hd⟩
    exact ⟨_, analyze_result_of_deploys now hd⟩
  · intro hx
    obtain ⟨contract, code, is, hd⟩ | ⟨k, y, hf⟩ := deploys_or_failsFirst m node tx s
    · rw [analyze_result_of_deploys now hd] at hx
      contradiction
    · rw [analyze_result_of_failsFirst now hf] at hx
      exact ⟨k, Except.error.inj hx ▸ hf⟩
  · rintro ⟨k, hf⟩
    exact analyze_result_of_failsFirst now hf
  · intro a contract code is ha hd
    rw [analyze_result_of_deploys now hd] at ha
    cases ha
    rw [← describe_payload m tx.hash contract code, ← describe_analysis m tx.hash, ← Hex.prefixed_eq]
    rfl

theorem analyze_ends_push1 :
    let m : Monitor := { settings := {}, tables := ⟨.empty, .empty⟩ }
    let tx : Transaction := { hash := .zero, sender := .zero, recipient := none, block := none }
    let node : Node := .ofContract ⟨List.replicate 20 0xab, rfl⟩ [0x60, 0x01]
    ∃ a, (m.analyze node .epoch tx m.start).1.result = .ok a ∧ a.metadata.bytecode = "0x6001" := by
  intro m tx node
  have hd : m.Deploys node tx m.start ⟨List.replicate 20 0xab, rfl⟩ [0x60, 0x01]
      (Instruction.decode [0x60, 0x01]) :=
    deploys_of_node (m.start_admits _) rfl (by decide) (by decide) rfl
  have ends := analyze_ends m node .epoch tx m.start
  obtain ⟨a, ha⟩ := ends.1.2 ⟨_, _, _, hd⟩
  refine ⟨a, ha, ?_⟩
  rw [ends.2.2 a _ _ _ ha hd]
  decide

end Monitor

end ContractWatch
