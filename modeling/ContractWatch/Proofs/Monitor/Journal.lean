import ContractWatch.Proofs.Code.Sweep
import ContractWatch.Proofs.Monitor.Trace
import ContractWatch.Proofs.Payload

/-!
What a delivery writes down. Where nobody else logs, a transaction that leads to no alert leaves the one record that
says why; an alert leaves a warning for each part of it that failed, then the record that sums it up, and a warning at
the end if the notifier failed.
-/

namespace ContractWatch

structure Node.Silent (node : Node) : Prop where
  receipt : ∀ h, (node.receipt h).records = []
  code : ∀ a, (node.code a).records = []

def Notifier.Silent (notifier : Notifier) : Prop := ∀ message, (notifier.notify message).records = []

/-- The record says how an analysis ended. -/
def Record.isConclusion (r : Record) : Bool :=
  r.message ∈ [some "contrato implantado analisado", some "transação ignorada",
    some "falha remota, análise abortada", some "análise abortada"]

/-- One warning under the heading if `p` holds, and no record if not. -/
structure WarnsIf (p : Prop) (heading : String) (rs : List Record) : Prop where
  warned : p → ∃ r, rs = [r] ∧ r.level = .warn ∧ r.message = some heading
  quiet : ¬ p → rs = []

theorem warnsIf_warning {α : Type} {p : Prop} {heading : String} {record : Failure → Record} (x : Except Failure α)
    (hp : p ↔ ∃ e, x = .error e)
    (hrecord : ∀ e, (record e).level = .warn ∧ (record e).message = some heading) :
    WarnsIf p heading (warning record x) := by
  cases x with
  | ok a => exact ⟨fun h => by simp [hp] at h, fun _ => rfl⟩
  | error e => exact ⟨fun _ => ⟨record e, rfl, hrecord e⟩, fun h => by simp [hp] at h⟩

/-- Warnings about failures conclude nothing. -/
theorem filter_warning {α : Type} {record : Failure → Record} (x : Except Failure α)
    (hrecord : ∀ e, (record e).isConclusion = false) : (warning record x).filter Record.isConclusion = [] := by
  cases x with
  | ok a => rfl
  | error e => simp [warning, hrecord]

namespace SkipReason

/-- Nothing went wrong. -/
def IsRoutine (x : SkipReason) : Prop :=
  x = .alreadyProcessed ∨ x = .notCreation ∨ x = .receiptMissing ∨ ∃ a, x = .emptyCode a

/-- The node refused or stayed silent, and may answer the next time. -/
def MayPass (x : SkipReason) : Prop :=
  ∃ e, (x = .receiptUnavailable e ∨ ∃ a, x = .codeUnavailable a e) ∧ (e.kind = .rpc ∨ e.kind = .timeout)

theorem level_eq_debug_iff (x : SkipReason) : x.level = .debug ↔ x.IsRoutine := by
  cases x with
  | receiptUnavailable e => cases he : e.isTransient <;> simp [level, IsRoutine, he]
  | codeUnavailable a e => cases he : e.isTransient <;> simp [level, IsRoutine, he]
  | _ => simp [level, IsRoutine]

theorem level_eq_info_iff (x : SkipReason) : x.level = .info ↔ x.MayPass := by
  have htransient (e : Failure) : e.isTransient = true ↔ e.kind = .rpc ∨ e.kind = .timeout := by
    simp [Failure.isTransient]
  cases x with
  | receiptUnavailable e => simp [level, MayPass, ← htransient]
  | codeUnavailable a e => simp [level, MayPass, ← htransient]
  | _ => simp [level, MayPass]

theorem level_eq_warn_iff (x : SkipReason) : x.level = .warn ↔ ¬ x.IsRoutine ∧ ¬ x.MayPass := by
  rw [← level_eq_debug_iff, ← level_eq_info_iff]
  cases x.level <;> simp

theorem isConclusion_record (h : TxHash) (x : SkipReason) : (x.record h).isConclusion = true := by
  cases hl : x.level <;> simp [record, Record.isConclusion, heading, hl]

end SkipReason

namespace Monitor

open ContractWatch.Action (records)

variable {m : Monitor} {node : Node} {notifier : Notifier} {tx : Transaction} {s : State}

theorem isConclusion_conclusion (h : TxHash) (r : Except SkipReason Alert) : (conclusion h r).isConclusion = true := by
  cases r with
  | ok a => simp [conclusion, analyzed, Record.isConclusion]
  | error x => exact x.isConclusion_record h

theorem records_askedReceipt (hn : node.Silent) (h : TxHash) : records (node.askedReceipt h) = [] := by
  simp [Node.askedReceipt, hn.receipt, Action.records, Action.record?]

theorem records_askedCode (hn : node.Silent) (a : Address) : records (node.askedCode a) = [] := by
  simp [Node.askedCode, hn.code, Action.records, Action.record?]

theorem Course.records_of_error (hn : node.Silent) {o : Outcome Deployment} (h : m.Course node tx o) {x : SkipReason}
    (hx : o.result = .error x) : records o.actions = [] := by
  cases h with
  | transfer ht => rfl
  | unplaced ht hp => exact records_askedReceipt hn _
  | codeless ht hp => simp [records_askedReceipt hn, records_askedCode hn]
  | undecoded ht hp => simp [records_askedReceipt hn, records_askedCode hn, Action.record?]
  | described ht hp => contradiction

theorem survey_of_deploys {a : Address} {code : List UInt8} {is : List Instruction}
    (h : m.Deploys node tx s a code is) :
    m.survey node tx = ⟨.ok (m.describe tx.hash a code is).1,
      node.askedReceipt tx.hash ++ (node.askedCode a ++ .decode code :: (m.describe tx.hash a code is).2)⟩ := by
  obtain ⟨r, hr, ha⟩ := h.receipt
  have ht := (Transaction.isCreation_iff tx).2 h.recipient
  have hdeployed := (Transaction.deployed?_eq_some_iff ht r a).2 ha
  have hne : code.isEmpty = false := by simp [h.nonempty]
  simp only [survey, ht, if_true, hr, hdeployed, fetch, h.fetched, inspect, hne, h.decoded]
  rfl

theorem records_survey_of_deploys (hn : node.Silent) {a : Address} {code : List UInt8} {is : List Instruction}
    (h : m.Deploys node tx s a code is) : records (m.survey node tx).actions = m.omissions tx.hash a code is := by
  rw [survey_of_deploys h]
  simp [records_askedReceipt hn, records_askedCode hn, Action.record?, records_describe]

/-! ### Deliveries -/

theorem records_process (m : Monitor) (node : Node) (notifier : Notifier) (now : Instant) (tx : Transaction)
    (s : State) :
    records (m.process node notifier now tx s).1.actions =
      records (m.analyze node now tx s).1.actions ++
        conclusion tx.hash (m.analyze node now tx s).1.result ::
          records (told (some notifier) (m.analyze node now tx s).1.result.toOption) := by
  rw [process_eq, deliver_eq, handle_eq]
  simp [Action.record?]

/-- A failure is all that is written down where there is one. -/
theorem records_process_of_error (hn : node.Silent) {now : Instant} {x : SkipReason}
    (hx : (m.analyze node now tx s).1.result = .error x) :
    records (m.process node notifier now tx s).1.actions = [x.record tx.hash] := by
  have hanalyze : records (m.analyze node now tx s).1.actions = [] := by
    by_cases h : s.Admits tx.hash
    · rw [analyze_of_admits now h] at hx ⊢
      cases hr : (m.survey node tx).result with
      | error y => exact (course_survey m node tx).records_of_error hn hr
      | ok d => simp [hr, Except.map] at hx
    · rw [analyze_of_not_admits now h]
      rfl
  rw [records_process, hanalyze, hx]
  rfl

theorem records_process_of_deploys (hnode : node.Silent) (hnotifier : notifier.Silent) {now : Instant} {a : Alert}
    {contract : Address} {code : List UInt8} {is : List Instruction} (hd : m.Deploys node tx s contract code is)
    (ha : (m.analyze node now tx s).1.result = .ok a) :
    records (m.process node notifier now tx s).1.actions = m.omissions tx.hash contract code is ++
      [analyzed tx.hash a] ++ warning (notifyFailed a) (notifier.notify (Utf8.bytes a.text)).value := by
  have hanalyze : records (m.analyze node now tx s).1.actions = m.omissions tx.hash contract code is := by
    rw [analyze_of_admits now hd.admitted]
    exact records_survey_of_deploys hnode hd
  rw [records_process, hanalyze, ha, Except.toOption, records_told, tellRecords_eq, hnotifier]
  simp [conclusion]

/-! ### Warnings of an alert -/

theorem warnsIf_payload (m : Monitor) (h : TxHash) (a : Address) (code : List UInt8) (is : List Instruction) :
    WarnsIf ((m.describe h a code is).1.payload = none) "payload de opcodes omitido" (warning (payloadOmitted h)
      (Payload.ofInstructions m.settings.compressPayload m.settings.maxPayloadBytes.toNat is)) := by
  apply warnsIf_warning
  · rw [describe_payload]
    cases Payload.ofInstructions m.settings.compressPayload m.settings.maxPayloadBytes.toNat is <;>
      simp [Except.toOption]
  · exact fun e => ⟨rfl, rfl⟩

theorem warnsIf_analysis (m : Monitor) (a : Address) (code : List UInt8) (is : List Instruction) :
    WarnsIf (∃ x e, m.analyzer = some x ∧ x.analyze a code is = .error e) "análise estendida falhou"
      (m.analyzer.toList.flatMap fun x => warning (analysisFailed x.name a) (x.analyze a code is)) := by
  cases m.analyzer with
  | none => exact ⟨fun ⟨x, e, hx, _⟩ => by contradiction, fun _ => rfl⟩
  | some x =>
    rw [Option.toList_some, List.flatMap_singleton]
    apply warnsIf_warning
    · simp
    · exact fun e => ⟨rfl, rfl⟩

theorem filter_omissions (m : Monitor) (h : TxHash) (a : Address) (code : List UInt8) (is : List Instruction) :
    (m.omissions h a code is).filter Record.isConclusion = [] := by
  have hpayload (e : Failure) : (payloadOmitted h e).isConclusion = false := by
    simp [payloadOmitted, Record.isConclusion]
  have hanalysis (x : Analyzer) (e : Failure) : (analysisFailed x.name a e).isConclusion = false := by
    simp [analysisFailed, Record.isConclusion]
  rw [omissions, List.filter_append, filter_warning _ hpayload]
  cases m.analyzer with
  | none => rfl
  | some x => simp [filter_warning _ (hanalysis x)]

theorem filter_notifyFailed (a : Alert) (x : Except Failure Unit) :
    (warning (notifyFailed a) x).filter Record.isConclusion = [] :=
  filter_warning x fun e => by simp [notifyFailed, Record.isConclusion]

/-- One record of a delivery says how it ended, and the others are warnings. -/
theorem filter_records_process (hnode : node.Silent) (hnotifier : notifier.Silent) (now : Instant) :
    (records (m.process node notifier now tx s).1.actions).filter Record.isConclusion =
      [conclusion tx.hash (m.analyze node now tx s).1.result] := by
  have hconclusion (r : Except SkipReason Alert) :
      [conclusion tx.hash r].filter Record.isConclusion = [conclusion tx.hash r] := by
    simp [isConclusion_conclusion]
  cases hr : (m.analyze node now tx s).1.result with
  | error x =>
    rw [records_process_of_error hnode hr]
    exact hconclusion (.error x)
  | ok a =>
    obtain ⟨contract, code, is, hd, -⟩ := deploys_of_analyze_ok hr
    rw [records_process_of_deploys hnode hnotifier hd hr, List.filter_append, List.filter_append, filter_omissions,
      filter_notifyFailed]
    exact (List.append_nil _).trans (hconclusion (.ok a))

/-- A delivery that leads to no alert leaves one record, whose level tells whether something went wrong. One that leads
to an alert leaves the summary of the alert, with a warning for everything that failed and for nothing else. So there
is always one record of how the delivery ended. -/
theorem delivery_logged (m : Monitor) (node : Node) (notifier : Notifier) (now : Instant) (tx : Transaction) (s : State)
    (hnode : node.Silent) (hnotifier : notifier.Silent) :
    let result := (m.analyze node now tx s).1.result
    let logged := records (m.process node notifier now tx s).1.actions
    (∀ x, result = .error x → ∃ r, logged = [r] ∧
      r.fields = [("tx", tx.hash.text), ("reason", x.message)] ∧
      (r.level = .debug ↔ x.IsRoutine) ∧ (r.level = .info ↔ x.MayPass) ∧
      (r.level = .warn ↔ ¬ x.IsRoutine ∧ ¬ x.MayPass)) ∧
    (∀ a, result = .ok a → ∃ code is omitted failed unheard,
      m.Deploys node tx s a.metadata.contract code is ∧
      logged = omitted ++ failed ++ [⟨.info, some "contrato implantado analisado",
        [("tx", tx.hash.text), ("contract", a.metadata.contract.text),
          ("functions", Decimal.text a.metadata.functions.length),
          ("events", Decimal.text a.metadata.events.length)], none⟩] ++ unheard ∧
      WarnsIf (a.metadata.payload = none) "payload de opcodes omitido" omitted ∧
      WarnsIf (∃ x e, m.analyzer = some x ∧ x.analyze a.metadata.contract code is = .error e)
        "análise estendida falhou" failed ∧
      WarnsIf (∃ e, (notifier.notify (Utf8.bytes a.text)).value = .error e) "falha ao notificar alerta" unheard) ∧
    logged.filter Record.isConclusion = [conclusion tx.hash result] := by
  intro result logged
  refine ⟨fun x hx => ?_, fun a ha => ?_, filter_records_process hnode hnotifier now⟩
  · exact ⟨x.record tx.hash, records_process_of_error hnode hx, rfl, x.level_eq_debug_iff, x.level_eq_info_iff,
      x.level_eq_warn_iff⟩
  · obtain ⟨contract, code, is, hd, hof⟩ := deploys_of_analyze_ok ha
    obtain rfl : contract = a.metadata.contract := by rw [hof]; rfl
    have hpayload : a.metadata.payload = (m.describe tx.hash a.metadata.contract code is).1.payload :=
      congrArg (fun a => a.metadata.payload) hof
    refine ⟨code, is, _, _, _, hd, records_process_of_deploys hnode hnotifier hd ha, ?_, ?_, ?_⟩
    · rw [hpayload]
      exact m.warnsIf_payload tx.hash a.metadata.contract code is
    · exact m.warnsIf_analysis a.metadata.contract code is
    · exact warnsIf_warning _ Iff.rfl fun e => ⟨rfl, rfl⟩

/-- Everything fails that an alert survives. -/
theorem delivery_logged_failing :
    let failing : Analyzer := ⟨"failing", fun _ _ _ => .error ⟨.other, ""⟩⟩
    let m : Monitor :=
      { settings := { compressPayload := false, maxPayloadBytes := 0 }, tables := ⟨.empty, .empty⟩,
        analyzer := some failing }
    let tx : Transaction := { hash := .zero, sender := .zero, recipient := none, block := none }
    let node : Node := .ofContract ⟨List.replicate 20 0xab, rfl⟩ [0x60, 0x01]
    let notifier : Notifier := { notify := fun _ => ⟨.error ⟨.io, ""⟩, []⟩ }
    (records (m.process node notifier .epoch tx m.start).1.actions).map (·.level) = [.warn, .warn, .info, .warn] := by
  intro failing m tx node notifier
  let contract : Address := ⟨List.replicate 20 0xab, rfl⟩
  let is : List Instruction := [⟨0, 0x60, some [0x01]⟩]
  have his : Instruction.decode [0x60, 0x01] = is := Instruction.decode_last (by decide)
  have hd : m.Deploys node tx m.start contract [0x60, 0x01] is :=
    deploys_of_node (m.start_admits _) rfl (by decide) (by decide) (congrArg Except.ok his)
  have hnode : node.Silent := ⟨fun _ => rfl, fun _ => rfl⟩
  have hnotifier : notifier.Silent := fun _ => rfl
  obtain ⟨-, alert, -⟩ := delivery_logged m node notifier .epoch tx m.start hnode hnotifier
  obtain ⟨code, js, omitted, failed, unheard, -, hlogged, hpayload, hanalysis, hnotify⟩ :=
    alert _ (analyze_result_of_deploys .epoch hd)
  obtain ⟨r, rfl, hr, -⟩ := hpayload.warned (by
    simp only [Alert.of, describe_payload, Payload.ofInstructions_eq]
    decide)
  obtain ⟨r', rfl, hr', -⟩ := hanalysis.warned ⟨failing, _, rfl, rfl⟩
  obtain ⟨r'', rfl, hr'', -⟩ := hnotify.warned ⟨_, rfl⟩
  rw [hlogged]
  simp [hr, hr', hr'']

end Monitor

end ContractWatch
