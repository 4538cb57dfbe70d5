import ContractWatch.Host.Url
import ContractWatch.Proofs.Monitor.Journal
import ContractWatch.Proofs.Monitor.Questions
import ContractWatch.Proofs.Node.Client
import ContractWatch.Proofs.Records

/-!
A monitor that asks its node through a client. Whatever the node does, the monitor takes it for something that may pass;
and it makes no alert but of a receipt that told of a success and of a contract.
-/

namespace ContractWatch

/-- The answers of the node are those of the client, each over a wire of its own. -/
structure Client.Serves (c : Client) (p : Protocol) (node : Node) : Prop where
  receipt : ∀ h, ∃ wire, node.receipt h = c.receipt p wire h
  code : ∀ a, ∃ wire, node.code a = ⟨c.code p wire a, []⟩

namespace Client

variable {p : Protocol} {c : Client} {node : Node} {wire : Wire}

/-! ### Answers of the client -/

theorem tell_receipt_of_value {h : TxHash} {r : Except Failure (Option Receipt)} (hr : (c.receipt p wire h).value = r) :
    c.tell p wire (.receipt h) = r.map .receipt := by
  rw [tell, hr]

theorem tell_code_of_eq {a : Address} {r : Except Failure (List UInt8)} (hr : c.code p wire a = r) :
    c.tell p wire (.code a) = r.map .code := by
  rw [tell, hr]

theorem debug_of_receipt {h : TxHash} {r : Record} (hr : r ∈ (c.receipt p wire h).records) : r.level = .debug := by
  unfold receipt at hr
  split at hr
  · contradiction
  · obtain rfl := List.mem_singleton.1 hr
    rfl
  · contradiction

theorem Serves.debug_of_receipt (hc : c.Serves p node) {h : TxHash} {r : Record} (hr : r ∈ (node.receipt h).records) :
    r.level = .debug := by
  obtain ⟨wire, hwire⟩ := hc.receipt h
  rw [hwire] at hr
  exact Client.debug_of_receipt hr

theorem Serves.silent_code (hc : c.Serves p node) (a : Address) : (node.code a).records = [] := by
  obtain ⟨wire, hwire⟩ := hc.code a
  rw [hwire]

theorem Serves.kind_of_receipt (hc : c.Serves p node) {h : TxHash} {e : Failure}
    (he : (node.receipt h).value = .error e) : e.kind = .rpc ∨ e.kind = .timeout := by
  obtain ⟨wire, hwire⟩ := hc.receipt h
  rw [hwire] at he
  exact kind_of_tell (tell_receipt_of_value he)

theorem Serves.kind_of_code (hc : c.Serves p node) {a : Address} {e : Failure}
    (he : (node.code a).value = .error e) : e.kind = .rpc ∨ e.kind = .timeout := by
  obtain ⟨wire, hwire⟩ := hc.code a
  rw [hwire] at he
  exact kind_of_tell (tell_code_of_eq he)

theorem receipt_eq_ok_some_iff (c : Client) (p : Protocol) (wire : Wire) (h : TxHash) (r : Receipt) :
    (c.receipt p wire h).value = .ok (some r) ↔
      ∃ v t, c.Receives wire (.receipt h) v ∧ p.receipt? v = some (some t) ∧ r.IsToldBy t := by
  rw [receipt_eq_ok_iff]
  constructor
  · rintro ⟨v, told, hv, ht, hr⟩
    obtain ⟨t, rfl, htold⟩ := Option.map_eq_some_iff.1 hr
    exact ⟨v, t, hv, ht, (t.receipt_eq_iff r).1 htold⟩
  · rintro ⟨v, t, hv, ht, hr⟩
    exact ⟨v, some t, hv, ht, congrArg some ((t.receipt_eq_iff r).2 hr)⟩

theorem serves_node (c : Client) (p : Protocol) (wire : Wire) : c.Serves p (c.node p wire) where
  receipt _ := ⟨wire, rfl⟩
  code _ := ⟨wire, rfl⟩

end Client

/-! ### A protocol -/

namespace Protocol

/-- The digits of a hexadecimal text. -/
def digits? (v : Json) : Option (List Char) :=
  match v.asText?.map String.toList with
  | some ('0' :: 'x' :: ds) => some ds
  | _ => none

def word? (v : Json) : Option UInt64 := do
  let ds ← digits? v
  if ds.length ≤ 16 then (Hex.valueIn 16 ds).map UInt64.ofNat else none

def transcript? (ms : List (String × Json)) : Option Transcript := do
  let hash ← (← Json.member? "transactionHash" ms).bind Octets.ofJson?
  let status ← Json.asOptional? word? (← Json.member? "status" ms)
  let contract ← Json.asOptional? Octets.ofJson? (← Json.member? "contractAddress" ms)
  return { hash := hash, status := status, contract := contract }

/-- The protocol for nodes whose results lack no member and have each in its usual form. -/
def plain : Protocol where
  isEndpoint := Url.isUrl
  receipt?
    | .null => some none
    | .record ms => (transcript? ms).map some
    | _ => none
  code? v := (digits? v).bind Hex.decode?
  number? := word?

theorem lawful_plain : plain.Lawful where
  receipt?_eq_none_iff v := by
    cases v with
    | null => simp [plain]
    | record ms => simp [plain]
    | _ => simp [plain]

end Protocol

/-- A receipt as a node sends it. -/
def Transcript.members (t : Transcript) (word : String) : List (String × Json) :=
  [("transactionHash", t.hash.toJson), ("transactionIndex", .text "0x0"),
    ("blockHash", (Octets.zero : TxHash).toJson), ("blockNumber", .text "0x10"),
    ("from", (Octets.zero : Address).toJson), ("to", .null), ("cumulativeGasUsed", .text "0x5208"),
    ("gasUsed", .text "0x5208"), ("contractAddress", .option Octets.toJson t.contract), ("logs", .list []),
    ("status", .text word), ("logsBloom", (Octets.zero : Octets 256).toJson), ("type", .text "0x2"),
    ("effectiveGasPrice", .text "0x1")]

theorem Protocol.receipt?_members {t : Transcript} {word : String} (hword : word? (.text word) = t.status)
    (hstatus : t.status ≠ none) : plain.receipt? (.record (t.members word)) = some (some t) := by
  obtain ⟨w, hw⟩ := Option.ne_none_iff_exists'.1 hstatus
  have hhash : Json.member? "transactionHash" (t.members word) = some (some t.hash.toJson) := rfl
  have hmember : Json.member? "status" (t.members word) = some (some (.text word)) := rfl
  have hcontract : Json.member? "contractAddress" (t.members word) = some (some (.option Octets.toJson t.contract)) := rfl
  have hread : Json.asOptional? word? (some (.text word)) = some t.status := by
    rw [Json.asOptional?, Json.asOption?_of_ne Json.noConfusion, hword, hw]
    rfl
  simp [plain, transcript?, hhash, hmember, hcontract, hread, Octets.asOptional?_toJson]

namespace Monitor

open ContractWatch.Action (calls records)

variable {m : Monitor} {p : Protocol} {c : Client} {node : Node} {tx : Transaction} {s : State}

/-! ### Failures of the node -/

/-- Something that the node was asked about the transaction was left without an answer. The text tells what it was, and
why. -/
inductive Unanswered (node : Node) (tx : Transaction) (acts : List Action) : String → Prop
  | receipt {e} : .askReceipt tx.hash ∈ acts → (node.receipt tx.hash).value = .error e →
      Unanswered node tx acts ("falha ao obter recibo: " ++ e.message)
  | code {a e} : .askCode a ∈ acts → (node.code a).value = .error e →
      Unanswered node tx acts ("falha ao obter código de " ++ a.text ++ ": " ++ e.message)

theorem survey_result_of_receipt_error {e : Failure} (ht : tx.isCreation = true)
    (he : (node.receipt tx.hash).value = .error e) : (m.survey node tx).result = .error (.receiptUnavailable e) := by
  simp [survey, ht, he]

theorem fetch_result_of_code_error {a : Address} {e : Failure} (h : TxHash) (he : (node.code a).value = .error e) :
    (m.fetch node h a).result = .error (.codeUnavailable a e) := by
  simp [fetch, he]

/-- What is left without an answer ends the analysis, for a reason that may pass. -/
theorem ending_of_unanswered {before : List Delivery} {d : Delivery} {text : String} (hc : c.Serves p d.node)
    (h : Unanswered d.node d.tx (m.outcome before d).actions text) :
    ∃ x, m.ending before d = .error x ∧ x.message = text ∧ x.MayPass := by
  have hcalls {a : Action} (ha : a ∈ (m.outcome before d).actions) (hcall : a.isCall = true) :
      a ∈ calls (m.outcome before d).actions := List.mem_filter.2 ⟨ha, hcall⟩
  cases h with
  | receipt hasked he =>
    obtain ⟨ht, hadm⟩ := (askReceipt_mem_iff m before d).1 (hcalls hasked rfl)
    refine ⟨_, ?_, rfl, _, .inl rfl, hc.kind_of_receipt he⟩
    rw [ending, analyze_result_of_admits d.now hadm, survey_result_of_receipt_error ht he]
    rfl
  | @code a _ hasked he =>
    obtain ⟨hreceipt, r, hr, hnames⟩ := (askCode_mem_iff m before d a).1 (hcalls hasked rfl)
    obtain ⟨ht, hadm⟩ := (askReceipt_mem_iff m before d).1 hreceipt
    refine ⟨_, ?_, rfl, _, .inr ⟨a, rfl⟩, hc.kind_of_code he⟩
    rw [ending, analyze_result_of_admits d.now hadm, survey_result_of_receipt ht hr hnames,
      fetch_result_of_code_error d.tx.hash he]
    rfl

/-- A survey that fails writes nothing down itself. -/
theorem Course.mem_records_of_error {o : Outcome Deployment} (h : m.Course node tx o) {x : SkipReason}
    (hx : o.result = .error x) {r : Record} (hr : r ∈ records o.actions) :
    r ∈ (node.receipt tx.hash).records ∨ ∃ a, r ∈ (node.code a).records := by
  have hreceipt : records (node.askedReceipt tx.hash) = (node.receipt tx.hash).records := by
    simp [Node.askedReceipt, Action.record?]
  have hcode (a : Address) : records (node.askedCode a) = (node.code a).records := by
    simp [Node.askedCode, Action.record?]
  cases h with
  | transfer ht => contradiction
  | unplaced ht hn => exact .inl (hreceipt ▸ hr)
  | @codeless a _ ht ha =>
    rw [Action.records_append, hreceipt, hcode, List.mem_append] at hr
    exact hr.imp_right fun hr => ⟨a, hr⟩
  | @undecoded a _ _ ht ha =>
    rw [Action.records_append, Action.records_append, hreceipt, hcode, List.mem_append, List.mem_append] at hr
    exact hr.imp_right fun hr => ⟨a, hr.resolve_right List.not_mem_nil⟩
  | described ht ha => contradiction

theorem debug_of_analyze (hc : c.Serves p node) {now : Instant} {x : SkipReason}
    (hx : (m.analyze node now tx s).1.result = .error x) {r : Record}
    (hr : r ∈ records (m.analyze node now tx s).1.actions) : r.level = .debug := by
  by_cases h : s.Admits tx.hash
  · rw [analyze_of_admits now h] at hx hr
    cases hsurvey : (m.survey node tx).result with
    | ok d => simp [hsurvey, Except.map] at hx
    | error y =>
      obtain hreceipt | ⟨a, hcode⟩ := (course_survey m node tx).mem_records_of_error hsurvey hr
      · exact hc.debug_of_receipt hreceipt
      · rw [hc.silent_code] at hcode
        contradiction
  · rw [analyze_of_not_admits now h] at hr
    contradiction

theorem records_outcome_of_error {before : List Delivery} {d : Delivery} {x : SkipReason}
    (hx : m.ending before d = .error x) :
    records (m.outcome before d).actions =
      records (m.analyze d.node d.now d.tx (m.after before)).1.actions ++ [x.record d.tx.hash] := by
  rw [outcome_eq, hx]
  cases d.notifier <;> simp [told, Except.toOption, conclusion, Action.record?]

theorem record_of_mayPass {x : SkipReason} (h : x.MayPass) (tx : TxHash) :
    x.record tx =
      ⟨.info, some "falha remota, análise abortada", [("tx", tx.text), ("reason", x.message)], none⟩ := by
  rw [SkipReason.record, x.level_eq_info_iff.2 h]
  rfl

/-! ### Any node -/

/-- The client of a monitor passes on what its node tells, an error of the node or a timeout, and nothing else. A timeout
means that nothing came back in time, and no client is made without the number of a block. So the monitor logs what was
left without an answer as information, and nothing more than debugging beside it; and it makes alerts of receipts only
that the node sent with a status of one and a contract. -/
theorem remote_node_monitored (p : Protocol) (hp : p.Lawful) (c : Client) :
    (∀ (opening : Wire) (calls : List (Question × Wire)),
      (∀ e, c.session p opening calls = .error e → e.kind = .rpc ∨ e.kind = .timeout) ∧
      ((∃ e, c.session p opening calls = .error e ∧ e.kind = .timeout) ↔
        (c.transport = .webSocket ∧ ¬ ∃ x, opening.opening = some x ∧ x.after < c.timeout) ∨
        (∃ u, c.dial p opening = .ok u) ∧ ¬ c.Hears opening .blockNumber) ∧
      ∀ answers, c.session p opening calls = .ok answers →
        (∃ n, c.blockNumber p opening = .ok n) ∧
        List.Forall₂ (fun call answer => c.Ends p call.2 call.1 answer) calls answers) ∧
    ∀ (m : Monitor) (before : List Delivery) (d : Delivery) (after : List Delivery), c.Serves p d.node →
      ∃ x, (m.run (before ++ d :: after) m.start).1[before.length]? = some x ∧
        (∀ text, Unanswered d.node d.tx x.actions text →
          x.alert = none ∧ ∃ logged, records x.actions = logged ++ [⟨.info, some "falha remota, análise abortada",
            [("tx", d.tx.hash.text), ("reason", text)], none⟩] ∧ ∀ r ∈ logged, r.level = .debug) ∧
        ∀ a, x.alert = some a → ∀ wire, d.node.receipt d.tx.hash = c.receipt p wire d.tx.hash →
          ∃ v t, c.Receives wire (.receipt d.tx.hash) v ∧ p.receipt? v = some (some t) ∧ t.status = some 1 ∧
            t.contract = some a.metadata.contract ∧ a.metadata.contract ≠ .zero := by
  refine ⟨fun opening calls => ⟨fun e => Client.kind_of_session, Client.session_timeout_iff, fun answers =>
    Client.ends_of_session hp⟩, fun m before d after hc => ?_⟩
  refine ⟨m.outcome before d, m.run_at before after d, fun text h => ?_, fun a ha wire hwire => ?_⟩
  · obtain ⟨x, hx, rfl, hpass⟩ := ending_of_unanswered hc h
    refine ⟨?_, _, ?_, fun r hr => debug_of_analyze hc hx hr⟩
    · rw [outcome_alert, hx]
      rfl
    · rw [records_outcome_of_error hx, record_of_mayPass hpass]
  · obtain ⟨contract, code, is, hd, rfl⟩ := deploys_of_analyze_ok (outcome_alert_eq_some_iff.1 ha)
    obtain ⟨r, hr, hnames⟩ := hd.receipt
    rw [hwire] at hr
    obtain ⟨v, t, hv, ht, htold⟩ := (Client.receipt_eq_ok_some_iff c p wire d.tx.hash r).1 hr
    refine ⟨v, t, hv, ht, htold.success.1 hnames.success, ?_, hnames.ne_zero⟩
    rw [← htold.contract, hnames.contract]
    rfl

/-- A reverted transaction, one that the node knows nothing of, and a code that comes a millisecond too late. As late
comes the receipt of a delivery, which leads to an alert where it is on time. -/
theorem remote_node_monitored_late :
    let p : Protocol := .plain
    let c : Client := { endpoint := "ws://node", timeout := 5000 }
    let contract : Address := ⟨List.replicate 20 0xab, rfl⟩
    let told (w : UInt64) : Transcript := ⟨.zero, some w, some contract⟩
    let wire (ms : Nat) (v : Json) : Wire :=
      ⟨some ⟨true, 0⟩, fun _ q =>
        match q with
        | .code _ => some ⟨.result (.text "0x6001"), ms⟩
        | _ => some ⟨.result v, ms⟩⟩
    let reverted : Json := .record ((told 2).members "0x2")
    let succeeded : Json := .record ((told 1).members "0x1")
    let calls : List (Question × Wire) :=
      [(.receipt .zero, wire 4999 reverted), (.receipt .zero, wire 4999 .null), (.code .zero, wire 5000 .null)]
    let m : Monitor := { settings := {}, tables := ⟨.empty, .empty⟩ }
    let tx : Transaction := { hash := .zero, sender := .zero, recipient := none, block := none }
    let late : Delivery := ⟨tx, c.node p (wire 5000 succeeded), .epoch, none⟩
    let prompt : Delivery := ⟨tx, c.node p (wire 4999 succeeded), .epoch, none⟩
    p.Lawful ∧
    (∃ e, e.kind = .timeout ∧ c.session p (wire 0 (.text "0x10")) calls =
      .ok [.ok (.receipt (some ⟨.zero, .failure, some contract⟩)), .ok (.receipt none), .error e]) ∧
    (∃ x logged, (m.run [late] m.start).1[0]? = some x ∧ x.alert = none ∧
      records x.actions = logged ++ [⟨.info, some "falha remota, análise abortada", [("tx", tx.hash.text),
        ("reason", "falha ao obter recibo: Timeout: recibo da transação excedeu 5s")], none⟩]) ∧
    ∃ a t, m.ending [] prompt = .ok a ∧ p.receipt? succeeded = some (some t) ∧ t.status = some 1 ∧
      t.contract = some a.metadata.contract := by
  intro p c contract told wire reverted succeeded calls m tx late prompt
  have ht : c.transport = .webSocket := (by decide : Endpoint.transport "ws://node" = .webSocket)
  have hreverted : p.receipt? reverted = some (some (told 2)) := Protocol.receipt?_members rfl (by decide)
  have hsucceeded : p.receipt? succeeded = some (some (told 1)) := Protocol.receipt?_members rfl (by decide)
  have received (v : Json) (q : Question) (hq : ∀ a, q ≠ .code a) : c.Receives (wire 4999 v) q v := by
    refine ⟨4999, by decide, ?_⟩
    cases q with
    | code a => exact absurd rfl (hq a)
    | _ => rfl
  obtain ⟨sessions, deliveries⟩ := remote_node_monitored p Protocol.lawful_plain c
  refine ⟨Protocol.lawful_plain, ?_, ?_, ?_⟩
  · have hdial : c.dial p (wire 0 (.text "0x10")) = .ok () := by
      rw [Client.dial, ht]
      rfl
    have hnumber : c.blockNumber p (wire 0 (.text "0x10")) = .ok 16 := rfl
    have hsession : c.session p (wire 0 (.text "0x10")) calls = .ok (calls.map fun call => c.tell p call.2 call.1) :=
      Client.session_of_connect (by rw [Client.connect_of_dial hdial, hnumber, Except.map])
    obtain ⟨-, -, ends⟩ := sessions (wire 0 (.text "0x10")) calls
    obtain ⟨first, hrest⟩ := List.forall₂_cons.1 (ends _ hsession).2
    obtain ⟨second, hrest⟩ := List.forall₂_cons.1 hrest
    obtain ⟨third, -⟩ := List.forall₂_cons.1 hrest
    have hfirst := ((first.receipt .zero _ rfl (received _ _ (by simp))).2 _).2
      ⟨told 2, hreverted, (Transcript.receipt_eq_iff _ _).1 rfl⟩
    have hsecond := (second.receipt .zero _ rfl (received .null _ (by simp))).1.2 rfl
    obtain ⟨e, hthird, hkind⟩ := third.timeout.2 (by
      rintro ⟨x, hx, hlt⟩
      obtain rfl := Option.some.inj hx
      exact absurd hlt (by decide))
    refine ⟨e, hkind, hsession.trans ?_⟩
    simp only [calls, List.map_cons, List.map_nil, hfirst, hsecond, hthird]
    rfl
  · have hlate : (late.node.receipt tx.hash).value = .error (c.late "recibo da transação") := rfl
    obtain ⟨x, hx, unanswered, -⟩ := deliveries m [] late [] (c.serves_node p _)
    have hasked : .askReceipt tx.hash ∈ x.actions := by
      rw [← Option.some.inj ((m.run_at [] [] late).symm.trans hx)]
      exact (List.mem_filter.1 ((askReceipt_mem_iff m [] late).2 ⟨rfl, m.start_admits _⟩)).1
    obtain ⟨hnone, logged, hlogged, -⟩ := unanswered _ (.receipt hasked hlate)
    have htext : (c.late "recibo da transação").message = "Timeout: recibo da transação excedeu 5s" := by decide
    rw [htext] at hlogged
    exact ⟨x, logged, hx, hnone, hlogged⟩
  · have hreceipt : (prompt.node.receipt tx.hash).value = .ok (some (told 1).receipt) := by
      refine (Client.receipt_eq_ok_some_iff c p _ .zero _).2 ?_
      exact ⟨succeeded, told 1, received _ _ (by simp), hsucceeded, (Transcript.receipt_eq_iff _ _).1 rfl⟩
    have hcode : (prompt.node.code contract).value = .ok [0x60, 0x01] := rfl
    have hd : m.Deploys prompt.node tx m.start contract [0x60, 0x01] [⟨0, 0x60, some [0x01]⟩] :=
      { admitted := m.start_admits _
        recipient := .inl rfl
        receipt := ⟨_, hreceipt, rfl, rfl, by decide⟩
        fetched := hcode
        nonempty := by decide
        decoded := congrArg Except.ok (Instruction.decode_last (by decide)) }
    obtain ⟨a, hending⟩ : ∃ a, m.ending [] prompt = .ok a := ⟨_, analyze_result_of_deploys .epoch hd⟩
    obtain ⟨x, hx, -, alert⟩ := deliveries m [] prompt [] (c.serves_node p _)
    have halert : x.alert = some a := by
      rw [← Option.some.inj ((m.run_at [] [] prompt).symm.trans hx)]
      exact outcome_alert_eq_some_iff.2 hending
    obtain ⟨v, t, hv, hread, hstatus, hcontract, -⟩ := alert a halert _ rfl
    obtain rfl := hv.unique (received succeeded _ (by simp))
    exact ⟨a, t, hending, hread, hstatus, hcontract⟩

end Monitor

end ContractWatch
