import ContractWatch.Proofs.Monitor.Delivery

/-!
Transactions leave one another alone. Earlier deliveries decide whether a hash is still new and which number the
next alert gets, and nothing else; so the order of deliveries shows only in numbers and times of their alerts.
-/

namespace ContractWatch

/-- The alert without its number and its time. -/
def Alert.anonymous (a : Alert) : Alert := { a with id := "", createdAt := .epoch }

theorem Alert.anonymous_of (h : TxHash) (d : Deployment) (now now' : Instant) (n n' : UInt64) :
    (Alert.of h d now n).anonymous = (Alert.of h d now' n').anonymous := by
  simp only [anonymous, of]

/-- The record without the field in which an alert is named. -/
def Record.unnamed (r : Record) : Record := { r with fields := r.fields.filter fun f => f.1 ≠ "alert" }

/-- Alerts that differ only in number and time get the same answer, and the same records up to the field that
names the alert. -/
def Notifier.Impartial (notifier : Notifier) : Prop :=
  ∀ a b : Alert, a.anonymous = b.anonymous →
    (notifier.notify (Utf8.bytes a.text)).value = (notifier.notify (Utf8.bytes b.text)).value ∧
      (notifier.notify (Utf8.bytes a.text)).records.map Record.unnamed =
        (notifier.notify (Utf8.bytes b.text)).records.map Record.unnamed

theorem Notifier.log_impartial : Notifier.log.Impartial := by
  intro a b _
  simp [Notifier.log, Record.unnamed]

namespace Monitor

open ContractWatch.Action (calls records)

/-- Two ways that a delivery can come out which differ in number and time of the alert at most. What is done is the
same until the notifier is told, which then is told of an alert with the number and the time of its own. -/
structure Alike (notifier : Option Notifier) (x y : Handled) : Prop where
  alert : x.alert.map Alert.anonymous = y.alert.map Alert.anonymous
  until_told : ∃ acts, x.actions = acts ++ told notifier x.alert ∧ y.actions = acts ++ told notifier y.alert
  calls : calls x.actions = calls y.actions
  records : (∀ n, notifier = some n → n.Impartial) →
    (records x.actions).map Record.unnamed = (records y.actions).map Record.unnamed

variable {m : Monitor}

theorem unnamed_tellRecords {n : Notifier} (hn : n.Impartial) {a b : Alert} (h : a.anonymous = b.anonymous) :
    (tellRecords n a).map Record.unnamed = (tellRecords n b).map Record.unnamed := by
  obtain ⟨hvalue, hrecords⟩ := hn a b h
  simp only [tellRecords, List.map_append, hrecords, hvalue]
  split <;> rfl

theorem unnamed_records_told {notifier : Option Notifier} (hn : ∀ n, notifier = some n → n.Impartial)
    {x y : Option Alert} (h : x.map Alert.anonymous = y.map Alert.anonymous) :
    (records (told notifier x)).map Record.unnamed = (records (told notifier y)).map Record.unnamed := by
  cases notifier with
  | none => rfl
  | some n =>
    cases x with
    | none =>
      cases y with
      | none => rfl
      | some b => contradiction
    | some a =>
      cases y with
      | none => contradiction
      | some b =>
        rw [records_told, records_told]
        exact unnamed_tellRecords (hn n rfl) (Option.some.inj h)

/-- Ways to come out that are alike until the notifier is told are alike. -/
theorem alike_of_until_told {notifier : Option Notifier} {x y : Option Alert} (acts : List Action)
    (h : x.map Alert.anonymous = y.map Alert.anonymous) :
    Alike notifier ⟨x, acts ++ told notifier x⟩ ⟨y, acts ++ told notifier y⟩ where
  alert := h
  until_told := ⟨acts, rfl, rfl⟩
  calls := by simp [calls_told]
  records hn := by simp [unnamed_records_told hn h]

/-! ### One delivery after different histories -/

/-- Nothing that is logged about the end of an analysis tells the number or the time of an alert. -/
theorem conclusion_anonymous (h : TxHash) (r : Except SkipReason Alert) :
    conclusion h (r.map Alert.anonymous) = conclusion h r := by
  cases r <;> rfl

variable {before : List Delivery} {d : Delivery}

theorem analyze_after (h : (m.after before).Admits d.tx.hash) :
    (m.analyze d.node d.now d.tx (m.after before)).1.actions = (m.survey d.node d.tx).actions ∧
      (m.ending before d).map Alert.anonymous =
        (m.survey d.node d.tx).result.map fun x => (Alert.of d.tx.hash x .epoch 0).anonymous := by
  rw [ending, analyze_of_admits d.now h]
  refine ⟨rfl, ?_⟩
  rw [except_map_map]
  exact congrFun (congrArg _ (funext fun x => Alert.anonymous_of ..)) _

/-- A delivery that is admitted after two histories comes out alike. -/
theorem alike_of_admits {other : List Delivery} (now : Instant) (h : (m.after before).Admits d.tx.hash)
    (h' : (m.after other).Admits d.tx.hash) :
    (m.ending before d).map Alert.anonymous = (m.ending other { d with now := now }).map Alert.anonymous ∧
      Alike d.notifier (m.outcome before d) (m.outcome other { d with now := now }) := by
  obtain ⟨hacts, hend⟩ := analyze_after h
  obtain ⟨hacts', hend'⟩ := @analyze_after m other { d with now := now } h'
  have hsame := hend.trans hend'.symm
  refine ⟨hsame, ?_⟩
  rw [outcome_eq, outcome_eq, hacts, hacts', ← conclusion_anonymous, hsame, conclusion_anonymous]
  exact alike_of_until_told _ (by rw [← except_toOption_map, hsame, except_toOption_map])

/-! ### Reordered deliveries -/

/-- The alert that a transaction leads to where it is admitted, without number and time. -/
def report (m : Monitor) (node : Node) (tx : Transaction) : Option Alert :=
  ((m.survey node tx).result.map fun d => (Alert.of tx.hash d .epoch 0).anonymous).toOption

/-- The transactions that are looked into: each one once, where hashes are remembered. -/
def surveyed (m : Monitor) (txs : List Transaction) : List Transaction := if m.settings.dedup then txs.eraseDups else txs

theorem surveyed_perm {txs txs' : List Transaction} (h : txs.Perm txs') : (m.surveyed txs).Perm (m.surveyed txs') := by
  rw [surveyed, surveyed]
  split
  · exact perm_eraseDups h
  · exact h

/-- Equal hashes come with equal transactions, if it matters. -/
def Coherent (m : Monitor) (ds : List Delivery) : Prop :=
  m.settings.dedup = true → ∀ d ∈ ds, ∀ e ∈ ds, d.tx.hash = e.tx.hash → d.tx = e.tx

variable {ds : List Delivery}

theorem Coherent.surveyed_concat (hc : m.Coherent (ds ++ [d])) [Decidable ((m.after ds).Admits d.tx.hash)] :
    m.surveyed ((ds ++ [d]).map (·.tx)) =
      m.surveyed (ds.map (·.tx)) ++ if (m.after ds).Admits d.tx.hash then [d.tx] else [] := by
  rw [List.map_append, List.map_singleton, surveyed, surveyed]
  cases hm : m.settings.dedup with
  | false =>
    have hadm : (m.after ds).Admits d.tx.hash := (after_admits m ds _).2 (by simp [hm])
    simp [hadm]
  | true =>
    have hmem : d.tx ∈ ds.map (·.tx) ↔ ¬ (m.after ds).Admits d.tx.hash := by
      simp only [after_admits, hm, hashes, List.mem_map, forall_const, not_not]
      constructor
      · rintro ⟨e, he, hed⟩
        exact ⟨e, he, congrArg Transaction.hash hed⟩
      · rintro ⟨e, he, hed⟩
        exact ⟨e, he, hc hm e (List.mem_append_left _ he) d (List.mem_append_right _ List.mem_cons_self) hed⟩
    simp only [if_true, eraseDups_concat, hmem]
    by_cases h : (m.after ds).Admits d.tx.hash
    · simp [h]
    · simp [h]

/-- The alerts are those of the transactions by themselves. -/
theorem alerts_anonymous {node : Node} (hnode : ∀ d ∈ ds, d.node = node) (hc : m.Coherent ds) :
    (alerts (m.run ds m.start).1).map Alert.anonymous = (m.surveyed (ds.map (·.tx))).filterMap (m.report node) := by
  classical
  induction ds using List.reverseRecOn with
  | nil => simp [surveyed, run, alerts]
  | append_singleton ds d ih =>
    have hnode' : ∀ e ∈ ds, e.node = node := fun e he => hnode e (List.mem_append_left _ he)
    have hc' : m.Coherent ds := fun hm e he e' he' =>
      hc hm e (List.mem_append_left _ he) e' (List.mem_append_left _ he')
    have hlast : (m.ending ds d).toOption.toList.map Alert.anonymous =
        (if (m.after ds).Admits d.tx.hash then [d.tx] else []).filterMap (m.report node) := by
      split
      · rename_i h
        have hend := (analyze_after h).2
        rw [hnode d (List.mem_append_right _ List.mem_cons_self)] at hend
        rw [List.filterMap_cons, report, ← hend]
        cases m.ending ds d <;> rfl
      · rename_i h
        rw [ending, analyze_of_not_admits d.now h]
        rfl
    rw [alerts_concat, List.map_append, ih hnode' hc', hlast, hc.surveyed_concat, List.filterMap_append]

/-- A transaction with a new hash comes out alike after every history, and so a reordering of deliveries changes no
more of the alerts than their numbers and times. -/
theorem deliveries_independent (m : Monitor) :
    (∀ (before : List Delivery) (d : Delivery) (now : Instant),
      (m.settings.dedup = true → d.tx.hash ∉ hashes before) →
      (m.ending before d).map Alert.anonymous = (m.ending [] { d with now := now }).map Alert.anonymous ∧
        Alike d.notifier (m.outcome before d) (m.outcome [] { d with now := now })) ∧
    ∀ (node : Node) (ds es : List Delivery), (∀ d ∈ ds, d.node = node) → (∀ e ∈ es, e.node = node) →
      (m.settings.dedup = true → ∀ d ∈ ds, ∀ e ∈ ds, d.tx.hash = e.tx.hash → d.tx = e.tx) →
      (ds.map (·.tx)).Perm (es.map (·.tx)) →
      ((alerts (m.run ds m.start).1).map Alert.anonymous).Perm
        ((alerts (m.run es m.start).1).map Alert.anonymous) := by
  constructor
  · intro before d now h
    have hfresh : (m.after []).Admits d.tx.hash := (after_admits m [] _).2 fun _ => List.not_mem_nil
    exact alike_of_admits now ((after_admits m before _).2 h) hfresh
  · intro node ds es hds hes hc hperm
    have hc' : m.Coherent es := by
      intro hm d hd e he
      obtain ⟨d', hd', htx⟩ := List.mem_map.1 (hperm.mem_iff.2 (List.mem_map_of_mem hd))
      obtain ⟨e', he', htx'⟩ := List.mem_map.1 (hperm.mem_iff.2 (List.mem_map_of_mem he))
      rw [← htx, ← htx']
      exact hc hm d' hd' e' he'
    rw [alerts_anonymous hds hc, alerts_anonymous hes hc']
    exact (surveyed_perm hperm).filterMap _

/-- A deployment delivered twice, with a transfer before or after it. -/
theorem deliveries_independent_swap :
    let m : Monitor := { settings := {}, tables := ⟨.empty, .empty⟩ }
    let tx : Transaction := { hash := .zero, sender := .zero, recipient := none, block := none }
    let transfer : Transaction :=
      { hash := ⟨List.replicate 32 0x01, rfl⟩, sender := .zero, recipient := some ⟨List.replicate 20 0x02, rfl⟩,
        block := none }
    let node : Node := .ofContract ⟨List.replicate 20 0xab, rfl⟩ [0x60, 0x01]
    let d : Delivery := ⟨tx, node, .epoch, some .log⟩
    let e : Delivery := ⟨transfer, node, .epoch, none⟩
    (∃ a, m.ending [e] d = .ok a) ∧
      (records (m.outcome [e] d).actions).map Record.unnamed =
        (records (m.outcome [] d).actions).map Record.unnamed ∧
      ((alerts (m.run [e, d, d] m.start).1).map Alert.anonymous).Perm
        ((alerts (m.run [d, d, e] m.start).1).map Alert.anonymous) := by
  intro m tx transfer node d e
  obtain ⟨alike, reorder⟩ := deliveries_independent m
  have hnew : m.settings.dedup = true → d.tx.hash ∉ hashes [e] := by decide
  have hd : m.Deploys node tx (m.after [e]) ⟨List.replicate 20 0xab, rfl⟩ [0x60, 0x01]
      (Instruction.decode [0x60, 0x01]) :=
    deploys_of_node ((after_admits m [e] _).2 hnew) rfl (by decide) (by decide) rfl
  refine ⟨⟨_, analyze_result_of_deploys .epoch hd⟩, ?_, ?_⟩
  · refine (alike [e] d .epoch hnew).2.records fun n hn => ?_
    cases hn
    exact Notifier.log_impartial
  · exact reorder node [e, d, d] [d, d, e] (by simp [d, e]) (by simp [d, e]) (by decide)
      (@List.perm_append_comm _ [transfer] [tx, tx])

end Monitor

end ContractWatch
