import ContractWatch.Proofs.Distinct
import ContractWatch.Proofs.Monitor.Seen
import ContractWatch.Proofs.Monitor.Stages

/-!
One delivery after others. What a delivery does is said by its analysis alone; what the deliveries before it leave
behind is the list of their hashes and the number of their alerts.
-/

namespace ContractWatch

namespace Action

@[simp] theorem records_nil : records [] = [] := rfl

@[simp] theorem calls_append (xs ys : List Action) : calls (xs ++ ys) = calls xs ++ calls ys := List.filter_append ..

@[simp] theorem records_append (xs ys : List Action) : records (xs ++ ys) = records xs ++ records ys :=
  List.filterMap_append ..

theorem calls_cons (a : Action) (acts : List Action) :
    calls (a :: acts) = if a.isCall then a :: calls acts else calls acts := List.filter_cons

@[simp] theorem records_cons (a : Action) (acts : List Action) :
    records (a :: acts) = (record? a).toList ++ records acts := by
  cases h : record? a <;> simp [records, h]

@[simp] theorem calls_logs (rs : List Record) : calls (rs.map .log) = [] := by
  simp [calls, isCall, List.filter_eq_nil_iff]

@[simp] theorem records_logs (rs : List Record) : records (rs.map .log) = rs := by
  induction rs with
  | nil => rfl
  | cons r rs ih => simpa [records, record?] using ih

end Action

/-- Results that look the same through `f` look the same through all that `f` tells. -/
theorem except_map_eq_of_map_eq {ε α β γ : Type} {f : α → β} {g : α → γ} {x y : Except ε α} (h : x.map f = y.map f)
    (hg : ∀ a b, f a = f b → g a = g b) : x.map g = y.map g := by
  cases x with
  | error e => cases y with
    | error e' => exact congrArg Except.error (Except.error.inj h)
    | ok b => contradiction
  | ok a => cases y with
    | error e' => contradiction
    | ok b => exact congrArg Except.ok (hg a b (Except.ok.inj h))

theorem except_map_map {ε α β γ : Type} (f : α → β) (g : β → γ) (x : Except ε α) :
    (x.map f).map g = x.map fun a => g (f a) := by
  cases x <;> rfl

theorem except_toOption_map {ε α β : Type} (f : α → β) (x : Except ε α) :
    (x.map f).toOption = x.toOption.map f := by
  cases x <;> rfl

namespace Monitor

open ContractWatch.Action (calls records)

variable {m : Monitor} {s : State}

/-! ### Deliveries in terms of analyses -/

/-- The record of how an analysis ended. -/
def conclusion (h : TxHash) : Except SkipReason Alert → Record
  | .ok a => analyzed h a
  | .error x => x.record h

/-- What it takes to tell a notifier of an alert, where there are both. -/
def told : Option Notifier → Option Alert → List Action
  | some notifier, some a => tell notifier a
  | _, _ => []

theorem handle_eq (m : Monitor) (node : Node) (now : Instant) (tx : Transaction) (s : State) :
    m.handle node now tx s =
      (⟨(m.analyze node now tx s).1.result.toOption,
        (m.analyze node now tx s).1.actions ++ [.log (conclusion tx.hash (m.analyze node now tx s).1.result)]⟩,
       (m.analyze node now tx s).2) := by
  cases hr : (m.analyze node now tx s).1.result with
  | error x => simp [handle, hr, conclusion, Except.toOption]
  | ok a => simp [handle, hr, conclusion, Except.toOption]

theorem deliver_eq (m : Monitor) (d : Delivery) (s : State) :
    m.deliver d s =
      let handled := m.handle d.node d.now d.tx s
      (⟨handled.1.alert, handled.1.actions ++ told d.notifier handled.1.alert⟩, handled.2) := by
  obtain ⟨tx, node, now, notifier⟩ := d
  cases notifier with
  | none => simp [deliver, told]
  | some notifier =>
    simp only [deliver, process]
    obtain ⟨⟨alert, actions⟩, s'⟩ := m.handle node now tx s
    cases alert with
    | none => simp [told]
    | some a => simp [told]

theorem process_eq (m : Monitor) (node : Node) (notifier : Notifier) (now : Instant) (tx : Transaction) (s : State) :
    m.process node notifier now tx s = m.deliver ⟨tx, node, now, some notifier⟩ s := rfl

theorem deliver_state (m : Monitor) (d : Delivery) (s : State) :
    (m.deliver d s).2 = (m.analyze d.node d.now d.tx s).2 := by
  rw [deliver_eq, handle_eq]

theorem deliver_alert (m : Monitor) (d : Delivery) (s : State) :
    (m.deliver d s).1.alert = (m.analyze d.node d.now d.tx s).1.result.toOption := by
  rw [deliver_eq, handle_eq]

/-- A deployment leads to an alert, and without an analyzer to one without analysis. -/
theorem exists_alert_of_deploys {d : Delivery} {contract : Address} {code : List UInt8} {is : List Instruction}
    (hd : m.Deploys d.node d.tx s contract code is) (hm : m.analyzer = none) :
    ∃ a, (m.deliver d s).1.alert = some a ∧ a.metadata.analysis = none := by
  have halert := (deliver_alert m d s).trans (congrArg Except.toOption (analyze_result_of_deploys d.now hd))
  refine ⟨_, halert, ?_⟩
  rw [Alert.of, describe_analysis, hm]
  rfl

/-! ### Telling a notifier -/

/-- What is logged when a notifier is told of an alert. -/
def tellRecords (notifier : Notifier) (a : Alert) : List Record :=
  let reply := notifier.notify (Utf8.bytes a.text)
  reply.records ++ match reply.value with
    | .ok _ => []
    | .error e => [notifyFailed a e]

theorem tell_eq (notifier : Notifier) (a : Alert) :
    tell notifier a = .notify (Utf8.bytes a.text) :: (tellRecords notifier a).map .log := by
  simp only [tell, tellRecords]
  cases (notifier.notify (Utf8.bytes a.text)).value with
  | ok _ => simp
  | error e => simp

theorem calls_told (notifier : Option Notifier) (alert : Option Alert) : calls (told notifier alert) = [] := by
  cases notifier with
  | none => rfl
  | some n =>
    cases alert with
    | none => rfl
    | some a =>
      rw [told, tell_eq]
      exact Action.calls_logs (tellRecords n a)

theorem records_told (n : Notifier) (a : Alert) : records (told (some n) (some a)) = tellRecords n a := by
  rw [told, tell_eq]
  exact Action.records_logs (tellRecords n a)

/-! ### Histories -/

/-- The state in which deliveries leave a new monitor. -/
def after (m : Monitor) (ds : List Delivery) : State := (m.run ds m.start).2

/-- How the analysis ends at a delivery that comes after the given ones. -/
def ending (m : Monitor) (before : List Delivery) (d : Delivery) : Except SkipReason Alert :=
  (m.analyze d.node d.now d.tx (m.after before)).1.result

/-- What comes of a delivery after the given ones. -/
def outcome (m : Monitor) (before : List Delivery) (d : Delivery) : Handled := (m.deliver d (m.after before)).1

theorem run_append (m : Monitor) (ds es : List Delivery) (s : State) :
    m.run (ds ++ es) s =
      ((m.run ds s).1 ++ (m.run es (m.run ds s).2).1, (m.run es (m.run ds s).2).2) := by
  induction ds generalizing s with
  | nil => rfl
  | cons d ds ih => simp [run, ih]

theorem run_length (m : Monitor) (ds : List Delivery) (s : State) : (m.run ds s).1.length = ds.length := by
  induction ds generalizing s with
  | nil => rfl
  | cons d ds ih => simp [run, ih]

theorem after_concat (m : Monitor) (ds : List Delivery) (d : Delivery) :
    m.after (ds ++ [d]) = (m.deliver d (m.after ds)).2 := by
  rw [after, run_append]
  rfl

theorem run_concat (m : Monitor) (ds : List Delivery) (d : Delivery) :
    (m.run (ds ++ [d]) m.start).1 = (m.run ds m.start).1 ++ [m.outcome ds d] := by
  rw [run_append]
  rfl

/-- A run is made of what comes of each delivery after those before it. -/
theorem run_at (m : Monitor) (before after : List Delivery) (d : Delivery) :
    (m.run (before ++ d :: after) m.start).1[before.length]? = some (m.outcome before d) := by
  rw [run_append, List.getElem?_append_right (Nat.le_of_eq (m.run_length before m.start)), run_length,
    Nat.sub_self]
  rfl

theorem outcome_alert (m : Monitor) (before : List Delivery) (d : Delivery) :
    (m.outcome before d).alert = (m.ending before d).toOption :=
  deliver_alert m d (m.after before)

theorem outcome_alert_eq_some_iff {before : List Delivery} {d : Delivery} {a : Alert} :
    (m.outcome before d).alert = some a ↔ m.ending before d = .ok a := by
  rw [outcome_alert]
  cases m.ending before d <;> simp [Except.toOption]

theorem outcome_eq (m : Monitor) (before : List Delivery) (d : Delivery) :
    m.outcome before d =
      let acts := (m.analyze d.node d.now d.tx (m.after before)).1.actions ++
        [.log (conclusion d.tx.hash (m.ending before d))]
      ⟨(m.ending before d).toOption, acts ++ told d.notifier (m.ending before d).toOption⟩ := by
  rw [outcome, deliver_eq, handle_eq]
  rfl

theorem calls_outcome (m : Monitor) (before : List Delivery) (d : Delivery) :
    calls (m.outcome before d).actions = calls (m.analyze d.node d.now d.tx (m.after before)).1.actions := by
  rw [outcome_eq]
  simp only [Action.calls_append, calls_told, List.append_nil]
  exact List.append_nil _

/-- The alerts among what came of deliveries. -/
def alerts (hs : List Handled) : List Alert := hs.filterMap fun h => h.alert

theorem alerts_concat (m : Monitor) (ds : List Delivery) (d : Delivery) :
    alerts (m.run (ds ++ [d]) m.start).1 =
      alerts (m.run ds m.start).1 ++ (m.ending ds d).toOption.toList := by
  rw [run_concat, alerts, List.filterMap_append, ← outcome_alert]
  cases h : (m.outcome ds d).alert <;> simp [alerts, h]

/-! ### What a history leaves behind -/

/-- The hashes of deliveries, as often as they are delivered. -/
def hashes (ds : List Delivery) : List TxHash := ds.map fun d => d.tx.hash

@[simp] theorem hashes_concat (ds : List Delivery) (d : Delivery) :
    hashes (ds ++ [d]) = hashes ds ++ [d.tx.hash] := by
  rw [hashes, List.map_append]
  rfl

theorem admits_of_seen {b : Bool} {hs : List TxHash} (h : s.seen = if b then some (.ofHashes hs) else none)
    (hash : TxHash) : s.Admits hash ↔ (b = true → hash ∉ hs) := by
  cases b with
  | false => simp [State.Admits, h]
  | true => simp [State.Admits, h, ← Seen.has_ofHashes]

/-- Remembered are the hashes of all deliveries so far, each one once and with its flag up. -/
theorem after_seen (m : Monitor) (ds : List Delivery) :
    (m.after ds).seen = if m.settings.dedup then some (.ofHashes (hashes ds).eraseDups) else none := by
  induction ds using List.reverseRecOn with
  | nil => rfl
  | append_singleton ds d ih =>
    have hadm := admits_of_seen ih d.tx.hash
    rw [after_concat, deliver_state, hashes_concat, eraseDups_concat]
    by_cases h : (m.after ds).Admits d.tx.hash
    · rw [analyze_of_admits d.now h]
      simp only [State.settle, State.mark, ih]
      split
      · rename_i hdedup
        have hnew : d.tx.hash ∉ (hashes ds).eraseDups := hadm.1 h hdedup
        rw [Option.map_some, Seen.mark_ofHashes hnew, if_neg (mt List.mem_eraseDups.2 hnew)]
      · rfl
    · rw [analyze_of_not_admits d.now h, ih]
      simp only [hadm, Classical.not_imp, not_not, List.mem_eraseDups] at h
      rw [if_pos h.1, if_pos h.1, if_pos h.2]

theorem after_admits (m : Monitor) (ds : List Delivery) (h : TxHash) :
    (m.after ds).Admits h ↔ (m.settings.dedup = true → h ∉ hashes ds) := by
  rw [admits_of_seen (after_seen m ds), List.mem_eraseDups]

end Monitor

end ContractWatch
