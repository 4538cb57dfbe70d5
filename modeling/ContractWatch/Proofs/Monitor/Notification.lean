import ContractWatch.Proofs.Monitor.Journal
import ContractWatch.Proofs.Monitor.Messages

/-!
The notifier at the end of a delivery. It is told of every alert after everything else is done, and its answer goes
nowhere but into a warning: with other notifiers a run comes to the same alerts and the same state.
-/

namespace ContractWatch.Monitor

open ContractWatch.Action (messages)

variable {m : Monitor}

/-- The message about an alert, where there is a notifier to be told. -/
def message (hasNotifier : Bool) (alert : Option Alert) : List Action :=
  if hasNotifier then alert.toList.map fun a => .notify (Utf8.bytes a.text) else []

/-- What the notifier itself logs about an alert. -/
def echo : Option Notifier → Option Alert → List Record
  | some n, some a => (n.notify (Utf8.bytes a.text)).records
  | _, _ => []

/-- There was an alert, and telling of it failed. -/
def Unheard (notifier : Option Notifier) (alert : Option Alert) : Prop :=
  ∃ n a e, notifier = some n ∧ alert = some a ∧ (n.notify (Utf8.bytes a.text)).value = .error e

/-- The delivery did the given things, and after them left the records of its notifier and one warning if that
failed. -/
def EndsAfter (acts : List Action) (d : Delivery) (x : Handled) : Prop :=
  ∃ w, x.actions = acts ++ (echo d.notifier x.alert ++ w).map .log ∧
    WarnsIf (Unheard d.notifier x.alert) "falha ao notificar alerta" w

theorem told_eq (notifier : Option Notifier) (alert : Option Alert) :
    ∃ w, told notifier alert = message notifier.isSome alert ++ (echo notifier alert ++ w).map .log ∧
      WarnsIf (Unheard notifier alert) "falha ao notificar alerta" w := by
  cases notifier with
  | none => exact ⟨[], rfl, fun ⟨n, a, e, hn, _⟩ => by contradiction, fun _ => rfl⟩
  | some n =>
    cases alert with
    | none => exact ⟨[], rfl, fun ⟨n, a, e, _, ha, _⟩ => by contradiction, fun _ => rfl⟩
    | some a =>
      refine ⟨warning (notifyFailed a) (n.notify (Utf8.bytes a.text)).value, ?_, ?_⟩
      · rw [told, tell_eq, tellRecords_eq]
        rfl
      · exact warnsIf_warning _ (by simp [Unheard]) fun e => ⟨rfl, rfl⟩

theorem endsAfter_deliver (m : Monitor) (d : Delivery) (s : State) :
    let handled := (m.handle d.node d.now d.tx s).1
    EndsAfter (handled.actions ++ message d.notifier.isSome handled.alert) d (m.deliver d s).1 := by
  intro handled
  obtain ⟨w, htold, hw⟩ := told_eq d.notifier handled.alert
  refine ⟨w, ?_, ?_⟩
  · rw [deliver_eq]
    simp only [htold, List.append_assoc, handled]
  · rwa [deliver_eq]

/-- Deliveries of one transaction in one world, to notifiers that may answer differently. -/
structure SameWorld (d e : Delivery) : Prop where
  tx : d.tx = e.tx
  node : d.node = e.node
  now : d.now = e.now
  hasNotifier : d.notifier.isSome = e.notifier.isSome

/-- Up to the answers of the notifiers, two deliveries do the same. -/
structure SameAlert (x y : Delivery × Handled) : Prop where
  alert : x.2.alert = y.2.alert
  actions : ∃ acts, EndsAfter acts x.1 x.2 ∧ EndsAfter acts y.1 y.2

theorem SameWorld.deliver {d e : Delivery} (h : SameWorld d e) (s : State) :
    SameAlert (d, (m.deliver d s).1) (e, (m.deliver e s).1) ∧ (m.deliver d s).2 = (m.deliver e s).2 := by
  have hd := endsAfter_deliver m d s
  have he := endsAfter_deliver m e s
  rw [← h.tx, ← h.node, ← h.now, ← h.hasNotifier] at he
  refine ⟨⟨?_, _, hd, he⟩, ?_⟩
  · rw [deliver_eq, deliver_eq, ← h.tx, ← h.node, ← h.now]
  · rw [deliver_eq, deliver_eq, ← h.tx, ← h.node, ← h.now]

theorem run_of_sameWorld {ds es : List Delivery} (h : List.Forall₂ SameWorld ds es) (s : State) :
    (m.run ds s).1.map (·.alert) = (m.run es s).1.map (·.alert) ∧ (m.run ds s).2 = (m.run es s).2 ∧
      List.Forall₂ SameAlert (ds.zip (m.run ds s).1) (es.zip (m.run es s).1) := by
  induction h generalizing s with
  | nil => exact ⟨rfl, rfl, .nil⟩
  | cons hd _ ih =>
    obtain ⟨hsame, hstate⟩ := hd.deliver (m := m) s
    obtain ⟨halerts, hend, hrest⟩ := ih (m.deliver _ s).2
    -- no answer of a notifier is left in the state, so both runs go on from the same one
    simp only [run, List.map_cons, List.zip_cons_cons, ← hstate]
    exact ⟨List.cons_eq_cons.2 ⟨hsame.alert, halerts⟩, hend, .cons hsame hrest⟩

theorem process_alert (m : Monitor) (node : Node) (notifier : Notifier) (now : Instant) (tx : Transaction) (s : State) :
    (m.process node notifier now tx s).1.alert = (m.handle node now tx s).1.alert ∧
      (m.process node notifier now tx s).2 = (m.handle node now tx s).2 := by
  rw [process_eq, deliver_eq]
  exact ⟨rfl, rfl⟩

/-- With a notifier the alert and the state are those without one, and the notifier is told of the alert once and of
nothing else; from what it is told the alert is read back, unless its analysis embeds a text. So runs whose notifiers
answer differently come to the same alerts and states, and what they do differs in the records of the notifiers and in
one warning for each failure of theirs. -/
theorem notifier_boundary (m : Monitor) :
    (∀ node notifier now tx s,
      let handled := m.handle node now tx s
      let processed := m.process node notifier now tx s
      processed.1.alert = handled.1.alert ∧ processed.2 = handled.2 ∧
        messages processed.1.actions = (handled.1.alert.toList.map fun a => Utf8.bytes a.toJson.render) ∧
        ∀ a, handled.1.alert = some a → a.Typed → a.Fits →
          ∃ bs, messages processed.1.actions = [bs] ∧
            ((Utf8.decode? bs).bind Alert.parse? = some a.readBack ↔ a.EmbedsNone)) ∧
    ∀ ds es, List.Forall₂ SameWorld ds es → ∀ s,
      (m.run ds s).1.map (·.alert) = (m.run es s).1.map (·.alert) ∧ (m.run ds s).2 = (m.run es s).2 ∧
        List.Forall₂ SameAlert (ds.zip (m.run ds s).1) (es.zip (m.run es s).1) := by
  refine ⟨fun node notifier now tx s => ?_, fun ds es h s => run_of_sameWorld h s⟩
  obtain ⟨halert, hstate⟩ := m.process_alert node notifier now tx s
  refine ⟨halert, hstate, ?_, fun a ha ht hf => exists_message (halert.trans ha) ht hf⟩
  rw [messages_process, halert]
  rfl

/-- The same deployment delivered to a notifier that fails and to one that does not. -/
theorem notifier_boundary_failing :
    let m : Monitor := { settings := {}, tables := ⟨.empty, .empty⟩ }
    let tx : Transaction := { hash := .zero, sender := .zero, recipient := none, block := none }
    let node : Node := .ofContract ⟨List.replicate 20 0xab, rfl⟩ [0x60, 0x01]
    let failing : Notifier := { notify := fun _ => ⟨.error ⟨.io, ""⟩, []⟩ }
    let d : Delivery := ⟨tx, node, .epoch, some failing⟩
    let e : Delivery := { d with notifier := some .log }
    (∃ a bs, (m.run [d] m.start).1.map (·.alert) = [some a] ∧
      messages (m.process node failing .epoch tx m.start).1.actions = [bs] ∧
      (Utf8.decode? bs).bind Alert.parse? = some a) ∧
      (m.run [d] m.start).1.map (·.alert) = (m.run [e] m.start).1.map (·.alert) ∧
      (m.run [d] m.start).2 = (m.run [e] m.start).2 := by
  intro m tx node failing d e
  obtain ⟨each, runs⟩ := notifier_boundary m
  obtain ⟨halerts, hstate, -⟩ := runs [d] [e] (.cons ⟨rfl, rfl, rfl, rfl⟩ .nil) m.start
  refine ⟨?_, halerts, hstate⟩
  have hd : m.Deploys node tx m.start ⟨List.replicate 20 0xab, rfl⟩ [0x60, 0x01]
      (Instruction.decode [0x60, 0x01]) :=
    deploys_of_node (m.start_admits _) rfl (by decide) (by decide) rfl
  obtain ⟨a, halert, hnone⟩ := exists_alert_of_deploys (d := d) hd rfl
  obtain ⟨ht, hf, he, hback⟩ := Alert.plain_of_analysis_eq_none hnone
  obtain ⟨hsame, -, -, message⟩ := each node failing .epoch tx m.start
  obtain ⟨bs, hbs, hread⟩ := message a (hsame.symm.trans halert) ht hf
  rw [hback] at hread
  exact ⟨a, bs, congrArg (fun alert => [alert]) halert, hbs, hread.2 he⟩

end ContractWatch.Monitor
