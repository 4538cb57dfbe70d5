import ContractWatch.Proofs.Alert
import ContractWatch.Proofs.Monitor.Trace
import ContractWatch.Proofs.Text.Utf8

/-!
What a notifier is told. Of every alert it gets one message, from which a reader has the alert again.
-/

namespace ContractWatch

namespace Action

def message? : Action → Option (List UInt8)
  | .notify bs => some bs
  | _ => none

/-- What a notifier was told. -/
def messages (acts : List Action) : List (List UInt8) := acts.filterMap message?

@[simp] theorem messages_nil : messages [] = [] := rfl

@[simp] theorem messages_append (xs ys : List Action) : messages (xs ++ ys) = messages xs ++ messages ys :=
  List.filterMap_append ..

@[simp] theorem messages_logs (rs : List Record) : messages (rs.map .log) = [] := by
  simp [messages, message?]

@[simp] theorem messages_cons (a : Action) (acts : List Action) :
    messages (a :: acts) = (message? a).toList ++ messages acts := by
  cases h : message? a <;> simp [messages, h]

end Action

namespace Monitor

open ContractWatch.Action (messages)

variable (m : Monitor) (node : Node) (now : Instant) (tx : Transaction) (s : State)

theorem messages_describe (h : TxHash) (a : Address) (code : List UInt8) (is : List Instruction) :
    messages (m.describe h a code is).2 = [] := by
  simp only [describe, payload_actions, analysis_actions, Action.messages_append, Action.messages_logs]
  cases m.analyzer with
  | none => rfl
  | some x => simp [Action.message?]

theorem messages_askedReceipt (h : TxHash) : messages (node.askedReceipt h) = [] := by
  simp [Node.askedReceipt, Action.message?]

theorem messages_askedCode (a : Address) : messages (node.askedCode a) = [] := by
  simp [Node.askedCode, Action.message?]

variable {m node tx} in
theorem Course.messages_eq_nil {o : Outcome Deployment} (h : m.Course node tx o) : messages o.actions = [] := by
  cases h with
  | transfer ht => rfl
  | unplaced ht hp => exact messages_askedReceipt node tx.hash
  | codeless ht hp => simp [messages_askedReceipt, messages_askedCode]
  | undecoded ht hp => simp [messages_askedReceipt, messages_askedCode, Action.message?]
  | described ht hp => simp [messages_askedReceipt, messages_askedCode, messages_describe, Action.message?]

theorem messages_analyze : messages (m.analyze node now tx s).1.actions = [] := by
  by_cases h : s.Admits tx.hash
  · rw [analyze_of_admits now h]
    exact (course_survey m node tx).messages_eq_nil
  · rw [analyze_of_not_admits now h]
    rfl

theorem messages_told (notifier : Notifier) (alert : Option Alert) :
    messages (told (some notifier) alert) = alert.toList.map fun a => Utf8.bytes a.text := by
  cases alert with
  | none => rfl
  | some a =>
    rw [told, tell_eq, Action.messages_cons, Action.messages_logs]
    rfl

/-- The notifier is told of the alert, once and of nothing else. -/
theorem messages_process (notifier : Notifier) :
    messages (m.process node notifier now tx s).1.actions =
      (m.process node notifier now tx s).1.alert.toList.map fun a => Utf8.bytes a.text := by
  rw [process_eq, deliver_eq, handle_eq]
  simp only [Action.messages_append, messages_analyze, messages_told, Action.messages_cons, List.nil_append]
  rfl

variable {m node now tx s} in
/-- Of the alert of a transaction the notifier gets one message, and the alert is read back from it unless its analysis
embeds a text. -/
theorem exists_message {notifier : Notifier} {a : Alert} (h : (m.process node notifier now tx s).1.alert = some a)
    (ht : a.Typed) (hf : a.Fits) :
    ∃ bs, messages (m.process node notifier now tx s).1.actions = [bs] ∧
      ((Utf8.decode? bs).bind Alert.parse? = some a.readBack ↔ a.EmbedsNone) := by
  refine ⟨Utf8.bytes a.text, ?_, ?_⟩
  · rw [messages_process, h]
    rfl
  · rw [Utf8.decode_bytes, Option.bind_some, Alert.parse?_text_iff ht hf]

end Monitor

end ContractWatch
