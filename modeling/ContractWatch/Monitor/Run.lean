import ContractWatch.Monitor.Seen
import ContractWatch.Monitor.Survey

/-!
A monitor at work. Its state is the hashes that it has seen and the number of its next alert; a transaction is
surveyed once admitted, and an alert is numbered only when it is made.
-/

namespace ContractWatch.Monitor

structure State where
  /-- Absent where the same hash may be handled again. -/
  seen : Option Seen
  series : Alert.Series := {}
  deriving DecidableEq

def start (m : Monitor) : State := { seen := if m.settings.dedup then some .empty else none }

namespace State

def enroll (s : State) (h : TxHash) : Bool × State :=
  match s.seen with
  | none => (true, s)
  | some seen => ((seen.enroll h).1, { s with seen := some (seen.enroll h).2 })

def mark (s : State) (h : TxHash) : State := { s with seen := s.seen.map fun seen => seen.mark h }

def has? (s : State) (h : TxHash) : Option Bool := s.seen.map fun seen => seen.has h

end State

/-- Makes the alert for a transaction, or says why there is none. -/
def analyze (m : Monitor) (node : Node) (now : Instant) (tx : Transaction) (s : State) : Outcome Alert × State :=
  let s := s.enroll tx.hash
  if s.1 then
    let o := m.survey node tx
    match o.result with
    | .error reason => (⟨.error reason, o.actions⟩, s.2)
    | .ok d =>
      let made := s.2.series.issue tx.hash d now
      (⟨.ok made.1, o.actions⟩, { s.2 with series := made.2 })
  else (⟨.error .alreadyProcessed, []⟩, s.2)

def analyzed (tx : TxHash) (a : Alert) : Record where
  level := .info
  message := some "contrato implantado analisado"
  fields := [("tx", tx.text), ("contract", a.metadata.contract.text),
    ("functions", Decimal.text a.metadata.functions.length), ("events", Decimal.text a.metadata.events.length)]

def notifyFailed (a : Alert) (e : Failure) : Record where
  level := .warn
  message := some "falha ao notificar alerta"
  fields := [("alert", a.id), ("error", e.message)]

/-- What came of a delivered transaction. -/
structure Handled where
  alert : Option Alert
  actions : List Action

/-- Analyzes a transaction and logs how that ended. -/
def handle (m : Monitor) (node : Node) (now : Instant) (tx : Transaction) (s : State) : Handled × State :=
  let r := m.analyze node now tx s
  match r.1.result with
  | .ok a => (⟨some a, r.1.actions ++ [.log (analyzed tx.hash a)]⟩, r.2)
  | .error reason => (⟨none, r.1.actions ++ [.log (reason.record tx.hash)]⟩, r.2)

/-- Sends the JSON text of an alert. There is no alert without one. -/
def tell (notifier : Notifier) (a : Alert) : List Action :=
  let message := Utf8.bytes a.text
  let reply := notifier.notify message
  let told := .notify message :: reply.records.map .log
  match reply.value with
  | .ok _ => told
  | .error e => told ++ [.log (notifyFailed a e)]

/-- Handles a transaction and tells the notifier of its alert. -/
def process (m : Monitor) (node : Node) (notifier : Notifier) (now : Instant) (tx : Transaction) (s : State) :
    Handled × State :=
  let r := m.handle node now tx s
  match r.1.alert with
  | some a => ({ r.1 with actions := r.1.actions ++ tell notifier a }, r.2)
  | none => r

/-- A transaction with the world at the time of its delivery. Without a notifier nobody is told. -/
structure Delivery where
  tx : Transaction
  node : Node
  now : Instant
  notifier : Option Notifier := none

def deliver (m : Monitor) (d : Delivery) (s : State) : Handled × State :=
  match d.notifier with
  | some notifier => m.process d.node notifier d.now d.tx s
  | none => m.handle d.node d.now d.tx s

def run (m : Monitor) : List Delivery → State → List Handled × State
  | [], s => ([], s)
  | d :: ds, s =>
    let r := m.deliver d s
    let rest := m.run ds r.2
    (r.1 :: rest.1, rest.2)

end ContractWatch.Monitor
