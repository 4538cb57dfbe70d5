import ContractWatch.Alert
import ContractWatch.Code.Candidates
import ContractWatch.Code.Metrics
import ContractWatch.Monitor.Action
import ContractWatch.Monitor.Settings

/-!
Finding out about a deployed contract. A survey needs nothing but the answers of the node, and the first stage that
fails ends it; the payload and the analysis are left out of the result where they fail.
-/

namespace ContractWatch

structure Monitor where
  settings : Settings
  tables : Signature.Tables
  decoder : Decoder := .lenient
  analyzer : Option Analyzer := none

namespace Monitor

def ofTables (settings : Settings) (tables : Signature.Tables) : Monitor where
  settings := settings
  tables := tables
  analyzer := if settings.extendedAnalysis then some .metrics else none

/-- A monitor with the tables that its settings name. -/
def ofFiles (settings : Settings) (file : String → Signature.StoredFile) : Except Failure Monitor :=
  (Signature.Tables.load (settings.functionsPath.map file) (settings.eventsPath.map file)).map (ofTables settings)

def withDecoder (m : Monitor) (decoder : Decoder) : Monitor := { m with decoder := decoder }

/-- Another analyzer, which runs only if the settings ask for one. -/
def withAnalyzer (m : Monitor) (a : Analyzer) : Monitor :=
  if m.settings.extendedAnalysis then { m with analyzer := some a } else m

def payloadOmitted (tx : TxHash) (e : Failure) : Record where
  level := .warn
  message := some "payload de opcodes omitido"
  fields := [("tx", tx.text), ("error", e.message)]

def analysisFailed (analyzer : String) (contract : Address) (e : Failure) : Record where
  level := .warn
  message := some "análise estendida falhou"
  fields := [("analyzer", analyzer), ("contract", contract.text), ("error", e.message)]

def payload (m : Monitor) (tx : TxHash) (is : List Instruction) : Option Payload × List Action :=
  match Payload.ofInstructions m.settings.compressPayload m.settings.maxPayloadBytes.toNat is with
  | .ok p => (some p, [])
  | .error e => (none, [.log (payloadOmitted tx e)])

def analysis (m : Monitor) (contract : Address) (code : List UInt8) (is : List Instruction) :
    Option Json × List Action :=
  match m.analyzer with
  | none => (none, [])
  | some a =>
    match a.analyze contract code is with
    | .ok v => (some v, [.analyze contract])
    | .error e => (none, [.analyze contract, .log (analysisFailed a.name contract e)])

/-- What the instructions tell about the contract. -/
def describe (m : Monitor) (tx : TxHash) (contract : Address) (code : List UInt8) (is : List Instruction) :
    Deployment × List Action :=
  let c := Candidates.extract is
  let p := m.payload tx is
  let a := m.analysis contract code is
  ({ contract := contract
     functions := m.tables.functions.resolve c.functions
     events := m.tables.events.resolve c.events
     code := code
     payload := p.1
     analysis := a.1 },
   p.2 ++ a.2)

def inspect (m : Monitor) (tx : TxHash) (contract : Address) (code : List UInt8) : Outcome Deployment :=
  if code.isEmpty then ⟨.error (.emptyCode contract), []⟩
  else
    match m.decoder code with
    | .error e => ⟨.error (.undecodable e), [.decode code]⟩
    | .ok is =>
      let d := m.describe tx contract code is
      ⟨.ok d.1, .decode code :: d.2⟩

def fetch (m : Monitor) (node : Node) (tx : TxHash) (contract : Address) : Outcome Deployment :=
  let reply := node.code contract
  let asked := .askCode contract :: reply.records.map .log
  match reply.value with
  | .error e => ⟨.error (.codeUnavailable contract e), asked⟩
  | .ok code => (m.inspect tx contract code).after asked

def survey (m : Monitor) (node : Node) (tx : Transaction) : Outcome Deployment :=
  if tx.isCreation then
    let reply := node.receipt tx.hash
    let asked := .askReceipt tx.hash :: reply.records.map .log
    match reply.value with
    | .error e => ⟨.error (.receiptUnavailable e), asked⟩
    | .ok none => ⟨.error .receiptMissing, asked⟩
    | .ok (some r) =>
      match tx.deployed? (some r) with
      | none => ⟨.error .notCreation, asked⟩
      | some contract => (m.fetch node tx.hash contract).after asked
  else ⟨.error .notCreation, []⟩

end Monitor

end ContractWatch
