import ContractWatch.Chain.Transaction
import ContractWatch.Json.Free
import ContractWatch.Payload
import ContractWatch.Severity
import ContractWatch.Signature.Resolution
import ContractWatch.Time.Rfc3339

/-!
Alerts: one for every deployed contract, numbered in the order in which they are made.
-/

namespace ContractWatch

open Signature (Match Resolution)

structure Alert.Metadata where
  transaction : TxHash
  contract : Address
  functions : List Match
  unknownFunctions : List String
  events : List Match
  unknownEvents : List String
  /-- The code as hexadecimal text. -/
  bytecode : String
  payload : Option Payload
  analysis : Option Json

structure Alert where
  id : String
  name : String
  description : String
  severity : Severity
  createdAt : Instant
  metadata : Alert.Metadata

namespace Alert

namespace Metadata

/-- The last two may be missing. -/
def keys : List String :=
  ["transaction", "contractAddress", "functions", "unknownFunctions", "events", "unknownEvents", "bytecode",
   "opcodes", "analysis"]

/-- A member that is left out where there is no value. -/
def optional {α : Type} (k : String) (f : α → Json) : Option α → List (String × Json)
  | some a => [(k, f a)]
  | none => []

def toJson (m : Metadata) : Json :=
  .record ([("transaction", m.transaction.toJson), ("contractAddress", m.contract.toJson),
    ("functions", .list (m.functions.map Match.toJson)), ("unknownFunctions", .texts m.unknownFunctions),
    ("events", .list (m.events.map Match.toJson)), ("unknownEvents", .texts m.unknownEvents),
    ("bytecode", .text m.bytecode)] ++
    optional "opcodes" Payload.toJson m.payload ++ optional "analysis" (fun v => v) m.analysis)

/-- Two levels of nesting are around an analysis. -/
def analysis? (v : Json) : Option Json := if v.depth + 2 ≤ Json.maxDepth then v.canonical? else none

def ofJson? (v : Json) : Option Metadata := do
  match ← v.members? keys 2 with
  | [some transaction, some contract, some functions, some unknownFunctions, some events, some unknownEvents,
      some bytecode, payload, analysis] =>
    return { transaction := ← Octets.ofJson? transaction, contract := ← Octets.ofJson? contract,
             functions := ← functions.asList? Match.ofJson?,
             unknownFunctions := ← unknownFunctions.asList? Json.asText?,
             events := ← events.asList? Match.ofJson?, unknownEvents := ← unknownEvents.asList? Json.asText?,
             bytecode := ← bytecode.asText?, payload := ← Json.asOptional? Payload.ofJson? payload,
             analysis := ← Json.asOptional? analysis? analysis }
  | _ => none

end Metadata

def keys : List String := ["id", "name", "description", "severity", "createdAt", "metadata"]

def toJson (a : Alert) : Json :=
  .record [("id", .text a.id), ("name", .text a.name), ("description", .text a.description),
    ("severity", a.severity.toJson), ("createdAt", Rfc3339.toJson a.createdAt), ("metadata", a.metadata.toJson)]

def ofJson? (v : Json) : Option Alert := do
  match ← v.members? keys 0 with
  | [some id, some name, some description, some severity, some createdAt, some metadata] =>
    return { id := ← id.asText?, name := ← name.asText?, description := ← description.asText?,
             severity := ← Severity.ofJson? severity, createdAt := ← Rfc3339.ofJson? createdAt,
             metadata := ← Metadata.ofJson? metadata }
  | _ => none

def text (a : Alert) : String := a.toJson.render

def parse? (s : String) : Option Alert := (Json.parseText s).bind ofJson?

end Alert

/-- What is known of a contract before its alert is made. -/
structure Deployment where
  contract : Address
  functions : Resolution := .empty
  events : Resolution := .empty
  code : List UInt8 := []
  payload : Option Payload := none
  analysis : Option Json := none

namespace Alert

def title : String := "Contract deconstruct"

/-- The first four bytes of the address, spelled with its checksum. -/
def badge (a : Address) : List Char := a.checksum.take 8

def idOf (contract : Address) (now : Instant) (number : UInt64) : String :=
  String.ofList ('C' :: 'D' :: '-' :: (badge contract ++ '-' :: (Decimal.intDigits now.millis ++
    '-' :: Decimal.digits number.toNat)))

def of (tx : TxHash) (d : Deployment) (now : Instant) (number : UInt64) : Alert where
  id := idOf d.contract now number
  name := title
  description := title ++ String.ofList (' ' :: '0' :: 'x' :: badge d.contract)
  severity := .info
  createdAt := now
  metadata := {
    transaction := tx
    contract := d.contract
    functions := d.functions.found
    unknownFunctions := d.functions.unresolved
    events := d.events.found
    unknownEvents := d.events.unresolved
    bytecode := Hex.prefixed d.code
    payload := d.payload
    analysis := d.analysis }

/-- The number of the next alert. After 2^64 alerts numbers begin again. -/
structure Series where
  number : UInt64 := 0
  deriving DecidableEq

def Series.issue (s : Series) (tx : TxHash) (d : Deployment) (now : Instant) : Alert × Series :=
  (of tx d now s.number, ⟨s.number + 1⟩)

end Alert

end ContractWatch
