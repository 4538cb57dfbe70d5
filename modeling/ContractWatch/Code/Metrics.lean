import ContractWatch.Chain.Address
import ContractWatch.Code.Instruction
import ContractWatch.Json.Free

/-!
Measures of a code, and the analysis of a deployed contract that an alert may carry.
-/

namespace ContractWatch

structure Metrics where
  byteLength : Nat
  instructionCount : Nat
  pushCount : Nat
  codeHash : String
  deriving DecidableEq

namespace Metrics

def measure (code : List UInt8) (is : List Instruction) : Metrics where
  byteLength := code.length
  instructionCount := is.length
  pushCount := is.countP fun i => i.data.isSome
  codeHash := Hex.prefixed (Keccak.hash code)

def keys : List String := ["byteLength", "instructionCount", "pushCount", "codeHash"]

def toJson (m : Metrics) : Json :=
  .record [("byteLength", .nat m.byteLength), ("instructionCount", .nat m.instructionCount),
    ("pushCount", .nat m.pushCount), ("codeHash", .text m.codeHash)]

def ofJson? (v : Json) : Option Metrics := do
  match ← v.members? keys 0 with
  | [some bytes, some instructions, some pushes, some hash] =>
    return { byteLength := ← bytes.asNat?, instructionCount := ← instructions.asNat?,
             pushCount := ← pushes.asNat?, codeHash := ← hash.asText? }
  | _ => none

end Metrics

/-- A further look at a deployed contract; its result goes into the alert as it is. -/
structure Analyzer where
  name : String
  analyze : Address → List UInt8 → List Instruction → Except Failure Json

/-- Reports the measures of the code, with members sorted by key. -/
def Analyzer.metrics : Analyzer where
  name := "code-metrics"
  analyze _ code is :=
    let v := (Metrics.measure code is).toJson
    .ok (v.canonical?.getD v)

end ContractWatch
