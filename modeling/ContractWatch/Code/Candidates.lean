import ContractWatch.Code.Instruction
import ContractWatch.Json.Shape

/-!
Constants in a code that may be function selectors or event topics, each kept once in the order of its
first appearance.
-/

namespace ContractWatch

structure Candidates where
  functions : List String
  events : List String
  deriving DecidableEq

namespace Candidates

def isEmpty (c : Candidates) : Bool := c.functions.isEmpty && c.events.isEmpty

/-- The scan in progress: the constants met, and those of either kind, last one first. -/
structure Scan where
  met : List (List UInt8) := []
  functions : List String := []
  events : List String := []

/-- Takes in the full data of a four byte or a 32 byte push, if it was not met before. -/
def Scan.step (s : Scan) (i : Instruction) : Scan :=
  if i.opcode = Opcode.push4 then
    match i.fullData? with
    | some bs => if bs ∈ s.met then s else { s with met := bs :: s.met, functions := Hex.text bs :: s.functions }
    | none => s
  else if i.opcode = Opcode.push32 then
    match i.fullData? with
    | some bs => if bs ∈ s.met then s else { s with met := bs :: s.met, events := Hex.text bs :: s.events }
    | none => s
  else s

def extract (is : List Instruction) : Candidates :=
  let s := is.foldl Scan.step {}
  ⟨s.functions.reverse, s.events.reverse⟩

def keys : List String := ["functions", "events"]

def toJson (c : Candidates) : Json :=
  .record [("functions", .texts c.functions), ("events", .texts c.events)]

def ofJson? (v : Json) : Option Candidates := do
  match ← v.members? keys 0 with
  | [some functions, some events] =>
    return { functions := ← functions.asList? Json.asText?, events := ← events.asList? Json.asText? }
  | _ => none

end Candidates

end ContractWatch
