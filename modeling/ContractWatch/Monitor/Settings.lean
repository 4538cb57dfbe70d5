import ContractWatch.Environment
import ContractWatch.Json.Shape

/-!
Settings of a monitor. What the environment leaves out, or gives in no readable form, keeps its default.
-/

namespace ContractWatch

structure Settings where
  /-- Handle a transaction hash once only. -/
  dedup : Bool := true
  compressPayload : Bool := true
  extendedAnalysis : Bool := false
  maxPayloadBytes : UInt64 := 524288
  /-- A table of functions in place of the known one. -/
  functionsPath : Option String := none
  eventsPath : Option String := none
  deriving DecidableEq

namespace Settings

def keys : List String :=
  ["dedup", "compress_payload", "extended_analysis", "max_payload_bytes", "functions_path", "events_path"]

def toJson (s : Settings) : Json :=
  .record [("dedup", .bool s.dedup), ("compress_payload", .bool s.compressPayload),
    ("extended_analysis", .bool s.extendedAnalysis), ("max_payload_bytes", .nat s.maxPayloadBytes.toNat),
    ("functions_path", .option .text s.functionsPath), ("events_path", .option .text s.eventsPath)]

def ofJson? (v : Json) : Option Settings := do
  match ← v.members? keys 0 with
  | [some dedup, some compress, some extended, some limit, functions, events] =>
    return { dedup := ← dedup.asBool?, compressPayload := ← compress.asBool?,
             extendedAnalysis := ← extended.asBool?, maxPayloadBytes := ← limit.asWord?,
             functionsPath := ← Json.asOptional? Json.asText? functions,
             eventsPath := ← Json.asOptional? Json.asText? events }
  | _ => none

def dedupVariable : String := "DEPLOY_DETECTOR_DEDUP"

def compressVariable : String := "DEPLOY_DETECTOR_COMPRESS"

def extendedVariable : String := "DEPLOY_DETECTOR_EXTENDED_ANALYSIS"

def limitVariable : String := "DEPLOY_DETECTOR_MAX_PAYLOAD_BYTES"

def functionsVariable : String := "DEPLOY_DETECTOR_FUNCTIONS_PATH"

def eventsVariable : String := "DEPLOY_DETECTOR_EVENTS_PATH"

def ofEnvironment (env : Environment) : Settings :=
  let defaults : Settings := {}
  { dedup := (env.flag? dedupVariable).getD defaults.dedup
    compressPayload := (env.flag? compressVariable).getD defaults.compressPayload
    extendedAnalysis := (env.flag? extendedVariable).getD defaults.extendedAnalysis
    maxPayloadBytes := (env.word? limitVariable).getD defaults.maxPayloadBytes
    functionsPath := env.filled? functionsVariable
    eventsPath := env.filled? eventsVariable }

end Settings

end ContractWatch
