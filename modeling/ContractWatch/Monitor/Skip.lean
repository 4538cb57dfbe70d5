import ContractWatch.Chain.Address
import ContractWatch.Monitor.Record

/-!
Why a transaction led to no alert.
-/

namespace ContractWatch

inductive SkipReason
  | alreadyProcessed
  | notCreation
  | receiptMissing
  | receiptUnavailable (e : Failure)
  | codeUnavailable (contract : Address) (e : Failure)
  | emptyCode (contract : Address)
  | undecodable (e : Failure)
  /-- Resolving was broken off from outside, which no survey does by itself. -/
  | unresolved (text : String)
  deriving DecidableEq

namespace SkipReason

def message : SkipReason → String
  | .alreadyProcessed => "transação já processada"
  | .notCreation => "não é criação de contrato"
  | .receiptMissing => "recibo ainda não disponível"
  | .receiptUnavailable e => "falha ao obter recibo: " ++ e.message
  | .codeUnavailable a e => "falha ao obter código de " ++ a.text ++ ": " ++ e.message
  | .emptyCode a => "bytecode vazio em " ++ a.text
  | .undecodable e => "falha ao decodificar bytecode: " ++ e.message
  | .unresolved text => "falha na resolução de assinaturas: " ++ text

/-- The failure behind the reason. -/
def source? : SkipReason → Option Failure
  | .receiptUnavailable e => some e
  | .codeUnavailable _ e => some e
  | .undecodable e => some e
  | _ => none

/-- Routine is for debugging, a failure of the node that may pass is information, and the rest is a warning. -/
def level : SkipReason → Level
  | .alreadyProcessed => .debug
  | .notCreation => .debug
  | .receiptMissing => .debug
  | .emptyCode _ => .debug
  | .receiptUnavailable e => if e.isTransient then .info else .warn
  | .codeUnavailable _ e => if e.isTransient then .info else .warn
  | .undecodable _ => .warn
  | .unresolved _ => .warn

/-- The heading under which a reason of the given level is logged. -/
def heading : Level → String
  | .debug => "transação ignorada"
  | .info => "falha remota, análise abortada"
  | .warn => "análise abortada"

def record (tx : TxHash) (x : SkipReason) : Record where
  level := x.level
  message := some (heading x.level)
  fields := [("tx", tx.text), ("reason", x.message)]

end SkipReason

end ContractWatch
