import ContractWatch.Chain.Transaction
import ContractWatch.Monitor.Skip
import ContractWatch.Text.Utf8

/-!
The world around a monitor: the node that it asks, the notifier that it tells, and the trace of what it does.
-/

namespace ContractWatch

/-- What a node answers. It knows no receipt of a transaction that no block holds yet, and an account without
code has the empty code. -/
structure Node where
  receipt : TxHash → Logged (Except Failure (Option Receipt))
  code : Address → Logged (Except Failure (List UInt8))

structure Notifier where
  notify : List UInt8 → Logged (Except Failure Unit)
  isAvailable : Bool := true

/-- Logs every message as text. -/
def Notifier.log : Notifier where
  notify bs := ⟨.ok (), [⟨.info, none, [("alert", Utf8.lossy bs)], some "ethernity::alerts"⟩]⟩

inductive Action
  | askReceipt (h : TxHash)
  | askCode (a : Address)
  | decode (code : List UInt8)
  | analyze (contract : Address)
  | notify (message : List UInt8)
  | log (r : Record)
  deriving DecidableEq

namespace Action

def record? : Action → Option Record
  | .log r => some r
  | _ => none

def isCall : Action → Bool
  | .askReceipt _ => true
  | .askCode _ => true
  | _ => false

def records (acts : List Action) : List Record := acts.filterMap record?

/-- The questions to the node. -/
def calls (acts : List Action) : List Action := acts.filter isCall

end Action

/-- How the work on a transaction ended, and what was done. -/
structure Outcome (α : Type) where
  result : Except SkipReason α
  actions : List Action

/-- The same outcome with something done before. -/
def Outcome.after {α : Type} (acts : List Action) (o : Outcome α) : Outcome α := ⟨o.result, acts ++ o.actions⟩

end ContractWatch
