import ContractWatch.Chain.Address

/-!
Transactions as they are delivered, their receipts, and which of them deployed a contract.
-/

namespace ContractWatch

/-- A receipt may be older than the status field. -/
inductive TxStatus
  | success | failure | unknown
  deriving DecidableEq

namespace TxStatus

def name : TxStatus → String
  | .success => "Success"
  | .failure => "Failure"
  | .unknown => "Unknown"

def named? (s : String) : Option TxStatus := [success, failure, unknown].find? fun x => x.name = s

/-- One is success and any other word is failure. -/
def ofWord? : Option UInt64 → TxStatus
  | none => .unknown
  | some w => if w = 1 then .success else .failure

def isSuccess (x : TxStatus) : Bool := x = .success

def toJson (x : TxStatus) : Json := .text x.name

def ofJson? (v : Json) : Option TxStatus := v.asVariant? named?

end TxStatus

structure Receipt where
  hash : TxHash
  status : TxStatus
  contract : Option Address
  deriving DecidableEq

namespace Receipt

def keys : List String := ["transaction_hash", "status", "contract_address"]

def toJson (r : Receipt) : Json :=
  .record [("transaction_hash", r.hash.toJson), ("status", r.status.toJson),
    ("contract_address", .option Octets.toJson r.contract)]

def ofJson? (v : Json) : Option Receipt := do
  match ← v.members? keys 0 with
  | [some hash, some status, contract] =>
    return { hash := ← Octets.ofJson? hash, status := ← TxStatus.ofJson? status,
             contract := ← Json.asOptional? Octets.ofJson? contract }
  | _ => none

end Receipt

/-- A transaction without recipient creates a contract. -/
structure Transaction where
  hash : TxHash
  sender : Address
  recipient : Option Address
  block : Option UInt64
  deriving DecidableEq

def isNullRecipient (recipient : Option Address) : Bool := recipient.all Octets.isZero

namespace Transaction

def keys : List String := ["hash", "from", "to", "block_number"]

def toJson (t : Transaction) : Json :=
  .record [("hash", t.hash.toJson), ("from", t.sender.toJson), ("to", .option Octets.toJson t.recipient),
    ("block_number", .option (fun b => .nat b.toNat) t.block)]

def ofJson? (v : Json) : Option Transaction := do
  match ← v.members? keys 0 with
  | [some hash, some sender, recipient, block] =>
    return { hash := ← Octets.ofJson? hash, sender := ← Octets.ofJson? sender,
             recipient := ← Json.asOptional? Octets.ofJson? recipient,
             block := ← Json.asOptional? Json.asWord? block }
  | _ => none

/-- Known before the node is asked: only such a transaction can deploy a contract. -/
def isCreation (t : Transaction) : Bool := isNullRecipient t.recipient

/-- The address that the transaction deployed to, if it did. -/
def deployed? (t : Transaction) (r : Option Receipt) : Option Address :=
  if t.isCreation then
    match r with
    | some r => if r.status.isSuccess then r.contract.filter fun a => !a.isZero else none
    | none => none
  else none

end Transaction

end ContractWatch
