import ContractWatch.Chain.Transaction
import ContractWatch.Node.Endpoint

/-!
The far end of a client: what comes back over the wire for a question, and how the results of a node are read.
-/

namespace ContractWatch

/-- What came, and after how many milliseconds. -/
structure Arrival (α : Type) where
  value : α
  after : Nat := 0

def Arrival.map {α β : Type} (f : α → β) (x : Arrival α) : Arrival β := ⟨f x.value, x.after⟩

/-- What a node can be asked. The code of a contract is that of the last block. -/
inductive Question
  | receipt (h : TxHash)
  | code (a : Address)
  | blockNumber

/-- What a question is about, as a failure names it. -/
def Question.topic : Question → String
  | .receipt _ => "recibo da transação"
  | .code _ => "código do contrato"
  | .blockNumber => "número do bloco"

/-- What a transport brings of a node's reply: a result, be it null or one that tells nothing, or a failure, which a
refusal, a text that is no response and a lost connection all are. -/
inductive Reply
  | result (v : Json)
  | failure

/-- What reading makes of a reply. -/
def Reply.read? {α : Type} (f : Json → Option α) : Reply → Option α
  | .result v => f v
  | .failure => none

/-- A node at the end of a wire: whether a connection is taken, and what comes of each question. It may be that nothing
ever comes. -/
structure Wire where
  opening : Option (Arrival Bool)
  answer : Endpoint.Transport → Question → Option (Arrival Reply)

/-- What a result tells of a receipt, as far as it is kept. -/
structure Transcript where
  hash : TxHash
  status : Option UInt64
  contract : Option Address

def Transcript.receipt (t : Transcript) : Receipt where
  hash := t.hash
  status := TxStatus.ofWord? t.status
  contract := t.contract

/-- How nodes are spoken with: which endpoints there are, and what their results tell. -/
structure Protocol where
  isEndpoint : String → Bool
  receipt? : Json → Option (Option Transcript)
  code? : Json → Option (List UInt8)
  number? : Json → Option UInt64

/-- What a client relies on: null tells that there is no receipt, and nothing else tells so. -/
structure Protocol.Lawful (p : Protocol) : Prop where
  receipt?_eq_none_iff : ∀ v, p.receipt? v = some none ↔ v = .null

end ContractWatch
