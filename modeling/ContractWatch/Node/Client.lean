import ContractWatch.Environment
import ContractWatch.Monitor.Action
import ContractWatch.Node.Wire

/-!
A client of a node. Every question ends in an answer, a failure, or a timeout where nothing came in time.
-/

namespace ContractWatch

structure Client where
  endpoint : String := "http://localhost:8545"
  /-- How long an answer may take, in milliseconds. -/
  timeout : Nat := 30000
  deriving DecidableEq

namespace Client

def endpointVariable : String := "ETHERNITY_RPC_ENDPOINT"

def timeoutVariable : String := "ETHERNITY_RPC_TIMEOUT_SECS"

def ofEnvironment (env : Environment) : Client :=
  let defaults : Client := {}
  { endpoint := (env.filled? endpointVariable).getD defaults.endpoint
    timeout :=
      match env.word? timeoutVariable with
      | some n => if n = 0 then defaults.timeout else 1000 * n.toNat
      | none => defaults.timeout }

/-- A time in the largest unit that it fills, without zeros at the end of its fraction. -/
def timeText (ms : Nat) : String :=
  if ms = 0 then "0ns"
  else if ms < 1000 then Decimal.text ms ++ "ms"
  else
    let fraction := ((Decimal.padded 3 (ms % 1000)).reverse.dropWhile (· = '0')).reverse
    Decimal.text (ms / 1000) ++ (if fraction.isEmpty then "" else "." ++ String.ofList fraction) ++ "s"

def failed (what : String) : Failure := ⟨.rpc, "Falha ao obter " ++ what⟩

def late (c : Client) (what : String) : Failure := ⟨.timeout, what ++ " excedeu " ++ timeText c.timeout⟩

def transport (c : Client) : Endpoint.Transport := Endpoint.transport c.endpoint

/-- Waits for something, but not longer than an answer may take. -/
def await {α : Type} (c : Client) (what : String) : Option (Arrival (Option α)) → Except Failure α
  | some x => if x.after < c.timeout then x.value.elim (.error (failed what)) .ok else .error (c.late what)
  | none => .error (c.late what)

/-- Asks a question and reads what comes of it. -/
def ask {α : Type} (c : Client) (wire : Wire) (q : Question) (read : Json → Option α) : Except Failure α :=
  c.await q.topic ((wire.answer c.transport q).map (Arrival.map (Reply.read? read)))

def blockNumber (c : Client) (p : Protocol) (wire : Wire) : Except Failure UInt64 := c.ask wire .blockNumber p.number?

def code (c : Client) (p : Protocol) (wire : Wire) (a : Address) : Except Failure (List UInt8) :=
  c.ask wire (.code a) p.code?

def receiptMissing (h : TxHash) : Record :=
  ⟨.debug, some "recibo ainda não disponível", [("tx", h.text)], none⟩

/-- The receipt of a transaction, absent while the node knows none. -/
def receipt (c : Client) (p : Protocol) (wire : Wire) (h : TxHash) : Logged (Except Failure (Option Receipt)) :=
  match c.ask wire (.receipt h) p.receipt? with
  | .error e => ⟨.error e, []⟩
  | .ok none => ⟨.ok none, [receiptMissing h]⟩
  | .ok (some t) => ⟨.ok (some t.receipt), []⟩

/-- Over a socket the connection comes first. -/
def dial (c : Client) (p : Protocol) (wire : Wire) : Except Failure Unit :=
  match c.transport with
  | .http => if p.isEndpoint c.endpoint then .ok () else .error ⟨.rpc, "Falha ao conectar via HTTP"⟩
  | .webSocket =>
    c.await "conexão WebSocket" (wire.opening.map (Arrival.map fun taken => if taken then some () else none))

/-- A client is of use once its node has told the number of its last block. -/
def connect (c : Client) (p : Protocol) (wire : Wire) : Except Failure Client :=
  match c.dial p wire with
  | .error e => .error e
  | .ok _ => (c.blockNumber p wire).map fun _ => c

/-- The client as the node of a monitor. -/
def node (c : Client) (p : Protocol) (wire : Wire) : Node where
  receipt h := c.receipt p wire h
  code a := ⟨c.code p wire a, []⟩

end Client

end ContractWatch
