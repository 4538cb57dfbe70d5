/-!
What can go wrong outside a decision: a kind and a text.
-/

namespace ContractWatch

inductive Failure.Kind
  | rpc | decode | encode | compression | validation | timeout | notFound | io | other
  deriving DecidableEq

structure Failure where
  kind : Failure.Kind
  text : String
  deriving DecidableEq

namespace Failure

/-- The words in front of the text. -/
def Kind.label : Kind → String
  | .rpc => "Erro de RPC: "
  | .decode => "Erro de decodificação: "
  | .encode => "Erro de codificação: "
  | .compression => "Erro de compressão: "
  | .validation => "Erro de validação: "
  | .timeout => "Timeout: "
  | .notFound => "Não encontrado: "
  | .io => "Erro de I/O: "
  | .other => ""

def message (e : Failure) : String := e.kind.label ++ e.text

/-- A node that failed or stayed silent may answer the next time. -/
def isTransient (e : Failure) : Bool := e.kind = .rpc || e.kind = .timeout

end Failure

end ContractWatch
