/-!
Endpoints of nodes. The text decides how a node is spoken to.
-/

namespace ContractWatch.Endpoint

inductive Transport
  | http | webSocket
  deriving DecidableEq

/-- Only the very beginning counts, in lower case. -/
def transport (endpoint : String) : Transport :=
  if ['w', 's'].isPrefixOf endpoint.toList then .webSocket else .http

end ContractWatch.Endpoint
