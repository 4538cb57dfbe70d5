import ContractWatch.Json.Shape

/-!
How grave an alert is, in ascending order.
-/

namespace ContractWatch

inductive Severity
  | info | low | medium | high | critical
  deriving DecidableEq

namespace Severity

def rank : Severity → Nat
  | .info => 0
  | .low => 1
  | .medium => 2
  | .high => 3
  | .critical => 4

def word : Severity → String
  | .info => "info"
  | .low => "low"
  | .medium => "medium"
  | .high => "high"
  | .critical => "critical"

/-- The word as records spell it. -/
def name : Severity → String
  | .info => "Info"
  | .low => "Low"
  | .medium => "Medium"
  | .high => "High"
  | .critical => "Critical"

def all : List Severity := [.info, .low, .medium, .high, .critical]

def named? (s : String) : Option Severity := all.find? fun x => x.name = s

def sort (xs : List Severity) : List Severity := xs.mergeSort fun a b => a.rank ≤ b.rank

def highest? (xs : List Severity) : Option Severity := (sort xs).getLast?

def toJson (x : Severity) : Json := .text x.name

def ofJson? (v : Json) : Option Severity := v.asVariant? named?

end Severity

end ContractWatch
