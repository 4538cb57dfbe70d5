import ContractWatch.Failure

/-!
Log records.
-/

namespace ContractWatch

inductive Level
  | debug | info | warn
  deriving DecidableEq

def Level.word : Level → String
  | .debug => "DEBUG"
  | .info => "INFO"
  | .warn => "WARN"

structure Record where
  level : Level
  message : Option String
  fields : List (String × String)
  target : Option String := none
  deriving DecidableEq

/-- A result with the records that were written on the way to it. -/
structure Logged (α : Type) where
  value : α
  records : List Record := []

end ContractWatch
