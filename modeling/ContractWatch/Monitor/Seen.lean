import ContractWatch.Chain.Address

/-!
The hashes that were handled. A hash is seen once its flag is up; nothing is ever forgotten.
-/

namespace ContractWatch

structure Seen where
  flags : List (TxHash × Bool)
  deriving DecidableEq

namespace Seen

def empty : Seen := ⟨[]⟩

def has (s : Seen) (h : TxHash) : Bool := (s.flags.lookup h).getD false

/-- Puts up the flag of a hash. -/
def raise (h : TxHash) : List (TxHash × Bool) → List (TxHash × Bool)
  | [] => [(h, true)]
  | (h', f) :: fs => if h' = h then (h', true) :: fs else (h', f) :: raise h fs

def mark (s : Seen) (h : TxHash) : Seen := ⟨raise h s.flags⟩

/-- Marks a hash, and tells whether it was new. A flag that is down is put up, and its hash counts as new. -/
def enroll (s : Seen) (h : TxHash) : Bool × Seen :=
  match s.flags.lookup h with
  | some true => (false, s)
  | some false => (true, s.mark h)
  | none => (true, s.mark h)

def size (s : Seen) : Nat := s.flags.length

def isEmpty (s : Seen) : Bool := s.flags.isEmpty

end Seen

end ContractWatch
