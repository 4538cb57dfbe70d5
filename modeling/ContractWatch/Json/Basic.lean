/-!
JSON values as a reader sees them: what was written, less its spelling.
-/

namespace ContractWatch

/-- Whole numbers of at most 64 bits are `int`; any other number keeps its spelling as a `real`.
`garbled` is well-formed text that stands for no value: a number beyond every double, half a surrogate
pair in a string, or an object with such a key. -/
inductive Json
  | null
  | bool (b : Bool)
  | int (n : Int)
  | real (spelling : String)
  | text (s : String)
  | list (xs : List Json)
  | record (ms : List (String × Json))
  | garbled

namespace Json

def nat (n : Nat) : Json := .int n

/-- Absent values are written as `null`. -/
def option {α : Type} (f : α → Json) : Option α → Json
  | some a => f a
  | none => .null

def texts (xs : List String) : Json := .list (xs.map .text)

/-- Levels of lists and records, one inside the other. -/
def depth : Json → Nat
  | .list xs => listDepth xs + 1
  | .record ms => recordDepth ms + 1
  | _ => 0
where
  listDepth : List Json → Nat
    | [] => 0
    | x :: xs => max x.depth (listDepth xs)
  recordDepth : List (String × Json) → Nat
    | [] => 0
    | (_, v) :: ms => max v.depth (recordDepth ms)

end Json

end ContractWatch
