import ContractWatch.Json.Basic

/-!
Reading a JSON value as a value of a given shape. Members that a record does not know are passed over,
a known member written twice is refused, and a record may also be the list of its members in order.
-/

namespace ContractWatch.Json

def asText? : Json → Option String
  | .text s => some s
  | _ => none

def asBool? : Json → Option Bool
  | .bool b => some b
  | _ => none

/-- A number of at most 64 bits without a sign. -/
def asNat? : Json → Option Nat
  | .int n => if 0 ≤ n ∧ n < 0x10000000000000000 then some n.toNat else none
  | _ => none

def asWord? (v : Json) : Option UInt64 := v.asNat?.map UInt64.ofNat

def asList? {α : Type} (f : Json → Option α) : Json → Option (List α)
  | .list xs => xs.mapM f
  | _ => none

/-- `null` is read as an absent value. -/
def asOption? {α : Type} (f : Json → Option α) : Json → Option (Option α)
  | .null => some none
  | v => (f v).map some

/-- The variant that is named by the text, alone or as the key of a record that holds just `null`. -/
def asVariant? {α : Type} (named : String → Option α) : Json → Option α
  | .text s => named s
  | .record [(s, .null)] => named s
  | _ => none

/-- The value of the only member with the key `k`; a second one is refused. -/
def member? (k : String) (ms : List (String × Json)) : Option (Option Json) :=
  match ms.filter (fun m => m.1 = k) with
  | [] => some none
  | [(_, v)] => some (some v)
  | _ => none

/-- The members of a record that has the keys `ks`, in the order of `ks`. In a list the last `spare` of
them may be left out. -/
def members? (ks : List String) (spare : Nat) : Json → Option (List (Option Json))
  | .record ms => ks.mapM fun k => member? k ms
  | .list xs =>
    if xs.length ≤ ks.length ∧ ks.length ≤ xs.length + spare then
      some (xs.map some ++ List.replicate (ks.length - xs.length) none)
    else none
  | _ => none

/-- An absent member is read like `null`. -/
def asOptional? {α : Type} (f : Json → Option α) : Option Json → Option (Option α)
  | some v => v.asOption? f
  | none => some none

end ContractWatch.Json
