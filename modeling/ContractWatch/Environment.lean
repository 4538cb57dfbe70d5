import ContractWatch.Text.Blank
import ContractWatch.Text.Decimal
import ContractWatch.Text.Utf8

/-!
Reading values from environment variables. A variable that is not valid UTF-8 counts as unset, and blanks
around a value do not.
-/

namespace ContractWatch

abbrev Environment := String → Option (List UInt8)

namespace Environment

def text? (env : Environment) (name : String) : Option (List Char) :=
  (env name).bind fun bs => (Utf8.decode? bs).map fun s => Text.trim s.toList

def flagOf? (cs : List Char) : Option Bool :=
  let word := String.ofList (cs.map Char.toLower)
  if word ∈ ["1", "true", "yes", "on"] then some true
  else if word ∈ ["0", "false", "no", "off"] then some false
  else none

def flag? (env : Environment) (name : String) : Option Bool := (env.text? name).bind flagOf?

/-- Digits, possibly after a plus sign, of a number of at most 64 bits. -/
def wordOf? : List Char → Option UInt64
  | '+' :: cs => Decimal.word? cs
  | cs => Decimal.word? cs

def word? (env : Environment) (name : String) : Option UInt64 := (env.text? name).bind wordOf?

/-- A value that is more than blanks. -/
def filled? (env : Environment) (name : String) : Option String :=
  match env.text? name with
  | some (c :: cs) => some (String.ofList (c :: cs))
  | _ => none

end Environment

end ContractWatch
