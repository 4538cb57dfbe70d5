/-!
Decimal digits of natural numbers, written and read.
-/

namespace ContractWatch.Decimal

def digits (n : Nat) : List Char := Nat.toDigits 10 n

def isDigit (c : Char) : Bool := '0' ≤ c && c ≤ '9'

def digitValue (c : Char) : Nat := c.toNat - 48

/-- The number that digits spell, with `acc` read before them. -/
def valueFrom (acc : Nat) : List Char → Nat
  | [] => acc
  | c :: cs => valueFrom (acc * 10 + digitValue c) cs

def value (cs : List Char) : Nat := valueFrom 0 cs

/-- The product, if it has no more than 64 bits. -/
def product? (a b : UInt64) : Option UInt64 := if a.toNat * b.toNat < 0x10000000000000000 then some (a * b) else none

/-- The sum, if it has no more than 64 bits. -/
def sum? (a b : UInt64) : Option UInt64 := if a.toNat + b.toNat < 0x10000000000000000 then some (a + b) else none

/-- Reads digits behind the number `acc`, up to the digit that it has no room for. -/
def wordFrom? (acc : UInt64) : List Char → Option UInt64
  | [] => some acc
  | c :: cs =>
    if isDigit c then do
      let shifted ← product? acc 10
      let acc ← sum? shifted (UInt64.ofNat (digitValue c))
      wordFrom? acc cs
    else none

/-- A number of at most 64 bits, of which there is one digit at least. -/
def word? (cs : List Char) : Option UInt64 := if cs.isEmpty then none else wordFrom? 0 cs

/-- Zeros in front up to `width` characters. -/
def padded (width n : Nat) : List Char :=
  List.replicate (width - (digits n).length) '0' ++ digits n

/-- A minus sign before the digits of a negative number. -/
def intDigits (n : Int) : List Char := if n < 0 then '-' :: digits n.natAbs else digits n.natAbs

def text (n : Nat) : String := String.ofList (digits n)

end ContractWatch.Decimal
