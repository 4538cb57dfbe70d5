import ContractWatch.Text.Decimal
import ContractWatch.Text.Hex
import ContractWatch.Text.Split

/-!
Hosts that are numbers: four bytes in several spellings, or eight pieces of 16 bits.
-/

namespace ContractWatch.Host

open Text (splitOn)

def isDecimal (cs : List Char) : Bool := !cs.isEmpty && cs.all Decimal.isDigit

/-! ### Four bytes -/

/-- A part of a numeric host: decimal, octal after `0`, hexadecimal after `0x`. -/
def number? : List Char → Option Nat
  | [] => none
  | '0' :: 'x' :: cs => Hex.valueIn 16 cs
  | '0' :: 'X' :: cs => Hex.valueIn 16 cs
  | '0' :: c :: cs => Hex.valueIn 8 (c :: cs)
  | cs => Hex.valueIn 10 cs

/-- The labels less an empty last one, if there is another. -/
def proper (labels : List (List Char)) : List (List Char) :=
  match labels.getLast? with
  | some [] => if 1 < labels.length then labels.dropLast else labels
  | _ => labels

def endsInNumber (labels : List (List Char)) : Bool :=
  (proper labels).getLast?.any fun part => isDecimal part || (number? part).isSome

/-- At most four numbers; the last one fills all bytes that are left. -/
def isIpv4 (labels : List (List Char)) : Bool :=
  ((proper labels).mapM number?).any fun ns =>
    ns.length ≤ 4 && ns.dropLast.all (· < 256) && ns.getLastD 0 < Nat.pow 256 (5 - ns.length)

/-! ### Eight pieces -/

def isPiece (cs : List Char) : Bool := 1 ≤ cs.length && cs.length ≤ 4 && cs.all fun c => (Hex.digit? c).isSome

def isDotted (cs : List Char) : Bool :=
  let parts := splitOn '.' cs
  parts.length = 4 && parts.all fun p => isDecimal p && (p.length = 1 || p.head? ≠ some '0') && (Hex.valueIn 10 p).any (· < 256)

/-- How many of the eight pieces of an address the parts fill, if they are pieces. -/
def pieces? : List (List Char) → Option Nat
  | [] => some 0
  | [p] => if isPiece p then some 1 else if isDotted p then some 2 else none
  | p :: ps => if isPiece p then (pieces? ps).map (· + 1) else none

/-- The text before a double colon and the text after it. -/
def cut : List Char → Option (List Char × List Char)
  | ':' :: ':' :: cs => some ([], cs)
  | c :: cs => (cut cs).map fun p => (c :: p.1, p.2)
  | [] => none

def side? (cs : List Char) : Option Nat := if cs.isEmpty then some 0 else pieces? (splitOn ':' cs)

def isIpv6 (cs : List Char) : Bool :=
  match cut cs with
  | none => side? cs = some 8
  | some (a, b) =>
    match side? a, side? b with
    | some m, some n => m + n ≤ 7 && !a.contains '.'
    | _, _ => false

end ContractWatch.Host
