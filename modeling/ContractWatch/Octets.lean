import ContractWatch.Json.Shape
import ContractWatch.Text.Hex

/-!
Byte strings of a fixed length. Their text is `0x` and two lower-case digits a byte; it is read with digits
of either case, with or without the `0x`, and blanks may stand for digits.
-/

namespace ContractWatch

structure Octets (n : Nat) where
  bytes : List UInt8
  length_eq : bytes.length = n
  deriving DecidableEq

namespace Octets

variable {n : Nat}

def ofBytes? (bs : List UInt8) : Option (Octets n) :=
  if h : bs.length = n then some ⟨bs, h⟩ else none

def zero : Octets n := ⟨List.replicate n 0, by simp⟩

def isZero (a : Octets n) : Bool := a = zero

def text (a : Octets n) : String := Hex.prefixed a.bytes

/-- The bytes of the pairs of digits, as far as pairs go, and zeros behind them. -/
def ofDigits (ds : List Nat) : Octets n where
  bytes := (pairs ds ++ List.replicate n 0).take n
  length_eq := by simp
where
  pairs : List Nat → List UInt8
    | a :: b :: ds => UInt8.ofNat (16 * a + b) :: pairs ds
    | _ => []

/-- Two characters a byte, after `0x` if that is there. Each is a digit or a blank; the bytes are those of the
digits alone, so that every blank is a digit less and the last bytes are zero. -/
def ofChars? (cs : List Char) : Option (Octets n) :=
  let body := match cs with
    | '0' :: 'x' :: r => r
    | r => r
  if body.length = 2 * n then
    ((body.filter fun c => !Hex.isBlank c).mapM Hex.digit?).map ofDigits
  else none

def toJson (a : Octets n) : Json := .text a.text

def ofJson? (v : Json) : Option (Octets n) := v.asText?.bind fun s => ofChars? s.toList

end Octets

end ContractWatch
