import ContractWatch.Text.Blank

/-!
Hexadecimal text: bytes written as lower-case digits, digits of either case read, and the normal form
under which texts of one constant meet.
-/

namespace ContractWatch.Hex

def pair (b : UInt8) : List Char := [Nat.digitChar (b.toNat / 16), Nat.digitChar (b.toNat % 16)]

def encode (bs : List UInt8) : List Char := bs.flatMap pair

def digit? (c : Char) : Option Nat :=
  if '0' ≤ c ∧ c ≤ '9' then some (c.toNat - '0'.toNat)
  else if 'a' ≤ c ∧ c ≤ 'f' then some (c.toNat - 'a'.toNat + 10)
  else if 'A' ≤ c ∧ c ≤ 'F' then some (c.toNat - 'A'.toNat + 10)
  else none

/-- Blanks that digits may have among them. -/
def isBlank (c : Char) : Bool := c = ' ' || c = '\t' || c = '\n' || c = '\r'

/-- The number that digits below `base` spell. -/
def valueIn (base : Nat) (cs : List Char) : Option Nat :=
  cs.foldl (fun n c => n.bind fun n => (digit? c).bind fun d => if d < base then some (n * base + d) else none) (some 0)

def decodeOnto (acc : List UInt8) : List Char → Option (List UInt8)
  | [] => some acc.reverse
  | [_] => none
  | a :: b :: cs =>
    match digit? a, digit? b with
    | some x, some y => decodeOnto (UInt8.ofNat (16 * x + y) :: acc) cs
    | _, _ => none

/-- Pairs of digits and nothing else. -/
def decode? (cs : List Char) : Option (List UInt8) := decodeOnto [] cs

/-! ### Digits with blanks among them -/

/-- What a reader of pairs of digits comes upon: a byte with the text behind it, the end of the text, or neither. -/
inductive Found
  | byte (b : UInt8) (rest : List Char)
  | nothing
  | broken

/-- Reads up to the end of a pair, of which the digit `high` may have been read. Blanks are passed over, those inside the
pair too. -/
def nextPair (high : Option Nat) : List Char → Found
  | [] => if high.isSome then .broken else .nothing
  | c :: cs =>
    if isBlank c then nextPair high cs
    else
      match digit? c, high with
      | none, _ => .broken
      | some d, none => nextPair (some d) cs
      | some d, some h => .byte (UInt8.ofNat (16 * h + d)) cs

/-- The bytes of exactly `n` pairs, behind which nothing follows. -/
def pairs? : (n : Nat) → List Char → Option (List UInt8)
  | 0, cs =>
    match nextPair none cs with
    | .nothing => some []
    | _ => none
  | n + 1, cs =>
    match nextPair none cs with
    | .byte b rest => (pairs? n rest).map (b :: ·)
    | _ => none

/-! ### Texts -/

def text (bs : List UInt8) : String := String.ofList (encode bs)

def prefixed (bs : List UInt8) : String := String.ofList ('0' :: 'x' :: encode bs)

/-- The text after one `0x` or `0X`, if it begins with one. -/
def strip : List Char → List Char
  | '0' :: 'x' :: cs => cs
  | '0' :: 'X' :: cs => cs
  | cs => cs

/-- Blanks around the text and one `0x` or `0X` removed, ASCII letters in lower case. -/
def normal (cs : List Char) : List Char := (strip (Text.trim cs)).map Char.toLower

def normalText (s : String) : String := String.ofList (normal s.toList)

def natDigits (n : Nat) : List Char := Nat.toDigits 16 n

end ContractWatch.Hex
