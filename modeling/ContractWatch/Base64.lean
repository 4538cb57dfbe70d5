import ContractWatch.Text.Decimal

/-!
Base64 with the standard alphabet and padding. Every byte string has one text, and no other text is read.
-/

namespace ContractWatch.Base64

def symbol (n : Nat) : Char :=
  if n < 26 then Char.ofNat (65 + n)
  else if n < 52 then Char.ofNat (71 + n)
  else if n < 62 then Char.ofNat (n - 4)
  else if n = 62 then '+'
  else '/'

/-- The six bits of a symbol, given as the byte that holds it. -/
def value? (b : UInt8) : Option Nat :=
  let n := b.toNat
  if 65 ≤ n ∧ n ≤ 90 then some (n - 65)
  else if 97 ≤ n ∧ n ≤ 122 then some (n - 71)
  else if 48 ≤ n ∧ n ≤ 57 then some (n + 4)
  else if n = 43 then some 62
  else if n = 47 then some 63
  else none

def isSymbol (b : UInt8) : Bool := (value? b).isSome

def padding : UInt8 := 61

/-- Adds the text of the bytes, last character first, to `acc`. -/
def encodeOnto (acc : List Char) : List UInt8 → List Char
  | [] => acc
  | [a] =>
    let n := a.toNat * 16
    '=' :: '=' :: symbol (n % 64) :: symbol (n / 64) :: acc
  | [a, b] =>
    let n := (a.toNat * 256 + b.toNat) * 4
    '=' :: symbol (n % 64) :: symbol (n / 64 % 64) :: symbol (n / 4096) :: acc
  | a :: b :: c :: bs =>
    let n := (a.toNat * 256 + b.toNat) * 256 + c.toNat
    encodeOnto (symbol (n % 64) :: symbol (n / 64 % 64) :: symbol (n / 4096 % 64) :: symbol (n / 262144) :: acc) bs

def encode (bs : List UInt8) : List Char := (encodeOnto [] bs).reverse

/-- Adds the bytes that groups of six bits hold, last one first, to `acc`. Bits short of a byte are dropped. -/
def joinOnto (acc : List UInt8) : List Nat → List UInt8
  | w :: x :: y :: z :: vs =>
    let n := ((w * 64 + x) * 64 + y) * 64 + z
    joinOnto (UInt8.ofNat (n % 256) :: UInt8.ofNat (n / 256 % 256) :: UInt8.ofNat (n / 65536) :: acc) vs
  | [x, y, z] =>
    let n := (x * 64 + y) * 64 + z
    UInt8.ofNat (n / 4 % 256) :: UInt8.ofNat (n / 1024) :: acc
  | [x, y] => UInt8.ofNat ((x * 64 + y) / 16) :: acc
  | _ => acc

def join (vs : List Nat) : List UInt8 := (joinOnto [] vs).reverse

/-- The bits of the last of `n` symbols that no byte takes up. -/
def spareBits (n last : Nat) : Nat :=
  match n % 4 with
  | 2 => last % 16
  | 3 => last % 4
  | _ => 0

inductive Fault
  | byte (b : UInt8) (offset : Nat)
  | remainder
  | lastSymbol (b : UInt8) (offset : Nat)
  | padding
  deriving DecidableEq

def Fault.message : Fault → String
  | .byte b offset => "Invalid byte " ++ Decimal.text b.toNat ++ ", offset " ++ Decimal.text offset ++ "."
  | .remainder => "Encoded text cannot have a 6-bit remainder."
  | .lastSymbol b offset =>
    "Invalid last symbol " ++ Decimal.text b.toNat ++ ", offset " ++ Decimal.text offset ++ "."
  | .padding => "Invalid padding"

/-- Whether the bytes after `n` symbols are the padding of a last group that they leave open, or none. -/
def isPadding (n : Nat) (rest : List UInt8) : Bool :=
  rest.isEmpty || (rest.all (· = padding) && 2 ≤ n % 4 && n % 4 + rest.length ≤ 4)

/-- What is wrong with a text of `n` symbols and `rest` after them, looked at in this order: the length, the
first byte that is no symbol, the padding, the spare bits. -/
def fault? (text symbols rest : List UInt8) : Option Fault :=
  let n := symbols.length
  if text.length % 4 = 1 then
    match text.getLast? with
    | some b => if isSymbol b || b = padding then some .remainder else some (.byte b (text.length - 1))
    | none => none
  else if !isPadding n rest then
    rest.head?.map fun b => .byte b n
  else if text.length % 4 ≠ 0 then some .padding
  else
    match symbols.getLast? with
    | some b => if spareBits n ((value? b).getD 0) = 0 then none else some (.lastSymbol b (n - 1))
    | none => none

/-- The bytes that stand for the text, which is given as bytes itself. -/
def decode (text : List UInt8) : Except Fault (List UInt8) :=
  let symbols := text.takeWhile isSymbol
  match fault? text symbols (text.dropWhile isSymbol) with
  | some e => .error e
  | none => .ok (join (symbols.filterMap value?))

end ContractWatch.Base64
