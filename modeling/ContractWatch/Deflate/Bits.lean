/-!
Bit streams. The bits of a byte come lowest first. A reader holds the bits left of the current byte and the
bytes after it.
-/

namespace ContractWatch.Deflate

def byteBits (b : UInt8) : List Bool :=
  [b &&& 1 != 0, b &&& 2 != 0, b &&& 4 != 0, b &&& 8 != 0, b &&& 16 != 0, b &&& 32 != 0, b &&& 64 != 0,
   b &&& 128 != 0]

/-- The number whose binary digits are given, lowest first. -/
def bitsValue : List Bool → Nat
  | [] => 0
  | b :: bs => (if b then 1 else 0) + 2 * bitsValue bs

/-- The lowest `count` binary digits of a number. -/
def natBits : (count : Nat) → Nat → List Bool
  | 0, _ => []
  | count + 1, n => (n % 2 = 1) :: natBits count (n / 2)

/-- Adds the bytes that hold the bits, last one first, to `acc`. Zeros fill up the last byte. -/
def packOnto (acc : List UInt8) : List Bool → List UInt8
  | [] => acc
  | b0 :: b1 :: b2 :: b3 :: b4 :: b5 :: b6 :: b7 :: bs =>
    packOnto (UInt8.ofNat (bitsValue [b0, b1, b2, b3, b4, b5, b6, b7]) :: acc) bs
  | bs => UInt8.ofNat (bitsValue bs) :: acc

def pack (bs : List Bool) : List UInt8 := (packOnto [] bs).reverse

structure Reader where
  pending : List Bool
  bytes : List UInt8
  deriving DecidableEq

/-- Why a stream cannot be read on. -/
inductive Fault
  | incomplete | corrupt
  deriving DecidableEq

namespace Reader

def ofBytes (bs : List UInt8) : Reader := ⟨[], bs⟩

/-- All bits that are left. -/
def bits (r : Reader) : List Bool := r.pending ++ r.bytes.flatMap byteBits

def bit : Reader → Except Fault (Bool × Reader)
  | ⟨b :: bs, bytes⟩ => .ok (b, ⟨bs, bytes⟩)
  | ⟨[], x :: bytes⟩ => .ok (x &&& 1 != 0, ⟨(byteBits x).tail, bytes⟩)
  | ⟨[], []⟩ => .error .incomplete

/-- A number of `count` bits. -/
def nat : (count : Nat) → Reader → Except Fault (Nat × Reader)
  | 0, r => .ok (0, r)
  | count + 1, r =>
    match r.bit with
    | .error e => .error e
    | .ok (b, r) =>
      match nat count r with
      | .error e => .error e
      | .ok (n, r) => .ok ((if b then 1 else 0) + 2 * n, r)

/-- Whole bytes, after what is left of the current one. -/
def take (count : Nat) (r : Reader) : Except Fault (List UInt8 × Reader) :=
  let taken := r.bytes.take count
  if taken.length < count then .error .incomplete else .ok (taken, ⟨[], r.bytes.drop count⟩)

end Reader

end ContractWatch.Deflate
