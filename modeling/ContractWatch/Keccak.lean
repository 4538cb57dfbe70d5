/-!
The hash function Keccak-256: a sponge over 25 lanes of 64 bits that takes in 136 bytes at a time.
-/

namespace ContractWatch.Keccak

abbrev State := Vector UInt64 25

def lane (s : State) (x y : Nat) : UInt64 := s[Fin.ofNat 25 (x % 5 + 5 * (y % 5))]

def rotate (a : UInt64) (n : Nat) : UInt64 :=
  if n = 0 then a else a <<< UInt64.ofNat n ||| a >>> UInt64.ofNat (64 - n)

/-- How far each lane is rotated. -/
def offsets : Vector Nat 25 :=
  #v[0, 1, 62, 28, 27, 36, 44, 6, 55, 20, 3, 10, 43, 25, 39, 41, 45, 15, 21, 8, 18, 2, 61, 56, 14]

def roundConstants : List UInt64 :=
  [0x0000000000000001, 0x0000000000008082, 0x800000000000808a, 0x8000000080008000,
   0x000000000000808b, 0x0000000080000001, 0x8000000080008081, 0x8000000000008009,
   0x000000000000008a, 0x0000000000000088, 0x0000000080008009, 0x000000008000000a,
   0x000000008000808b, 0x800000000000008b, 0x8000000000008089, 0x8000000000008003,
   0x8000000000008002, 0x8000000000000080, 0x000000000000800a, 0x800000008000000a,
   0x8000000080008081, 0x8000000000008080, 0x0000000080000001, 0x8000000080008008]

def parity (s : State) (x : Nat) : UInt64 :=
  lane s x 0 ^^^ lane s x 1 ^^^ lane s x 2 ^^^ lane s x 3 ^^^ lane s x 4

/-- Every lane is mixed with the parities of its neighbouring columns. -/
def theta (s : State) : State :=
  let column := Vector.ofFn fun x : Fin 5 => parity s x
  let change := Vector.ofFn fun x : Fin 5 => column[x + 4] ^^^ rotate column[x + 1] 1
  Vector.ofFn fun i : Fin 25 => s[i] ^^^ change[Fin.ofNat 5 i]

/-- Lanes are rotated and change places. -/
def rhoPi (s : State) : State :=
  Vector.ofFn fun i : Fin 25 =>
    let x := i.val % 5 + 3 * (i.val / 5)
    let source := Fin.ofNat 25 (x % 5 + 5 * (i.val % 5))
    rotate s[source] offsets[source]

/-- Every lane is mixed with the two after it in its row. -/
def chi (s : State) : State :=
  Vector.ofFn fun i : Fin 25 =>
    let y := i.val / 5
    s[i] ^^^ (~~~ lane s (i.val + 1) y &&& lane s (i.val + 2) y)

def round (s : State) (c : UInt64) : State :=
  let t := chi (rhoPi (theta s))
  t.set 0 (t[0] ^^^ c)

def permute (s : State) : State := roundConstants.foldl round s

/-- The number whose bytes are given, lowest first. -/
def littleEndian (bs : List UInt8) : UInt64 := bs.foldr (fun b n => n <<< 8 ||| b.toUInt64) 0

def rate : Nat := 136

/-- A one bit after the message, a one bit at the end of its last block, zeros between. -/
def pad (message : List UInt8) : List UInt8 :=
  match rate - message.length % rate with
  | 1 => message ++ [0x81]
  | n => message ++ 0x01 :: (List.replicate (n - 2) 0 ++ [0x80])

def absorb (s : State) (block : List UInt8) : State :=
  permute (Vector.ofFn fun i : Fin 25 => s[i] ^^^ littleEndian ((block.drop (8 * i.val)).take 8))

def absorbBlocks : (blocks : Nat) → State → List UInt8 → State
  | 0, s, _ => s
  | n + 1, s, bs => absorbBlocks n (absorb s (bs.take rate)) (bs.drop rate)

def squeeze (s : State) : List UInt8 :=
  (List.range 32).map fun i => (lane s (i / 8) 0 >>> UInt64.ofNat (8 * (i % 8))).toUInt8

/-- The 32 bytes of the hash. -/
def hash (message : List UInt8) : List UInt8 :=
  let padded := pad message
  squeeze (absorbBlocks (padded.length / rate) (Vector.replicate 25 0) padded)

@[simp] theorem hash_length (message : List UInt8) : (hash message).length = 32 := by
  simp [hash, squeeze]

end ContractWatch.Keccak
