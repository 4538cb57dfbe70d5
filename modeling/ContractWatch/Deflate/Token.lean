/-!
Data as literal bytes and copies of earlier data, and the symbols that stand for the length and the distance
of a copy.
-/

namespace ContractWatch.Deflate

inductive Token
  | literal (b : UInt8)
  | copy (length distance : Nat)
  deriving DecidableEq

/-- The byte `distance` back from the end. Before the start of the data there are zeros. -/
def earlier (out : Array UInt8) (distance : Nat) : UInt8 :=
  if distance ≤ out.size then out.getD (out.size - distance) 0 else 0

/-- Appends bytes one by one, each of them read `distance` back from the end, so that a copy may overlap itself. -/
def copyBytes (distance : Nat) : (length : Nat) → Array UInt8 → Array UInt8
  | 0, out => out
  | n + 1, out => copyBytes distance n (out.push (earlier out distance))

namespace Token

/-- Adds what the token stands for. -/
def replay (out : Array UInt8) : Token → Array UInt8
  | literal b => out.push b
  | copy length distance => copyBytes distance length out

def replayAll (out : Array UInt8) (ts : List Token) : Array UInt8 := ts.foldl replay out

end Token

/-- The numbers that one symbol stands for: the first of them, and how many bits tell them apart. -/
structure Range where
  base : Nat
  extra : Nat
  deriving DecidableEq

def Range.has (x : Range) (n : Nat) : Bool := x.base ≤ n && n < x.base + 1 <<< x.extra

/-- The lengths of symbol 257 and those after it. -/
def lengthRanges : List Range :=
  [⟨3, 0⟩, ⟨4, 0⟩, ⟨5, 0⟩, ⟨6, 0⟩, ⟨7, 0⟩, ⟨8, 0⟩, ⟨9, 0⟩, ⟨10, 0⟩, ⟨11, 1⟩, ⟨13, 1⟩, ⟨15, 1⟩, ⟨17, 1⟩,
   ⟨19, 2⟩, ⟨23, 2⟩, ⟨27, 2⟩, ⟨31, 2⟩, ⟨35, 3⟩, ⟨43, 3⟩, ⟨51, 3⟩, ⟨59, 3⟩, ⟨67, 4⟩, ⟨83, 4⟩, ⟨99, 4⟩,
   ⟨115, 4⟩, ⟨131, 5⟩, ⟨163, 5⟩, ⟨195, 5⟩, ⟨227, 5⟩, ⟨258, 0⟩]

/-- The distances of symbol 0 and those after it. -/
def distanceRanges : List Range :=
  [⟨1, 0⟩, ⟨2, 0⟩, ⟨3, 0⟩, ⟨4, 0⟩, ⟨5, 1⟩, ⟨7, 1⟩, ⟨9, 2⟩, ⟨13, 2⟩, ⟨17, 3⟩, ⟨25, 3⟩, ⟨33, 4⟩, ⟨49, 4⟩,
   ⟨65, 5⟩, ⟨97, 5⟩, ⟨129, 6⟩, ⟨193, 6⟩, ⟨257, 7⟩, ⟨385, 7⟩, ⟨513, 8⟩, ⟨769, 8⟩, ⟨1025, 9⟩, ⟨1537, 9⟩,
   ⟨2049, 10⟩, ⟨3073, 10⟩, ⟨4097, 11⟩, ⟨6145, 11⟩, ⟨8193, 12⟩, ⟨12289, 12⟩, ⟨16385, 13⟩, ⟨24577, 13⟩]

/-- Ends a block. -/
def endSymbol : Nat := 256

def firstLengthSymbol : Nat := 257

/-- The place of the last range that has the number, and the range. -/
def findRange? (ranges : List Range) (n : Nat) : Option (Nat × Range) :=
  (ranges.zipIdx.reverse.find? fun p => p.1.has n).map fun p => (p.2, p.1)

/-- Longest copy and farthest one. -/
def maxCopy : Nat := 258

def window : Nat := 32768

end ContractWatch.Deflate
