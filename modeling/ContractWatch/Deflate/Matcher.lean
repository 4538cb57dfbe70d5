import ContractWatch.Deflate.Token

/-!
Finding copies in data. The finder only proposes places where three bytes hash alike; how far a copy really goes
is measured on the data.
-/

namespace ContractWatch.Deflate

/-- For every hash of three bytes one more than their last position, and for every position one more than the
one before it with the same hash. Zero is no position. -/
structure Finder where
  heads : Array Nat
  links : Array Nat

namespace Finder

def hashSize : Nat := 32768

def empty : Finder := ⟨Array.replicate hashSize 0, #[]⟩

def hashAt (data : Array UInt8) (i : Nat) : Nat :=
  ((data.getD i 0).toNat * 1024 + (data.getD (i + 1) 0).toNat * 32 + (data.getD (i + 2) 0).toNat) % hashSize

/-- The link to the last position that was entered with the hash of position `i`. -/
def candidate (f : Finder) (data : Array UInt8) (i : Nat) : Nat := f.heads.getD (hashAt data i) 0

/-- Enters position `i`, the next one. -/
def enter (data : Array UInt8) (i : Nat) : Finder → Finder
  | ⟨heads, links⟩ =>
    let h := hashAt data i
    let last := heads.getD h 0
    ⟨heads.setIfInBounds h (i + 1), links.push last⟩

def enterAll (data : Array UInt8) (i : Nat) : (count : Nat) → Finder → Finder
  | 0, f => f
  | n + 1, f => enterAll data (i + 1) n (f.enter data i)

end Finder

/-- How many bytes at `i` and at `j` agree, `room` at most. -/
def matchLength (data : Array UInt8) (i j : Nat) : (room : Nat) → Nat
  | 0 => 0
  | room + 1 =>
    if data.getD i 0 = data.getD j 0 then matchLength data (i + 1) (j + 1) room + 1 else 0

/-- Longer copies are not looked for once one as long as this is found. -/
def goodLength : Nat := 128

/-- A copy of three bytes from farther away takes more bits than they do. -/
def nearWindow : Nat := 4096

/-- A copy at some position: how long, and from how far back. -/
structure Copy where
  length : Nat := 0
  distance : Nat := 0

def Copy.isWorthwhile (c : Copy) : Bool := 3 < c.length || (c.length = 3 && c.distance ≤ nearWindow)

/-- The longest copy at `i` from the position linked and those reached from it, or `best`. -/
def longest (data : Array UInt8) (links : Array Nat) (i : Nat) : (tries link : Nat) → Copy → Copy
  | 0, _, best => best
  | _, 0, best => best
  | tries + 1, j + 1, best =>
    if j < i ∧ i - j ≤ window ∧ best.length < goodLength then
      let n := matchLength data i j (min maxCopy (data.size - i))
      longest data links i tries (links.getD j 0) (if best.length < n then ⟨n, i - j⟩ else best)
    else best

def maxTries : Nat := 32

def Finder.copyAt (f : Finder) (data : Array UInt8) (i : Nat) : Copy :=
  longest data f.links i maxTries (f.candidate data i) {}

/-- Adds the tokens of the data from `i` on, last one first, to `acc`. A copy is put off by a literal where a longer
one begins behind it. Every step takes a byte at least. -/
def tokensOnto (data : Array UInt8) : (fuel : Nat) → Finder → (i : Nat) → List Token → List Token
  | 0, _, _, acc => acc
  | fuel + 1, f, i, acc =>
    if i < data.size then
      let c := f.copyAt data i
      let f := f.enter data i
      if c.isWorthwhile && (f.copyAt data (i + 1)).length ≤ c.length then
        tokensOnto data fuel (f.enterAll data (i + 1) (c.length - 1)) (i + c.length)
          (.copy c.length c.distance :: acc)
      else tokensOnto data fuel f (i + 1) (.literal (data.getD i 0) :: acc)
    else acc

def tokens (data : Array UInt8) : List Token := (tokensOnto data data.size .empty 0 []).reverse

end ContractWatch.Deflate
