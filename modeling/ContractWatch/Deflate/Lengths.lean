import ContractWatch.Deflate.PrefixCode

/-!
The lengths of code words in the head of a block, written with short forms for repetitions.
-/

namespace ContractWatch.Deflate

inductive Run
  | one (length : Nat)
  | again (count : Nat)
  | zeros (count : Nat)
  deriving DecidableEq

namespace Run

/-- Adds the lengths, last one first, to `acc`. -/
def expandOnto (acc : List Nat) : Run → List Nat
  | one l => l :: acc
  | again n => List.replicate n (acc.headD 0) ++ acc
  | zeros n => List.replicate n 0 ++ acc

/-- The run that a symbol begins. Where there is nothing yet, nothing can be repeated. -/
def ofSymbol (acc : List Nat) (s : Nat) (r : Reader) : Except Fault (Run × Reader) :=
  if s < 16 then .ok (one s, r)
  else if s = 16 then
    if acc.isEmpty then .error .corrupt else (r.nat 2).map fun (n, r) => (again (3 + n), r)
  else if s = 17 then (r.nat 3).map fun (n, r) => (zeros (3 + n), r)
  else (r.nat 7).map fun (n, r) => (zeros (11 + n), r)

def read (t : Tree) (acc : List Nat) (r : Reader) : Except Fault (Run × Reader) :=
  match t.read r with
  | .ok (s, r) => ofSymbol acc s r
  | .error e => .error e

def symbol : Run → Nat
  | one l => l
  | again _ => 16
  | zeros n => if n ≤ 10 then 17 else 18

/-- The bits after the symbol. -/
def extraBits : Run → List Bool
  | one _ => []
  | again n => natBits 2 (n - 3)
  | zeros n => if n ≤ 10 then natBits 3 (n - 3) else natBits 7 (n - 11)

end Run

/-- Reads lengths until there are `total` of them, `acc` with the last one first. -/
def readLengths (t : Tree) (total : Nat) : (fuel : Nat) → List Nat → Reader → Except Fault (List Nat × Reader)
  | 0, _, _ => .error .corrupt
  | fuel + 1, acc, r =>
    if acc.length = total then .ok (acc.reverse, r)
    else
      match Run.read t acc r with
      | .error e => .error e
      | .ok (run, r) =>
        let acc := run.expandOnto acc
        if total < acc.length then .error .corrupt else readLengths t total fuel acc r

/-- The order in which the lengths of the code for lengths themselves are written. -/
def lengthOrder : List Nat := [16, 17, 18, 0, 8, 7, 9, 6, 10, 5, 11, 4, 12, 3, 13, 2, 14, 1, 15]

/-- The length of every symbol out of those given in the order above, zero for what is missing. -/
def reorder (ls : List Nat) : List Nat :=
  (List.range 19).map fun s => ((lengthOrder.zip ls).lookup s).getD 0

def readNats (width : Nat) : (count : Nat) → Reader → Except Fault (List Nat × Reader)
  | 0, r => .ok ([], r)
  | count + 1, r =>
    match r.nat width with
    | .error e => .error e
    | .ok (n, r) =>
      match readNats width count r with
      | .error e => .error e
      | .ok (ns, r) => .ok (n :: ns, r)

/-- The codes of a block: one for literals, lengths and the end, one for distances. -/
structure Codes where
  literals : Tree
  distances : Tree

/-- The lengths of the fixed codes. -/
def fixedLiterals : List Nat :=
  List.replicate 144 8 ++ List.replicate 112 9 ++ List.replicate 24 7 ++ List.replicate 8 8

def fixedDistances : List Nat := List.replicate 32 5

def Codes.ofLengths? (literals distances : List Nat) : Option Codes :=
  match codeTree? .sparse literals, codeTree? .sparse distances with
  | some l, some d => some ⟨l, d⟩
  | _, _ => none

def Codes.fixed : Codes := (ofLengths? fixedLiterals fixedDistances).getD ⟨.gap, .gap⟩

def maxLiterals : Nat := 286

def maxDistances : Nat := 30

/-- The codes in the head of a block. -/
def readCodes (r : Reader) : Except Fault (Codes × Reader) :=
  match readNats 5 2 r with
  | .error e => .error e
  | .ok (counts, r) =>
    match r.nat 4 with
    | .error e => .error e
    | .ok (n, r) =>
      let literals := 257 + counts.getD 0 0
      let distances := 1 + counts.getD 1 0
      if maxLiterals < literals ∨ maxDistances < distances then .error .corrupt
      else
        match readNats 3 (4 + n) r with
        | .error e => .error e
        | .ok (ls, r) =>
          match codeTree? .full (reorder ls) with
          | none => .error .corrupt
          | some t =>
            let total := literals + distances
            match readLengths t total (total + 1) [] r with
            | .error e => .error e
            | .ok (ls, r) =>
              match Codes.ofLengths? (ls.take literals) (ls.drop literals) with
              | some codes => .ok (codes, r)
              | none => .error .corrupt

end ContractWatch.Deflate
