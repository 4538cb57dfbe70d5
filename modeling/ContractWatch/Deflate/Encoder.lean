import ContractWatch.Deflate.Lengths
import ContractWatch.Deflate.Matcher
import ContractWatch.Deflate.Weights

/-!
Writing deflated data. Lengths of code words are found by their weights and used only if they are lengths of a
code; where no code serves, or none saves space, the data are stored as they are.
-/

namespace ContractWatch.Deflate

/-! ### Code words -/

/-- The word of every symbol that has one. -/
abbrev Book := Array (Option (List Bool))

def bookSize : Nat := 288

def Tree.book (t : Tree) : Book :=
  let ws := t.words
  ((List.range bookSize).map fun s => ws.lookup s).toArray

def Book.word? (b : Book) (s : Nat) : Option (List Bool) := (b[s]?).getD none

structure Books where
  literals : Book
  distances : Book

def Codes.books (c : Codes) : Books := ⟨c.literals.book, c.distances.book⟩

/-- The symbol and the extra bits of a number. -/
def rangeBits? (ranges : List Range) (n : Nat) : Option (Nat × List Bool) :=
  (findRange? ranges n).map fun (s, x) => (s, natBits x.extra (n - x.base))

def tokenBits? (b : Books) : Token → Option (List Bool)
  | .literal x => b.literals.word? x.toNat
  | .copy length distance =>
    match rangeBits? lengthRanges length, rangeBits? distanceRanges distance with
    | some (l, ls), some (d, ds) =>
      match b.literals.word? (firstLengthSymbol + l), b.distances.word? d with
      | some lw, some dw => some (lw ++ ls ++ dw ++ ds)
      | _, _ => none
    | _, _ => none

/-- The bits of the tokens and of the end of the block. -/
def bodyBits? (b : Books) (ts : List Token) : Option (List Bool) :=
  match ts.mapM (tokenBits? b), b.literals.word? endSymbol with
  | some ws, some e => some (ws.flatten ++ e)
  | _, _ => none

/-! ### The head of a block -/

def zeroRuns (n : Nat) : List Run :=
  if 138 < n then .zeros 138 :: zeroRuns (n - 138)
  else if 3 ≤ n then [.zeros n]
  else List.replicate n (.one 0)
termination_by n
decreasing_by omega

/-- Repetitions of the length before them. -/
def againRuns (l n : Nat) : List Run :=
  if 6 < n then .again 6 :: againRuns l (n - 6)
  else if 3 ≤ n then [.again n]
  else List.replicate n (.one l)
termination_by n
decreasing_by omega

def sameRuns (l n : Nat) : List Run :=
  if l = 0 then zeroRuns n
  else
    match n with
    | 0 => []
    | n + 1 => .one l :: againRuns l n

/-- Equal neighbours together, with their count. -/
def groups : List Nat → List (Nat × Nat)
  | [] => []
  | l :: ls =>
    match groups ls with
    | (l', n) :: gs => if l = l' then (l', n + 1) :: gs else (l, 1) :: (l', n) :: gs
    | [] => [(l, 1)]

def runsOf (ls : List Nat) : List Run := (groups ls).flatMap fun g => sameRuns g.1 g.2

def runBits? (b : Book) (run : Run) : Option (List Bool) := (b.word? run.symbol).map (· ++ run.extraBits)

/-- The head that gives the lengths of the two codes. -/
def headBits? (literals distances : List Nat) : Option (List Bool) :=
  let runs := runsOf (literals ++ distances)
  let ls := limitedLengths 7 16 (atLeastTwo (count 19 (runs.map Run.symbol)))
  match codeTree? .full ls with
  | none => none
  | some t =>
    (runs.mapM (runBits? t.book)).map fun ws =>
      natBits 5 (maxLiterals - 257) ++ natBits 5 (maxDistances - 1) ++ natBits 4 15 ++
        lengthOrder.flatMap (fun s => natBits 3 (ls.getD s 0)) ++ ws.flatten

/-! ### Blocks -/

def literalSymbol : Token → Nat
  | .literal x => x.toNat
  | .copy length _ => firstLengthSymbol + ((findRange? lengthRanges length).map (·.1)).getD 0

def distanceSymbol? : Token → Option Nat
  | .literal _ => none
  | .copy _ distance => (findRange? distanceRanges distance).map (·.1)

/-- A block with codes made for its tokens. -/
def ownBlock? (ts : List Token) : Option (List Bool) :=
  let literals := limitedLengths 15 16 (atLeastTwo (count maxLiterals (endSymbol :: ts.map literalSymbol)))
  let distances := limitedLengths 15 16 (atLeastTwo (count maxDistances (ts.filterMap distanceSymbol?)))
  match headBits? literals distances, Codes.ofLengths? literals distances with
  | some head, some codes => (bodyBits? codes.books ts).map fun body => natBits 2 2 ++ head ++ body
  | _, _ => none

def fixedBooks : Books := Codes.fixed.books

def fixedBlock? (ts : List Token) : Option (List Bool) :=
  (bodyBits? fixedBooks ts).map fun body => natBits 2 1 ++ body

def shorter (a b : List Bool) : List Bool := if a.length ≤ b.length then a else b

/-- The shorter of the two kinds of block, after the bit that marks the last block. -/
def blockBits? (isLast : Bool) (ts : List Token) : Option (List Bool) :=
  match fixedBlock? ts, ownBlock? ts with
  | some a, some b => some (isLast :: shorter a b)
  | some a, none => some (isLast :: a)
  | none, some b => some (isLast :: b)
  | none, none => none

/-- Tokens of one block at most. -/
def blockTokens : Nat := 16384

def blocksBits? (ts : List Token) : Option (List Bool) :=
  if _h : ts.length ≤ blockTokens then blockBits? true ts
  else
    match blockBits? false (ts.take blockTokens), blocksBits? (ts.drop blockTokens) with
    | some a, some b => some (a ++ b)
    | _, _ => none
termination_by ts.length
decreasing_by simp only [blockTokens, List.length_drop] at *; omega

def twoBytes (n : Nat) : List UInt8 := [UInt8.ofNat (n % 256), UInt8.ofNat (n / 256)]

def storedMax : Nat := 65535

def storedBlock (isLast : Bool) (bs : List UInt8) : List UInt8 :=
  (if isLast then 1 else 0) :: (twoBytes bs.length ++ twoBytes (65535 - bs.length) ++ bs)

def stored (bs : List UInt8) : List UInt8 :=
  if _h : bs.length ≤ storedMax then storedBlock true bs
  else storedBlock false (bs.take storedMax) ++ stored (bs.drop storedMax)
termination_by bs.length
decreasing_by simp only [storedMax, List.length_drop] at *; omega

/-- Deflated data, never longer than the stored form. -/
def deflate (data : List UInt8) : List UInt8 :=
  let plain := stored data
  match blocksBits? (tokens data.toArray) with
  | some bits => if bits.length < 8 * plain.length then pack bits else plain
  | none => plain

end ContractWatch.Deflate
