import ContractWatch.Deflate.Bits

/-!
Prefix codes as binary trees. A canonical code is given by the length of every symbol's code word, zero for a
symbol without one: shorter words come first, words of one length in the order of their symbols.
-/

namespace ContractWatch.Deflate

inductive Tree
  | leaf (symbol : Nat)
  | node (zero one : Tree)
  | gap
  deriving DecidableEq

namespace Tree

/-- The symbol of the code word at the head of the stream. -/
def read : Tree → Reader → Except Fault (Nat × Reader)
  | leaf s, r => .ok (s, r)
  | gap, _ => .error .corrupt
  | node a b, r =>
    match r.bit with
    | .error e => .error e
    | .ok (true, r) => b.read r
    | .ok (false, r) => a.read r

/-- All symbols with their code words. -/
def words : Tree → List (Nat × List Bool)
  | leaf s => [(s, [])]
  | gap => []
  | node a b => a.words.map (fun w => (w.1, false :: w.2)) ++ b.words.map (fun w => (w.1, true :: w.2))

def isFull : Tree → Bool
  | leaf _ => true
  | gap => false
  | node a b => a.isFull && b.isFull

/-- Grows the subtree whose root lies `depth` below the top out of words ordered by length, and returns the
words that it has no room for. -/
def grow : (room depth : Nat) → List (Nat × Nat) → Tree × List (Nat × Nat)
  | _, _, [] => (gap, [])
  | 0, depth, (length, s) :: ws => if length = depth then (leaf s, ws) else (gap, (length, s) :: ws)
  | room + 1, depth, (length, s) :: ws =>
    if length = depth then (leaf s, ws)
    else
      let (a, ws) := grow room (depth + 1) ((length, s) :: ws)
      let (b, ws) := grow room (depth + 1) ws
      (node a b, ws)

end Tree

/-- No code word is longer. -/
def maxLength : Nat := 15

/-- The pairs of length and symbol of all symbols with a word, shorter words first. -/
def ordered (lengths : List Nat) : List (Nat × Nat) :=
  (List.range maxLength).flatMap fun l =>
    (lengths.zipIdx.filter fun p => p.1 = l + 1)

/-- Whether a code may leave bit strings without a meaning: not at all, or if no word is longer than a bit. -/
inductive Coverage
  | full | sparse
  deriving DecidableEq

/-- The tree of the canonical code with the given lengths, if they are lengths of a code. -/
def codeTree? (coverage : Coverage) (lengths : List Nat) : Option Tree :=
  let ws := ordered lengths
  match ws, Tree.grow maxLength 0 ws with
  | [], _ => if coverage = .sparse then some (.node .gap .gap) else none
  | _, (t, []) => if t.isFull || (coverage = .sparse && ws.all fun w => w.1 = 1) then some t else none
  | _, _ => none

end ContractWatch.Deflate
