/-!
Lengths of code words after the weights of their symbols: the two lightest groups are joined again and again, and
every join makes the words of their symbols one bit longer.
-/

namespace ContractWatch.Deflate

/-- Symbols with the lengths of their words, and their weight together. -/
structure Group where
  weight : Nat
  members : List (Nat × Nat)

namespace Group

def join (a b : Group) : Group :=
  ⟨a.weight + b.weight, (a.members ++ b.members).map fun m => (m.1, m.2 + 1)⟩

/-- Into groups ordered by weight. -/
def insert (g : Group) : List Group → List Group
  | [] => [g]
  | h :: hs => if g.weight ≤ h.weight then g :: h :: hs else h :: insert g hs

def joinAll : (fuel : Nat) → List Group → List (Nat × Nat)
  | 0, _ => []
  | _, [] => []
  | _, [g] => g.members
  | fuel + 1, a :: b :: gs => joinAll fuel (insert (a.join b) gs)

end Group

/-- The length for every weight, zero for the weight zero. -/
def lengthsOf (weights : List Nat) : List Nat :=
  let groups := (weights.zipIdx.filter fun p => p.1 ≠ 0).foldl (fun gs p => Group.insert ⟨p.1, [(p.2, 0)]⟩ gs) []
  let found := Group.joinAll groups.length groups
  (List.range weights.length).map fun s => (found.lookup s).getD 0

/-- Makes the weights more even until no word is longer than `limit`; if none of the tries succeeds, there are no
words. -/
def limitedLengths (limit : Nat) : (tries : Nat) → List Nat → List Nat
  | 0, weights =>
    let ls := lengthsOf weights
    if ls.all (· ≤ limit) then ls else weights.map fun _ => 0
  | tries + 1, weights =>
    let ls := lengthsOf weights
    if ls.all (· ≤ limit) then ls
    else limitedLengths limit tries (weights.map fun w => if w = 0 then 0 else w / 2 + 1)

/-- Gives weight to the first symbols where fewer than two have any. -/
def atLeastTwo (weights : List Nat) : List Nat :=
  match weights with
  | a :: b :: ws => if 2 ≤ (weights.filter (· ≠ 0)).length then weights else max a 1 :: max b 1 :: ws
  | ws => ws

def count (size : Nat) (symbols : List Nat) : List Nat :=
  (symbols.foldl (fun (a : Array Nat) s => a.modify s (· + 1)) (Array.replicate size 0)).toList

end ContractWatch.Deflate
