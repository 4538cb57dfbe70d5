/-!
Texts in parts.
-/

namespace ContractWatch.Text

/-- The parts between the characters `c`, one more than there are of them. -/
def splitOn (c : Char) : List Char → List (List Char)
  | [] => [[]]
  | d :: cs =>
    match splitOn c cs with
    | part :: parts => if d = c then [] :: part :: parts else (d :: part) :: parts
    | [] => [[d]]

/-- The parts before and after the first `c`. -/
def cutAt (c : Char) (cs : List Char) : List Char × List Char :=
  (cs.takeWhile (· ≠ c), (cs.dropWhile (· ≠ c)).drop 1)

/-- The parts between spaces and line ends, less the empty ones. -/
def words (cs : List Char) : List (List Char) :=
  (splitOn ' ' (cs.map fun c => if c = '\n' then ' ' else c)).filter fun w => !w.isEmpty

end ContractWatch.Text
