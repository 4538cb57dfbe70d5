import ContractWatch.Unicode.CombiningClass
import ContractWatch.Unicode.Composition

/-!
The composed normal form. Characters are taken apart, the marks on each are sorted by class, and what can be put
together again is. Characters that are taken apart but never put together are outside of its domain.
-/

namespace ContractWatch.Unicode

/-- No character is taken apart more often. -/
def maxMarks : Nat := 3

def parts : (steps : Nat) → Char → List Char
  | 0, c => [c]
  | steps + 1, c =>
    match decompose? c with
    | some (a, b) => parts steps a ++ [b]
    | none => [c]

/-- Puts a mark before sorted text, behind the marks of lower classes. -/
def settle (c : Char) : List Char → List Char
  | [] => [c]
  | d :: cs =>
    if combiningClass d ≠ 0 ∧ combiningClass d < combiningClass c then d :: settle c cs else c :: d :: cs

def decomposed (cs : List Char) : List Char := (cs.flatMap (parts maxMarks)).foldr settle []

/-- Puts onto `base` the marks that it takes. The marks in `kept`, last one first, stay beside it, and such a mark
keeps off those of its class. -/
def composeOnto (base : Char) (kept : List Char) : List Char → List Char
  | [] => base :: kept.reverse
  | c :: cs =>
    let whole? := if kept.head?.all fun k => combiningClass k < combiningClass c then compose? base c else none
    match whole? with
    | some whole => composeOnto whole kept cs
    | none =>
      if combiningClass c = 0 then base :: (kept.reverse ++ composeOnto c [] cs)
      else composeOnto base (c :: kept) cs

def composed : List Char → List Char
  | [] => []
  | c :: cs => if combiningClass c = 0 then composeOnto c [] cs else c :: composed cs

def normal (cs : List Char) : List Char := composed (decomposed cs)

end ContractWatch.Unicode
