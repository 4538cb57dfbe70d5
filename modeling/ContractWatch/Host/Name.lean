import ContractWatch.Host.Mapping
import ContractWatch.Host.Punycode
import ContractWatch.Unicode.Bidi
import ContractWatch.Unicode.Joining
import ContractWatch.Unicode.Mark
import ContractWatch.Unicode.Normal

/-!
Names of hosts, in any script. A name is brought into one form and cut into labels at its dots; what is asked of
its characters is asked of every label.
-/

namespace ContractWatch.Host

open Unicode (Bidi Joining)

/-- Characters that no host holds. -/
def isForbidden (c : Char) : Bool := c.toNat = 0 || " #/:<>?@[\\]^|".toList.contains c

/-- Characters that no name of a host holds. -/
def isForbiddenInName (c : Char) : Bool := isForbidden c || c.toNat < 0x20 || c = '%' || c.toNat = 0x7f

/-! ### Labels -/

/-- Whether letters join across a sign that follows those in `before`, last one first, and precedes `after`. -/
def joins (before after : List Char) : Bool :=
  faces .left before && faces .right after
where
  faces (side : Joining) (cs : List Char) : Bool :=
    ((cs.map Joining.of).find? fun j => j ≠ .transparent).any fun j => j = side || j = .dual

/-- The invisible joiners U+200C and U+200D stand only behind a sign that silences a vowel, and U+200C, which keeps
letters apart, also where they would join. The label begins with `before`, last one first. -/
def joinersFit (before : List Char) : List Char → Bool
  | [] => true
  | c :: cs =>
    let fits :=
      if c = '\u200c' || c = '\u200d' then
        before.head?.any fun b => Unicode.combiningClass b = Unicode.viramaClass || (c = '\u200c' && joins before cs)
      else true
    fits && joinersFit (c :: before) cs

def isAscii (cs : List Char) : Bool := cs.all fun c => c.toNat < 128

/-- No label with a character outside of ASCII is longer. -/
def maxLabel : Nat := 1000

def maxSpelled : Nat := 2000

def isLabel (cs : List Char) : Bool :=
  !cs.head?.any Unicode.isMark && joinersFit [] cs && (isAscii cs || cs.length ≤ maxLabel)

/-- The label that is spelled in ASCII. It has to be in the form into which names are brought. -/
def spelled? (cs : List Char) : Option (List Char) :=
  if isAscii cs && cs.getLast? ≠ some '-' && cs.length ≤ maxSpelled then
    (Punycode.decode? cs).filter fun label => label.all isPlain && Unicode.normal label = label
  else none

def label? (cs : List Char) : Option (List Char) :=
  (match cs with
    | 'x' :: 'n' :: '-' :: '-' :: r => if r.isEmpty then none else spelled? r
    | _ => some cs).filter isLabel

/-! ### Directions -/

def runsLeft (b : Bidi) : Bool := b = .rightToLeft || b = .arabicLetter || b = .arabicNumber

/-- Classes that may stand among letters of either direction. -/
def isCommon (b : Bidi) : Bool :=
  [.europeanNumber, .europeanSeparator, .commonSeparator, .europeanTerminator, .neutral, .boundaryNeutral,
    .nonspacingMark].contains b

/-- Whether a label can be read in one direction, next to labels of the other one. -/
def isDirected (cs : List Char) : Bool :=
  let bs := cs.map Bidi.of
  let last := (bs.reverse.dropWhile (· = .nonspacingMark)).head?
  match bs with
  | [] => true
  | .leftToRight :: bs =>
    bs.all (fun b => b = .leftToRight || isCommon b) && last.any fun b => b = .leftToRight || b = .europeanNumber
  | b :: bs =>
    (b = .rightToLeft || b = .arabicLetter) && bs.all (fun b => runsLeft b || isCommon b) &&
      last.any (fun b => runsLeft b || b = .europeanNumber) && !(bs.contains .europeanNumber && bs.contains .arabicNumber)

/-! ### Names -/

/-- One form for all spellings of a name. -/
def form? (cs : List Char) : Option (List Char) := (cs.mapM image?).map fun images => Unicode.normal images.flatten

/-- The labels of a name, none of them spelled in ASCII. -/
def labels? (cs : List Char) : Option (List (List Char)) := do
  let form ← form? cs
  let labels ← if form.any isForbiddenInName then none else (Text.splitOn '.' form).mapM label?
  if labels.any (fun l => (l.map Bidi.of).any runsLeft) && !labels.all isDirected then none else some labels

end ContractWatch.Host
