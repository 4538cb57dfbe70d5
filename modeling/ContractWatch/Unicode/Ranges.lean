import ContractWatch.Text.Hex
import ContractWatch.Text.Split

/-!
Properties of characters as tables: ranges of code points in hexadecimal, such as `300-36f` or `5bf`, with
blanks between them.
-/

namespace ContractWatch.Unicode

def number (cs : List Char) : Nat := (Hex.valueIn 16 cs).getD 0

/-- Both ends are in the range. -/
abbrev Range := Nat × Nat

def range (cs : List Char) : Range :=
  let (first, last) := Text.cutAt '-' cs
  (number first, if last.isEmpty then number first else number last)

abbrev Ranges := List Range

namespace Ranges

def ofText (s : String) : Ranges := (Text.words s.toList).map range

def has (rs : Ranges) (c : Char) : Bool := rs.any fun r => r.1 ≤ c.toNat && c.toNat ≤ r.2

end Ranges

end ContractWatch.Unicode
