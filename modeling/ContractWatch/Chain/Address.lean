import ContractWatch.Keccak
import ContractWatch.Octets
import ContractWatch.Text.Utf8

/-!
Account addresses and transaction hashes, and the spelling of an address whose letter case is a checksum.
-/

namespace ContractWatch

abbrev Address := Octets 20

abbrev TxHash := Octets 32

namespace Address

/-- The text behind one `0x` or `0X` and then behind one more `0x`, as far as they are there. -/
def unmarked (s : String) : List Char :=
  match Hex.strip s.toList with
  | '0' :: 'x' :: cs => cs
  | cs => cs

/-- Reads the digits of an address. Spaces, tabs and line ends may stand anywhere among them. -/
def ofText? (s : String) : Option Address := (Hex.pairs? 20 (unmarked s)).bind Octets.ofBytes?

/-- A letter is a capital where the digit of the hash in its place is 8 or more. -/
def withCase (digits marks : List Char) : List Char :=
  List.zipWith (fun c m => if 8 ≤ (Hex.digit? m).getD 0 then c.toUpper else c) digits marks

/-- The digits of the address, with the case that the hash of the lower-case digits gives them. -/
def checksum (a : Address) : List Char :=
  let digits := Hex.encode a.bytes
  withCase digits (Hex.encode (Keccak.hash (Utf8.encode digits)))

end Address

end ContractWatch
