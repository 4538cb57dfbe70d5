import ContractWatch.Text.Decimal

/-!
UTF-8. Bytes are cut into characters and into maximal parts that begin no character: a lenient reader
shows U+FFFD for each such part, a strict one refuses the bytes.
-/

namespace ContractWatch.Utf8

def encode (s : List Char) : List UInt8 := s.flatMap String.utf8EncodeChar

def bytes (s : String) : List UInt8 := encode s.toList

/-- What a first byte announces: its own bits, the range of the second byte, the count of bytes to come. -/
structure Lead where
  bits : Nat
  low : Nat := 0x80
  high : Nat := 0xbf
  more : Nat

def lead? (b : Nat) : Option Lead :=
  if b < 0x80 then some { bits := b, more := 0 }
  else if b < 0xc2 then none
  else if b < 0xe0 then some { bits := b - 0xc0, more := 1 }
  else if b = 0xe0 then some { bits := 0, low := 0xa0, more := 2 }
  else if b = 0xed then some { bits := 0xd, high := 0x9f, more := 2 }
  else if b < 0xf0 then some { bits := b - 0xe0, more := 2 }
  else if b = 0xf0 then some { bits := 0, low := 0x90, more := 3 }
  else if b < 0xf4 then some { bits := b - 0xf0, more := 3 }
  else if b = 0xf4 then some { bits := 4, high := 0x8f, more := 3 }
  else none

/-- Reads the `more` bytes that complete a character, the first of them between `low` and `high`.
A byte that does not fit is left where it is. -/
def tail (low high : Nat) : (more bits : Nat) → List UInt8 → Option Char × List UInt8
  | 0, bits, bs => (some (Char.ofNat bits), bs)
  | _ + 1, _, [] => (none, [])
  | more + 1, bits, b :: bs =>
    if low ≤ b.toNat ∧ b.toNat ≤ high then tail 0x80 0xbf more (bits * 64 + b.toNat % 64) bs
    else (none, b :: bs)

/-- The first character, or none for a part that begins no character, and the bytes after it. -/
def next (b : UInt8) (bs : List UInt8) : Option Char × List UInt8 :=
  match lead? b.toNat with
  | some l => tail l.low l.high l.more l.bits bs
  | none => (none, bs)

theorem tail_length_le (low high more bits : Nat) (bs : List UInt8) :
    (tail low high more bits bs).2.length ≤ bs.length := by
  induction more generalizing low high bits bs with
  | zero => simp [tail]
  | succ n ih =>
    cases bs with
    | nil => simp [tail]
    | cons b bs =>
      simp only [tail]
      split
      · exact Nat.le_succ_of_le (ih ..)
      · exact Nat.le_refl _

theorem next_length_le (b : UInt8) (bs : List UInt8) : (next b bs).2.length ≤ bs.length := by
  unfold next
  split
  · exact tail_length_le ..
  · exact Nat.le_refl _

/-- Adds the parts of the bytes, last one first, to `acc`. -/
def partsOnto (acc : List (Option Char)) : List UInt8 → List (Option Char)
  | [] => acc
  | b :: bs => partsOnto ((next b bs).1 :: acc) (next b bs).2
termination_by bs => bs.length
decreasing_by exact Nat.lt_succ_of_le (next_length_le b bs)

def parts (bs : List UInt8) : List (Option Char) := (partsOnto [] bs).reverse

/-- U+FFFD stands for what is no character. -/
def replacement : Char := '\ufffd'

def lossy (bs : List UInt8) : String := String.ofList ((parts bs).map (·.getD replacement))

/-- The text that the bytes spell, if they spell one. -/
def decode? (bs : List UInt8) : Option String := ((parts bs).mapM id).map String.ofList

/-- Where bytes cease to spell a text: at which offset, and how long the part is that begins no character. It has no
length if the bytes end before it can be told. -/
structure Fault where
  offset : Nat
  length? : Option Nat
  deriving DecidableEq

def Fault.message : Fault → String
  | ⟨offset, some n⟩ =>
    "invalid utf-8 sequence of " ++ Decimal.text n ++ " bytes from index " ++ Decimal.text offset
  | ⟨offset, none⟩ => "incomplete utf-8 byte sequence from index " ++ Decimal.text offset

/-- The first fault of bytes that spell no text, the first byte being at `offset`. -/
def faultFrom (offset : Nat) : List UInt8 → Fault
  | [] => ⟨offset, none⟩
  | b :: bs =>
    let taken := bs.length + 1 - (next b bs).2.length
    match (next b bs).1 with
    | some _ => faultFrom (offset + taken) (next b bs).2
    | none => ⟨offset, if (next b bs).2.isEmpty && (lead? b.toNat).isSome then none else some taken⟩
termination_by bs => bs.length
decreasing_by exact Nat.lt_succ_of_le (next_length_le b bs)

/-- The text that the bytes spell, or why they spell none. -/
def read (bs : List UInt8) : Except Fault String :=
  match decode? bs with
  | some s => .ok s
  | none => .error (faultFrom 0 bs)

end ContractWatch.Utf8
