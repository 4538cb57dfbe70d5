import ContractWatch.Code.Opcode
import ContractWatch.Failure
import ContractWatch.Json.Printer

/-!
Instructions and the sweep that cuts a code into them. The bytes after a push are its data, so the next
instruction starts behind them. Where the code ends inside the data, the lenient sweep keeps what is there
and the strict one fails.
-/

namespace ContractWatch

structure Instruction where
  pc : Nat
  opcode : UInt8
  /-- The data of a push, absent for every other operation. -/
  data : Option (List UInt8)
  deriving DecidableEq

namespace Instruction

def mnemonic (i : Instruction) : String := Opcode.mnemonic i.opcode

/-- The data, if there are as many bytes as the operation declares. -/
def fullData? (i : Instruction) : Option (List UInt8) :=
  match Opcode.width? i.opcode, i.data with
  | some w, some bs => if bs.length = w then some bs else none
  | _, _ => none

def toJson (i : Instruction) : Json :=
  .record (("pc", .nat i.pc) :: ("opcode", .text i.mnemonic) ::
    match i.data with
    | some bs => [("pushValue", .text (Hex.prefixed bs))]
    | none => [])

/-- The text of a list of instructions. -/
def listText (is : List Instruction) : String := (Json.list (is.map toJson)).render

/-- The bytes of an instruction. -/
def bytes (i : Instruction) : List UInt8 := i.opcode :: i.data.getD []

def assemble (is : List Instruction) : List UInt8 := is.flatMap bytes

/-- The instruction at the head of a code. -/
def read (pc : Nat) (op : UInt8) (rest : List UInt8) : Instruction :=
  ⟨pc, op, (Opcode.width? op).map rest.take⟩

/-- Adds the instructions of the code from `pc` on, last one first, to `acc`. -/
def sweepOnto (acc : List Instruction) (pc : Nat) : List UInt8 → List Instruction
  | [] => acc
  | op :: rest =>
    sweepOnto (read pc op rest :: acc) (pc + 1 + Opcode.width op) (rest.drop (Opcode.width op))
termination_by code => code.length
decreasing_by simp only [List.length_cons, List.length_drop]; omega

/-- A push that the end of the code cuts short. -/
structure ShortPush where
  opcode : UInt8
  pc : Nat
  left : Nat
  deriving DecidableEq

def ShortPush.message (e : ShortPush) : String :=
  Opcode.mnemonic e.opcode ++ " em 0x" ++ String.ofList (Hex.natDigits e.pc) ++ " exige " ++
    Decimal.text (Opcode.width e.opcode) ++ " bytes, restam " ++ Decimal.text e.left

def strictSweepOnto (acc : List Instruction) (pc : Nat) : List UInt8 → Except ShortPush (List Instruction)
  | [] => .ok acc
  | op :: rest =>
    if (rest.take (Opcode.width op)).length < Opcode.width op then .error ⟨op, pc, rest.length⟩
    else strictSweepOnto (read pc op rest :: acc) (pc + 1 + Opcode.width op) (rest.drop (Opcode.width op))
termination_by code => code.length
decreasing_by simp only [List.length_cons, List.length_drop]; omega

/-- The instructions of a code, the last one possibly short of data. -/
def decode (code : List UInt8) : List Instruction := (sweepOnto [] 0 code).reverse

/-- The instructions of a code, none of them short of data. -/
def strictDecode (code : List UInt8) : Except ShortPush (List Instruction) :=
  (strictSweepOnto [] 0 code).map List.reverse

end Instruction

/-- How a monitor turns a code into instructions. -/
abbrev Decoder := List UInt8 → Except Failure (List Instruction)

namespace Decoder

def lenient : Decoder := fun code => .ok (Instruction.decode code)

def strict : Decoder := fun code =>
  (Instruction.strictDecode code).mapError fun e => ⟨.decode, e.message⟩

end Decoder

end ContractWatch
