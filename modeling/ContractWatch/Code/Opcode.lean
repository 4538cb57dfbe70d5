import ContractWatch.Text.Decimal
import ContractWatch.Text.Hex

/-!
Operation codes: their mnemonics, and how many bytes of the code after them are data.
-/

namespace ContractWatch.Opcode

/-- Pushes four bytes, the width of a function selector. -/
def push4 : UInt8 := 0x63

/-- Pushes 32 bytes, the width of an event topic. -/
def push32 : UInt8 := 0x7f

def isPush (op : UInt8) : Bool := 0x60 ≤ op && op ≤ 0x7f

/-- The declared count of data bytes. -/
def width (op : UInt8) : Nat := if isPush op then op.toNat - 0x5f else 0

def width? (op : UInt8) : Option Nat := if isPush op then some (width op) else none

/-- The operations with a name of their own. -/
def names : List (UInt8 × String) :=
  [(0x00, "STOP"), (0x01, "ADD"), (0x02, "MUL"), (0x03, "SUB"), (0x04, "DIV"), (0x05, "SDIV"),
   (0x06, "MOD"), (0x07, "SMOD"), (0x08, "ADDMOD"), (0x09, "MULMOD"), (0x0a, "EXP"),
   (0x0b, "SIGNEXTEND"), (0x10, "LT"), (0x11, "GT"), (0x12, "SLT"), (0x13, "SGT"), (0x14, "EQ"),
   (0x15, "ISZERO"), (0x16, "AND"), (0x17, "OR"), (0x18, "XOR"), (0x19, "NOT"), (0x1a, "BYTE"),
   (0x1b, "SHL"), (0x1c, "SHR"), (0x1d, "SAR"), (0x20, "KECCAK256"), (0x30, "ADDRESS"),
   (0x31, "BALANCE"), (0x32, "ORIGIN"), (0x33, "CALLER"), (0x34, "CALLVALUE"),
   (0x35, "CALLDATALOAD"), (0x36, "CALLDATASIZE"), (0x37, "CALLDATACOPY"), (0x38, "CODESIZE"),
   (0x39, "CODECOPY"), (0x3a, "GASPRICE"), (0x3b, "EXTCODESIZE"), (0x3c, "EXTCODECOPY"),
   (0x3d, "RETURNDATASIZE"), (0x3e, "RETURNDATACOPY"), (0x3f, "EXTCODEHASH"), (0x40, "BLOCKHASH"),
   (0x41, "COINBASE"), (0x42, "TIMESTAMP"), (0x43, "NUMBER"), (0x44, "PREVRANDAO"),
   (0x45, "GASLIMIT"), (0x46, "CHAINID"), (0x47, "SELFBALANCE"), (0x48, "BASEFEE"),
   (0x49, "BLOBHASH"), (0x4a, "BLOBBASEFEE"), (0x50, "POP"), (0x51, "MLOAD"), (0x52, "MSTORE"),
   (0x53, "MSTORE8"), (0x54, "SLOAD"), (0x55, "SSTORE"), (0x56, "JUMP"), (0x57, "JUMPI"),
   (0x58, "PC"), (0x59, "MSIZE"), (0x5a, "GAS"), (0x5b, "JUMPDEST"), (0x5c, "TLOAD"),
   (0x5d, "TSTORE"), (0x5e, "MCOPY"), (0x5f, "PUSH0"), (0xf0, "CREATE"), (0xf1, "CALL"),
   (0xf2, "CALLCODE"), (0xf3, "RETURN"), (0xf4, "DELEGATECALL"), (0xf5, "CREATE2"),
   (0xfa, "STATICCALL"), (0xfd, "REVERT"), (0xfe, "INVALID"), (0xff, "SELFDESTRUCT")]

/-- Runs of operations that a number tells apart: first and last code, the name, the first number. -/
def families : List (UInt8 × UInt8 × String × Nat) :=
  [(0x60, 0x7f, "PUSH", 1), (0x80, 0x8f, "DUP", 1), (0x90, 0x9f, "SWAP", 1), (0xa0, 0xa4, "LOG", 0)]

def mnemonic (op : UInt8) : String :=
  match names.lookup op with
  | some name => name
  | none =>
    match families.find? fun f => f.1 ≤ op && op ≤ f.2.1 with
    | some (first, _, name, n) => name ++ Decimal.text (op.toNat - first.toNat + n)
    | none => "UNKNOWN_0x" ++ Hex.text [op]

/-- All 256 codes. -/
def all : List UInt8 := (List.range 256).map UInt8.ofNat

/-- The code with the given mnemonic. -/
def ofMnemonic? (s : String) : Option UInt8 := all.find? fun op => mnemonic op = s

end ContractWatch.Opcode
