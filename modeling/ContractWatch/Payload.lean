import ContractWatch.Base64
import ContractWatch.Code.Instruction
import ContractWatch.Gzip.Writer
import ContractWatch.Json.Shape
import ContractWatch.Text.Utf8

/-!
The instructions of a code as an alert carries them: their JSON text, as it is or as base64 text of a gzip member.
-/

namespace ContractWatch

inductive Payload.Encoding
  | gzipBase64 | json
  deriving DecidableEq

structure Payload where
  encoding : Payload.Encoding
  data : String
  deriving DecidableEq

namespace Payload

namespace Encoding

def name : Encoding → String
  | .gzipBase64 => "gzip_base64"
  | .json => "json"

def named? (s : String) : Option Encoding := [gzipBase64, json].find? fun x => x.name = s

def toJson (x : Encoding) : Json := .text x.name

def ofJson? (v : Json) : Option Encoding := v.asVariant? named?

end Encoding

def keys : List String := ["encoding", "data"]

def toJson (p : Payload) : Json := .record [("encoding", p.encoding.toJson), ("data", .text p.data)]

def ofJson? (v : Json) : Option Payload := do
  match ← v.members? keys 0 with
  | [some encoding, some data] => return { encoding := ← Encoding.ofJson? encoding, data := ← data.asText? }
  | _ => none

/-- Why a text holds no compressed data. -/
inductive Fault
  | base64 (e : Base64.Fault)
  | gzip (e : Gzip.Fault)
  deriving DecidableEq

def Fault.message : Fault → String
  | .base64 e => "base64 inválido: " ++ e.message
  | .gzip e => "gzip inválido: " ++ e.message

def compress (data : List UInt8) : String := String.ofList (Base64.encode (Gzip.encode data))

/-- The data of a compressed text, with blanks around it or without. -/
def unpack (text : String) : Except Fault (List UInt8) :=
  match Base64.decode (Utf8.encode (Text.trim text.toList)) with
  | .error e => .error (.base64 e)
  | .ok bs =>
    match Gzip.decode bs with
    | .error e => .error (.gzip e)
    | .ok data => .ok data

def decompress (text : String) : Except Failure (List UInt8) :=
  (unpack text).mapError fun e => ⟨.compression, e.message⟩

/-- A payload that is larger than allowed. -/
def overLimit (size limit : Nat) : Failure :=
  ⟨.validation, "payload de opcodes com " ++ Decimal.text size ++ " bytes excede o limite de " ++
    Decimal.text limit⟩

/-- The payload for the bytes of a text, before its size is looked at. -/
def ofBytes (compressed : Bool) (bs : List UInt8) : Except Failure Payload :=
  if compressed then .ok ⟨.gzipBase64, compress bs⟩
  else
    match Utf8.read bs with
    | .error e => .error ⟨.encode, "JSON não UTF-8: " ++ e.message⟩
    | .ok text => .ok ⟨.json, text⟩

/-- The payload for the instructions if it has at most `limit` bytes, and nothing of it otherwise. -/
def ofInstructions (compressed : Bool) (limit : Nat) (is : List Instruction) : Except Failure Payload :=
  match ofBytes compressed (Utf8.bytes (Instruction.listText is)) with
  | .error e => .error e
  | .ok p =>
    if limit < p.data.utf8ByteSize then .error (overLimit p.data.utf8ByteSize limit) else .ok p

/-- The JSON text of the instructions, as bytes. -/
def jsonBytes (p : Payload) : Except Failure (List UInt8) :=
  match p.encoding with
  | .gzipBase64 => decompress p.data
  | .json => .ok (Utf8.bytes p.data)

end Payload

end ContractWatch
