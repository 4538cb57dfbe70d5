import ContractWatch.Deflate.Inflate
import ContractWatch.Gzip.Crc32

/-!
A gzip member: a head, deflated data, and a trailer with the checksum and the length of the data. What follows
the member is not looked at.
-/

namespace ContractWatch.Gzip

inductive Fault
  | header
  | truncated
  | longField
  | checksum
  | deflate (e : Deflate.Fault)
  deriving DecidableEq

def Fault.message : Fault → String
  | .header => "invalid gzip header"
  | .truncated => "unexpected end of file"
  | .longField => "gzip header field too long"
  | .checksum => "corrupt gzip stream does not have a matching checksum"
  | .deflate .incomplete => "incomplete deflate stream"
  | .deflate .corrupt => "corrupt deflate stream"

/-- The bytes after `count` of them. -/
def skip (count : Nat) (bs : List UInt8) : Except Fault (List UInt8) :=
  if (bs.take count).length < count then .error .truncated else .ok (bs.drop count)

/-- A name or a comment of the head may have this many bytes. -/
def maxField : Nat := 65535

/-- The bytes after a zero, of which at most `room` come before it. -/
def skipText : (room : Nat) → List UInt8 → Except Fault (List UInt8)
  | _, [] => .error .truncated
  | 0, b :: bs => if b = 0 then .ok bs else .error .longField
  | room + 1, b :: bs => if b = 0 then .ok bs else skipText room bs

/-- The bytes after a field that begins with its length. -/
def skipExtra (bs : List UInt8) : Except Fault (List UInt8) :=
  match skip 2 bs with
  | .error e => .error e
  | .ok rest => skip (Deflate.littleEndian (bs.take 2)) rest

/-- Compares two bytes with the checksum of the head before them. -/
def skipHeadSum (head bs : List UInt8) : Except Fault (List UInt8) :=
  match skip 2 bs with
  | .error e => .error e
  | .ok rest =>
    if Deflate.littleEndian (bs.take 2) = (Crc32.checksum head).toNat % 65536 then .ok rest
    else .error .checksum

def hasFlag (flags bit : UInt8) : Bool := flags &&& bit != 0

/-- The bytes after the fields that the flags announce. -/
def skipFields (flags : UInt8) (all bs : List UInt8) : Except Fault (List UInt8) := do
  let bs ← if hasFlag flags 4 then skipExtra bs else .ok bs
  let bs ← if hasFlag flags 8 then skipText maxField bs else .ok bs
  let bs ← if hasFlag flags 16 then skipText maxField bs else .ok bs
  if hasFlag flags 2 then skipHeadSum (all.take (all.length - bs.length)) bs else .ok bs

/-- The bytes after the head. -/
def skipHead (bs : List UInt8) : Except Fault (List UInt8) :=
  match bs with
  | id1 :: id2 :: method :: flags :: _ :: _ :: _ :: _ :: _ :: _ :: rest =>
    if id1 = 0x1f ∧ id2 = 0x8b ∧ method = 8 ∧ !hasFlag flags 0xe0 then skipFields flags bs rest
    else .error .header
  | _ => .error .truncated

def fourBytes (n : Nat) : List UInt8 :=
  [UInt8.ofNat (n % 256), UInt8.ofNat (n / 256 % 256), UInt8.ofNat (n / 65536 % 256), UInt8.ofNat (n / 16777216 % 256)]

/-- Checksum and length of the data, the length without what is beyond 32 bits. -/
def trailer (data : List UInt8) : List UInt8 :=
  fourBytes (Crc32.checksum data).toNat ++ fourBytes data.length

/-- The data of the member at the head of the bytes. -/
def decode (bs : List UInt8) : Except Fault (List UInt8) :=
  match skipHead bs with
  | .error e => .error e
  | .ok body =>
    match Deflate.inflate body with
    | .error e => .error (.deflate e)
    | .ok (data, rest) =>
      if (rest.take 8).length < 8 then .error .truncated
      else if rest.take 8 = trailer data then .ok data
      else .error .checksum

end ContractWatch.Gzip
