/-!
The checksum CRC-32: the remainder of the data, taken as a polynomial, by the polynomial 0xedb88320 whose highest
power is the lowest bit.
-/

namespace ContractWatch.Crc32

def step (c : UInt32) : UInt32 := if c &&& 1 = 1 then (0xedb88320 : UInt32) ^^^ (c >>> 1) else c >>> 1

/-- What eight steps make of each byte. -/
def table : Array UInt32 :=
  Array.ofFn fun i : Fin 256 => step (step (step (step (step (step (step (step (UInt32.ofNat i))))))))

def add (c : UInt32) (b : UInt8) : UInt32 :=
  table.getD ((c ^^^ b.toUInt32) &&& 0xff).toNat 0 ^^^ (c >>> 8)

def checksum (bs : List UInt8) : UInt32 := bs.foldl add 0xffffffff ^^^ 0xffffffff

end ContractWatch.Crc32
