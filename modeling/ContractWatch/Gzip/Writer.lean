import ContractWatch.Deflate.Encoder
import ContractWatch.Gzip.Member

/-!
Writing a gzip member without name, comment or time.
-/

namespace ContractWatch.Gzip

def head : List UInt8 := [0x1f, 0x8b, 8, 0, 0, 0, 0, 0, 0, 0xff]

def encode (data : List UInt8) : List UInt8 := head ++ Deflate.deflate data ++ trailer data

end ContractWatch.Gzip
