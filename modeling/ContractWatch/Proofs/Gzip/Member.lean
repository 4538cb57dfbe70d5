import ContractWatch.Gzip.Writer
import ContractWatch.Proofs.Deflate.Blocks

/-!
A member read back, whatever follows it, and the member that is written among them.
-/

namespace ContractWatch.Gzip

theorem skipHead_head (rest : List UInt8) : skipHead (head ++ rest) = .ok rest := rfl

theorem trailer_length (data : List UInt8) : (trailer data).length = 8 := rfl

/-- A member in its parts. -/
structure Member where
  head : List UInt8
  body : List UInt8
  data : List UInt8
  skipHead_append : ∀ rest, skipHead (head ++ rest) = .ok rest
  inflate_append : ∀ rest, Deflate.inflate (body ++ rest) = .ok (data, rest)

namespace Member

def bytes (m : Member) : List UInt8 := m.head ++ m.body ++ trailer m.data

/-- The member that is written for the data. -/
def written (data : List UInt8) : Member where
  head := Gzip.head
  body := Deflate.deflate data
  data := data
  skipHead_append := skipHead_head
  inflate_append := Deflate.inflate_deflate data

theorem bytes_written (data : List UInt8) : (written data).bytes = encode data := rfl

theorem decode_bytes_append (m : Member) (rest : List UInt8) : decode (m.bytes ++ rest) = .ok m.data := by
  have htrailer : (trailer m.data ++ rest).take 8 = trailer m.data := List.take_left' (trailer_length m.data)
  simp only [bytes, List.append_assoc, decode, m.skipHead_append, m.inflate_append, htrailer, trailer_length,
    Nat.lt_irrefl, if_false, if_true]

end Member

theorem decode_encode_append (data rest : List UInt8) : decode (encode data ++ rest) = .ok data :=
  (Member.written data).decode_bytes_append rest

theorem decode_encode (data : List UInt8) : decode (encode data) = .ok data := by
  rw [← List.append_nil (encode data), decode_encode_append]

end ContractWatch.Gzip
