import ContractWatch.Payload
import ContractWatch.Proofs.Base64
import ContractWatch.Proofs.Code.Record
import ContractWatch.Proofs.Gzip.Member
import ContractWatch.Proofs.Text.Blank
import ContractWatch.Proofs.Text.Utf8

/-!
What a payload carries comes back from its text.
-/

namespace ContractWatch.Payload

theorem toList_compress (data : List UInt8) : (compress data).toList = Base64.encode (Gzip.encode data) := by
  rw [compress, String.toList_ofList]

theorem decompress_around {before after : List Char} (hb : ∀ c ∈ before, Text.isBlank c)
    (ha : ∀ c ∈ after, Text.isBlank c) (data : List UInt8) :
    decompress (String.ofList before ++ compress data ++ String.ofList after) = .ok data := by
  have htrim : Text.trim (before ++ Base64.encode (Gzip.encode data) ++ after) = Base64.encode (Gzip.encode data) :=
    Text.trim_around hb ha fun _ => Base64.isBlank_of_mem_encode
  have htext : (String.ofList before ++ compress data ++ String.ofList after).toList =
      before ++ Base64.encode (Gzip.encode data) ++ after := by
    simp only [String.toList_append, String.toList_ofList, toList_compress]
  simp only [decompress, unpack, htext, htrim, Base64.decode_encode, Gzip.decode_encode]
  rfl

theorem decompress_text (data : List UInt8) : decompress (compress data) = .ok data := by
  have hnone : ∀ c ∈ ([] : List Char), Text.isBlank c := by simp
  have h := decompress_around hnone hnone data
  simpa using h

/-- Compressed data come back, also where blanks stand around their text. -/
theorem decompress_compress (data : List UInt8) :
    decompress (compress data) = .ok data ∧
      ∀ before after : List Char, (∀ c ∈ before, Text.isBlank c) → (∀ c ∈ after, Text.isBlank c) →
        decompress (String.ofList before ++ compress data ++ String.ofList after) = .ok data := by
  constructor
  · exact decompress_text data
  · intro before after hb ha
    exact decompress_around hb ha data

/-- A blank line before the text and an ideographic blank after it. -/
theorem decompress_compress_blanks :
    decompress (String.ofList ['\n'] ++ compress [1, 2, 3] ++ String.ofList ['\u3000']) = .ok [1, 2, 3] :=
  (decompress_compress [1, 2, 3]).2 ['\n'] ['\u3000'] (fun _ hc => by rw [List.mem_singleton.1 hc]; decide)
    (fun _ hc => by rw [List.mem_singleton.1 hc]; decide)

/-- Compressing makes no data much longer than three times their length. -/
theorem utf8ByteSize_compress_le (data : List UInt8) : (compress data).utf8ByteSize ≤ 3 * data.length + 34 := by
  have hdeflate := Nat.le_trans (Deflate.length_deflate_le data) (Deflate.length_stored_le data)
  have hmember : (Gzip.encode data).length = 10 + (Deflate.deflate data).length + 8 := by
    rw [Gzip.encode, List.length_append, List.length_append, Gzip.trailer_length]
    rfl
  rw [compress, ← Utf8.length_encode, Base64.length_bytes_encode]
  omega

/-! ### Instructions -/

/-- The text that a payload holds for a text. -/
def dataOf (compressed : Bool) (text : String) : String :=
  if compressed then compress (Utf8.bytes text) else text

/-- The payload for a text, whatever its size. -/
def ofText (compressed : Bool) (text : String) : Payload :=
  ⟨if compressed then .gzipBase64 else .json, dataOf compressed text⟩

theorem dataOf_true (text : String) : dataOf true text = compress (Utf8.bytes text) := rfl

theorem ofText_data (compressed : Bool) (text : String) : (ofText compressed text).data = dataOf compressed text := rfl

theorem ofBytes_bytes (compressed : Bool) (text : String) :
    ofBytes compressed (Utf8.bytes text) = .ok (ofText compressed text) := by
  cases compressed with
  | true => rfl
  | false =>
    simp only [ofBytes, Utf8.read_bytes, Bool.false_eq_true, if_false]
    rfl

theorem jsonBytes_ofText (compressed : Bool) (text : String) :
    (ofText compressed text).jsonBytes = .ok (Utf8.bytes text) := by
  cases compressed with
  | true => exact decompress_text (Utf8.bytes text)
  | false => rfl

theorem ofInstructions_eq (compressed : Bool) (limit : Nat) (is : List Instruction) :
    ofInstructions compressed limit is =
      if limit < (dataOf compressed (Instruction.listText is)).utf8ByteSize then
        .error (overLimit (dataOf compressed (Instruction.listText is)).utf8ByteSize limit)
      else .ok (ofText compressed (Instruction.listText is)) := by
  simp only [ofInstructions, ofBytes_bytes]
  rfl

/-- Within the limit the whole text is carried, and beyond it nothing. -/
theorem ofInstructions_eq_ok {compressed : Bool} {limit : Nat} {is : List Instruction} {p : Payload} :
    ofInstructions compressed limit is = .ok p ↔
      p.data.utf8ByteSize ≤ limit ∧ p = ofText compressed (Instruction.listText is) := by
  rw [ofInstructions_eq]
  split
  · rename_i h
    constructor
    · intro hp
      cases hp
    · rintro ⟨hle, rfl⟩
      exact absurd h (Nat.not_lt.2 hle)
  · rename_i h
    constructor
    · intro hp
      obtain rfl := Except.ok.inj hp
      exact ⟨Nat.not_lt.1 h, rfl⟩
    · rintro ⟨-, rfl⟩
      rfl

theorem exists_ofInstructions_iff {compressed : Bool} {limit : Nat} {is : List Instruction} :
    (∃ p, ofInstructions compressed limit is = .ok p) ↔
      (dataOf compressed (Instruction.listText is)).utf8ByteSize ≤ limit := by
  constructor
  · rintro ⟨p, hp⟩
    obtain ⟨hle, rfl⟩ := ofInstructions_eq_ok.1 hp
    exact hle
  · intro hle
    exact ⟨_, ofInstructions_eq_ok.2 ⟨hle, rfl⟩⟩

/-- The instructions come back from the payload, if there is one. -/
theorem jsonBytes_of_ofInstructions {compressed : Bool} {limit : Nat} {is : List Instruction} {p : Payload}
    (h : ofInstructions compressed limit is = .ok p) : p.jsonBytes = .ok (Utf8.bytes (Instruction.listText is)) := by
  obtain ⟨-, rfl⟩ := ofInstructions_eq_ok.1 h
  exact jsonBytes_ofText compressed _

/-- A payload holds the whole text or is not there. It is there exactly if the text keeps within the limit, and the JSON
text of the instructions comes back from it, compressed or not. Beyond the limit, size and limit are told. -/
theorem all_or_nothing (is : List Instruction) :
    (∀ compressed limit,
      ((∃ p, ofInstructions compressed limit is = .ok p) ↔
        (dataOf compressed (Instruction.listText is)).utf8ByteSize ≤ limit) ∧
      (∀ p, ofInstructions compressed limit is = .ok p →
        p.data = dataOf compressed (Instruction.listText is) ∧
          p.encoding = (if compressed then .gzipBase64 else .json) ∧
          p.jsonBytes = .ok (Utf8.bytes (Instruction.listText is))) ∧
      (limit < (dataOf compressed (Instruction.listText is)).utf8ByteSize →
        ofInstructions compressed limit is = .error ⟨.validation, "payload de opcodes com " ++
          Decimal.text (dataOf compressed (Instruction.listText is)).utf8ByteSize ++
          " bytes excede o limite de " ++ Decimal.text limit⟩)) ∧
    (∀ compressed limit limit' p, limit ≤ limit' → ofInstructions compressed limit is = .ok p →
      ofInstructions compressed limit' is = .ok p) ∧
    ∀ limit limit' p q, ofInstructions true limit is = .ok p → ofInstructions false limit' is = .ok q →
      p.jsonBytes = q.jsonBytes := by
  refine ⟨fun compressed limit => ⟨exists_ofInstructions_iff, fun p hp => ?_, fun hlt => ?_⟩,
    fun compressed limit limit' p hle hp => ?_, fun limit limit' p q hp hq => ?_⟩
  · have hbytes := jsonBytes_of_ofInstructions hp
    obtain ⟨-, rfl⟩ := ofInstructions_eq_ok.1 hp
    exact ⟨rfl, rfl, hbytes⟩
  · rw [ofInstructions_eq, if_pos hlt, overLimit]
  · obtain ⟨hsize, hp⟩ := ofInstructions_eq_ok.1 hp
    exact ofInstructions_eq_ok.2 ⟨Nat.le_trans hsize hle, hp⟩
  · rw [jsonBytes_of_ofInstructions hp, jsonBytes_of_ofInstructions hq]

/-- A limit that the text just keeps within, and one that it passes by a byte. -/
theorem all_or_nothing_push1 :
    let is : List Instruction := [⟨0, 0x60, some [0x01]⟩]
    (∃ p q, ofInstructions false 46 is = .ok p ∧ p.encoding = .json ∧
      p.jsonBytes = .ok (Utf8.bytes (Instruction.listText is)) ∧ ofInstructions false 47 is = .ok p ∧
      ofInstructions true (dataOf true (Instruction.listText is)).utf8ByteSize is = .ok q ∧
      q.jsonBytes = p.jsonBytes) ∧
    ofInstructions false 45 is =
      .error ⟨.validation, "payload de opcodes com 46 bytes excede o limite de 45"⟩ := by
  intro is
  have hsize : (dataOf false (Instruction.listText is)).utf8ByteSize = 46 := by decide
  obtain ⟨each, mono, agree⟩ := all_or_nothing is
  obtain ⟨p, hp⟩ := (each false 46).1.2 (Nat.le_of_eq hsize)
  obtain ⟨q, hq⟩ := (each true _).1.2 (Nat.le_refl _)
  obtain ⟨-, hencoding, hbytes⟩ := (each false 46).2.1 p hp
  refine ⟨⟨p, q, hp, hencoding, hbytes, mono false 46 47 p (by decide) hp, hq, agree _ _ _ _ hq hp⟩, ?_⟩
  rw [(each false 45).2.2 (by rw [hsize]; decide), hsize]
  rfl

end ContractWatch.Payload
