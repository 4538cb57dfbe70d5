import ContractWatch.Proofs.Base64.Canonical
import ContractWatch.Proofs.Gzip.Extent
import ContractWatch.Proofs.Payload

/-!
Which texts stand for compressed data. A text is accepted exactly if it is, but for blanks around it, the base64 text
of bytes that begin with a member; all others are refused, those among them that are cut off an accepted one.
-/

namespace ContractWatch.Payload

def base64Text (bs : List UInt8) : String := String.ofList (Base64.encode bs)

/-- The text gives a compression error, and no bytes. -/
def IsRefused (text : String) : Prop := ∃ e, decompress text = .error e ∧ e.kind = .compression

theorem kind_of_decompress {text : String} {e : Failure} (h : decompress text = .error e) : e.kind = .compression := by
  rw [decompress] at h
  cases hu : unpack text with
  | error f =>
    rw [hu] at h
    exact (Except.error.inj h) ▸ rfl
  | ok data =>
    rw [hu] at h
    contradiction

theorem isRefused_of_ne_ok {text : String} (h : ∀ data, decompress text ≠ .ok data) : IsRefused text := by
  match hd : decompress text with
  | .error e => exact ⟨e, hd, kind_of_decompress hd⟩
  | .ok data => exact (h data hd).elim

theorem bytes_trimmed (text : String) : Utf8.bytes (Text.trimmed text) = Utf8.encode (Text.trim text.toList) := by
  rw [Utf8.bytes, Text.trimmed, String.toList_ofList]

/-- Base64 gives a byte string to one trimmed text only. -/
theorem base64_trimmed_iff {text : String} {bs : List UInt8} :
    Base64.decode (Utf8.bytes (Text.trimmed text)) = .ok bs ↔ Text.trimmed text = base64Text bs := by
  rw [Base64.decode_eq_ok_iff, bytes_trimmed, Utf8.encode_inj, Text.trimmed, base64Text, String.ofList_inj]

theorem decompress_eq_ok_iff_unpack {text : String} {data : List UInt8} :
    decompress text = .ok data ↔ unpack text = .ok data := by
  rw [decompress]
  cases unpack text with
  | error e => exact iff_of_false (fun h => by contradiction) fun h => by contradiction
  | ok bs =>
    change (Except.ok bs : Except Failure _) = .ok data ↔ _
    rw [Except.ok.injEq, Except.ok.injEq]

theorem decompress_eq_ok_iff {text : String} {data : List UInt8} :
    decompress text = .ok data ↔ ∃ bs, Text.trimmed text = base64Text bs ∧ Gzip.decode bs = .ok data := by
  rw [decompress_eq_ok_iff_unpack]
  simp only [← base64_trimmed_iff, bytes_trimmed, unpack]
  cases Base64.decode (Utf8.encode (Text.trim text.toList)) with
  | error e => simp
  | ok bs => cases hbs : Gzip.decode bs <;> simp [hbs]

theorem isBlank_of_mem_base64Text {bs : List UInt8} {c : Char} (h : c ∈ (base64Text bs).toList) :
    Text.isBlank c = false := by
  rw [base64Text, String.toList_ofList] at h
  exact Base64.isBlank_of_mem_encode h

theorem trimmed_base64Text (bs : List UInt8) : Text.trimmed (base64Text bs) = base64Text bs :=
  Text.trimmed_of_not_blank fun _ => isBlank_of_mem_base64Text

theorem base64Text_inj {bs bs' : List UInt8} : base64Text bs = base64Text bs' ↔ bs = bs' := by
  rw [base64Text, base64Text, String.ofList_inj, Base64.encode_inj]

theorem decompress_base64Text {bs data : List UInt8} :
    decompress (base64Text bs) = .ok data ↔ Gzip.decode bs = .ok data := by
  simp only [decompress_eq_ok_iff, trimmed_base64Text, base64Text_inj, exists_eq_left']

/-! ### Cut and continued data -/

theorem isRefused_of_part {m : Gzip.Member} {part : List UInt8} (h : part <+: m.bytes) (hne : part ≠ m.bytes) :
    IsRefused (base64Text part) :=
  isRefused_of_ne_ok fun _ hdata => Gzip.Member.decode_ne_ok h hne (decompress_base64Text.1 hdata)

/-- A text that is cut off the text of a member is refused. -/
theorem isRefused_of_cut {m : Gzip.Member} {text : String} (h : text.toList <+: (base64Text m.bytes).toList)
    (hne : text ≠ base64Text m.bytes) : IsRefused text := by
  refine isRefused_of_ne_ok fun data hdata => ?_
  obtain ⟨bs, hbs, hdecode⟩ := decompress_eq_ok_iff.1 hdata
  rw [Text.trimmed_of_not_blank fun _ hc => isBlank_of_mem_base64Text (h.subset hc)] at hbs
  subst hbs
  rw [base64Text, String.toList_ofList, base64Text, String.toList_ofList] at h
  exact Gzip.Member.decode_ne_ok (Base64.prefix_of_encode_prefix h) (fun heq => hne (congrArg base64Text heq)) hdecode

/-- Whatever is accepted is so because of its first bytes, and whatever follows these; no part of them gives anything.
The data that are compressed make up such bytes, so that neither they nor their text can be cut. -/
theorem truncated_refused :
    (∀ b out, decompress (base64Text b) = .ok out →
      ∃ n ≤ b.length, (∀ b', b.take n <+: b' → decompress (base64Text b') = .ok out) ∧
        ∀ part, part <+: b → part.length < n → IsRefused (base64Text part)) ∧
    ∀ data, ∃ b, compress data = base64Text b ∧
      (∀ part, part <+: b → part ≠ b → IsRefused (base64Text part)) ∧
      ∀ text : String, text.toList <+: (compress data).toList → text ≠ compress data → IsRefused text := by
  constructor
  · intro b out h
    obtain ⟨m, rfl, hm⟩ := Gzip.exists_member_of_decode (decompress_base64Text.1 h)
    refine ⟨m.bytes.length, hm.length_le, fun b' hb' => ?_, fun part hpart hlt => ?_⟩
    · rw [← List.prefix_iff_eq_take.1 hm] at hb'
      obtain ⟨rest, rfl⟩ := hb'
      exact decompress_base64Text.2 (m.decode_bytes_append rest)
    · have hpart : part <+: m.bytes := List.prefix_of_prefix_length_le hpart hm (Nat.le_of_lt hlt)
      exact isRefused_of_part hpart (by rintro rfl; exact Nat.lt_irrefl _ hlt)
  · intro data
    refine ⟨Gzip.encode data, rfl, fun part hpart hne => ?_, fun text htext hne => ?_⟩
    · rw [← Gzip.Member.bytes_written] at hpart hne
      exact isRefused_of_part hpart hne
    · exact isRefused_of_cut (m := .written data) htext hne

/-- A member with a name in its head and stored data, and a byte behind it. -/
theorem truncated_refused_named :
    let b : List UInt8 := [0x1f, 0x8b, 8, 8, 0, 0, 0, 0, 0, 3, 0x61, 0, 1, 3, 0, 0xfc, 0xff, 1, 2, 3,
      0x1d, 0x80, 0xbc, 0x55, 3, 0, 0, 0, 7]
    decompress (base64Text b) = .ok [1, 2, 3] ∧
      (∃ n ≤ b.length, decompress (base64Text (b.take n ++ [0xff])) = .ok [1, 2, 3] ∧
        ∀ k < n, IsRefused (base64Text (b.take k))) ∧
      IsRefused (String.ofList (compress [1, 2, 3]).toList.dropLast) := by
  intro b
  have hdecode : (Gzip.decode b).toOption = some [1, 2, 3] := by decide +kernel
  have hb : decompress (base64Text b) = .ok [1, 2, 3] := by
    rw [decompress_base64Text]
    match h : Gzip.decode b with
    | .ok data =>
      rw [h] at hdecode
      exact congrArg Except.ok (Option.some.inj hdecode)
    | .error e =>
      rw [h] at hdecode
      contradiction
  have hne (data : List UInt8) : String.ofList (compress data).toList.dropLast ≠ compress data := by
    intro heq
    have hpos : 0 < (compress data).toList.length := by
      rw [toList_compress, Base64.length_encode]
      simp only [Gzip.encode, List.length_append, Gzip.trailer_length]
      omega
    have hlength := congrArg (fun s => s.toList.length) heq
    simp only [String.toList_ofList, List.length_dropLast] at hlength
    omega
  have hcut (data : List UInt8) : (String.ofList (compress data).toList.dropLast).toList <+: (compress data).toList := by
    rw [String.toList_ofList]
    exact List.dropLast_prefix _
  obtain ⟨whole, cut⟩ := truncated_refused
  obtain ⟨n, hn, hok, hpart⟩ := whole b _ hb
  obtain ⟨-, -, -, htext⟩ := cut [1, 2, 3]
  refine ⟨hb, ⟨n, hn, hok _ (List.prefix_append _ _), fun k hk => hpart _ (List.take_prefix k b) ?_⟩,
    htext _ (hcut _) (hne _)⟩
  rw [List.length_take]
  omega

/-! ### The trailer -/

/-- An accepted text is the base64 text of a member and what follows it, and the member holds the checksum and the
length of the bytes that are returned; all other texts are refused. A byte string has one trimmed text. -/
theorem accepted_checked :
    (∀ text : String, match decompress text with
      | .ok out => ∃ (m : Gzip.Member) (s sum size : List UInt8),
        Text.trimmed text = base64Text (m.bytes ++ s) ∧ m.data = out ∧ [0x1f, 0x8b, 8] <+: m.bytes ∧
          m.bytes = m.head ++ m.body ++ (sum ++ size) ∧ sum.length = 4 ∧ size.length = 4 ∧
          Deflate.littleEndian sum = (Crc32.checksum out).toNat ∧ Deflate.littleEndian size = out.length % 2 ^ 32
      | .error e => e.kind = .compression ∧
        ∀ (m : Gzip.Member) (s : List UInt8), Text.trimmed text ≠ base64Text (m.bytes ++ s)) ∧
    ∀ text text' bs, Base64.decode (Utf8.bytes (Text.trimmed text)) = .ok bs →
      Base64.decode (Utf8.bytes (Text.trimmed text')) = .ok bs → Text.trimmed text = Text.trimmed text' := by
  constructor
  · intro text
    match h : decompress text with
    | .ok out =>
      obtain ⟨bs, htext, hdecode⟩ := decompress_eq_ok_iff.1 h
      obtain ⟨m, rfl, s, rfl⟩ := Gzip.exists_member_of_decode hdecode
      refine ⟨m, s, _, _, htext, rfl, m.prefix_bytes, rfl, Gzip.fourBytes_length _, Gzip.fourBytes_length _, ?_,
        Gzip.littleEndian_fourBytes _⟩
      rw [Gzip.littleEndian_fourBytes, Nat.mod_eq_of_lt (UInt32.toNat_lt _)]
    | .error e =>
      refine ⟨kind_of_decompress h, fun m s htext => ?_⟩
      have hok := decompress_eq_ok_iff.2 ⟨_, htext, m.decode_bytes_append s⟩
      rw [h] at hok
      contradiction
  · intro text text' bs h h'
    rw [base64_trimmed_iff.1 h, base64_trimmed_iff.1 h']

/-- A line end before the text, and an ideographic blank after it. -/
theorem accepted_checked_blanks :
    let text := String.ofList ['\n'] ++ compress [1, 2, 3] ++ String.ofList []
    let text' := String.ofList [] ++ compress [1, 2, 3] ++ String.ofList ['\u3000']
    (∃ (m : Gzip.Member) (s sum size : List UInt8), Text.trimmed text = base64Text (m.bytes ++ s) ∧
      m.bytes = m.head ++ m.body ++ (sum ++ size) ∧
      Deflate.littleEndian sum = (Crc32.checksum [1, 2, 3]).toNat ∧ Deflate.littleEndian size = 3) ∧
    Text.trimmed text = Text.trimmed text' := by
  intro text text'
  have hnone : ∀ c ∈ ([] : List Char), Text.isBlank c := by simp
  have hline : ∀ c ∈ ['\n'], Text.isBlank c := fun _ hc => by rw [List.mem_singleton.1 hc]; decide
  have hwide : ∀ c ∈ ['\u3000'], Text.isBlank c := fun _ hc => by rw [List.mem_singleton.1 hc]; decide
  have hbytes (before after : List Char) (hb : ∀ c ∈ before, Text.isBlank c) (ha : ∀ c ∈ after, Text.isBlank c) :
      Base64.decode (Utf8.bytes (Text.trimmed (String.ofList before ++ compress [1, 2, 3] ++ String.ofList after))) =
        .ok (Gzip.encode [1, 2, 3]) :=
    base64_trimmed_iff.2 (Text.trimmed_around hb ha fun _ => isBlank_of_mem_base64Text)
  obtain ⟨checked, unique⟩ := accepted_checked
  have hok : decompress text = .ok [1, 2, 3] := decompress_around hline hnone _
  have htext := checked text
  rw [hok] at htext
  obtain ⟨m, s, sum, size, hs, -, -, hm, -, -, hsum, hsize⟩ := htext
  exact ⟨⟨m, s, sum, size, hs, hm, hsum, hsize⟩, unique _ _ _ (hbytes _ _ hline hnone) (hbytes _ _ hnone hwide)⟩

end ContractWatch.Payload
