import ContractWatch.Chain.Transaction
import ContractWatch.Code.Candidates
import ContractWatch.Code.Metrics
import ContractWatch.Monitor.Settings
import ContractWatch.Payload
import ContractWatch.Proofs.Json.Format
import ContractWatch.Proofs.Octets
import ContractWatch.Severity
import ContractWatch.Signature.Resolution

/-!
The records that are exchanged, each written in full and read back.
-/

namespace ContractWatch

open Json (isPlain_record isPlain_list_map isPlain_texts isPlain_option isPlain_nat)

theorem Octets.isPlain_toJson {n : Nat} (a : Octets n) : a.toJson.IsPlain := trivial

theorem Octets.asOptional?_toJson {n : Nat} (o : Option (Octets n)) :
    Json.asOptional? Octets.ofJson? (some (.option Octets.toJson o)) = some o :=
  Json.asOptional?_option (fun a => ⟨Json.noConfusion, ofJson?_toJson a⟩) o

theorem Severity.ofJson?_toJson (x : Severity) : ofJson? x.toJson = some x := by
  cases x <;> rfl

theorem TxStatus.ofJson?_toJson (x : TxStatus) : ofJson? x.toJson = some x := by
  cases x <;> rfl

theorem Payload.Encoding.ofJson?_toJson (x : Encoding) : ofJson? x.toJson = some x := by
  cases x <;> rfl

namespace Signature.Match

theorem isPlain_toJson (m : Match) : m.toJson.IsPlain := isPlain_record.2 (by simp [Json.IsPlain])

theorem ofJson?_toJson (m : Match) : ofJson? m.toJson = some m := by
  have hkeys : keys.Nodup := by decide
  rw [toJson, ofJson?, Json.members?_full hkeys rfl]
  rfl

theorem asList_toJson (ms : List Match) : (Json.list (ms.map toJson)).asList? ofJson? = some ms :=
  Json.asList_map fun m _ => ofJson?_toJson m

end Signature.Match

namespace Signature.Resolution

def format : Json.Format Resolution := ⟨toJson, ofJson?⟩

theorem ofJson?_toJson (r : Resolution) : ofJson? r.toJson = some r := by
  have hkeys : keys.Nodup := by decide
  rw [toJson, ofJson?, Json.members?_full hkeys rfl]
  simp only [List.map_cons, List.map_nil, Option.bind_eq_bind, Option.bind_some, Match.asList_toJson, Json.asList_texts]
  rfl

theorem faithful_format : format.Faithful fun _ => True where
  isPlain _ := isPlain_record.2 (by simp [isPlain_list_map, Match.isPlain_toJson, isPlain_texts])
  read_write _ := ofJson?_toJson _
  typed_of_read _ := trivial

end Signature.Resolution

namespace Payload

def format : Json.Format Payload := ⟨toJson, ofJson?⟩

theorem isPlain_toJson (p : Payload) : p.toJson.IsPlain :=
  isPlain_record.2 (by simp [Encoding.toJson, Json.IsPlain])

theorem ofJson?_toJson (p : Payload) : ofJson? p.toJson = some p := by
  have hkeys : keys.Nodup := by decide
  rw [toJson, ofJson?, Json.members?_full hkeys rfl]
  simp only [List.map_cons, List.map_nil, Option.bind_eq_bind, Option.bind_some, Encoding.ofJson?_toJson]
  rfl

theorem faithful_format : format.Faithful fun _ => True where
  isPlain _ := isPlain_toJson _
  read_write _ := ofJson?_toJson _
  typed_of_read _ := trivial

end Payload

namespace Candidates

def format : Json.Format Candidates := ⟨toJson, ofJson?⟩

theorem ofJson?_toJson (c : Candidates) : ofJson? c.toJson = some c := by
  have hkeys : keys.Nodup := by decide
  rw [toJson, ofJson?, Json.members?_full hkeys rfl]
  simp only [List.map_cons, List.map_nil, Option.bind_eq_bind, Option.bind_some, Json.asList_texts]
  rfl

theorem faithful_format : format.Faithful fun _ => True where
  isPlain _ := isPlain_record.2 (by simp [isPlain_texts])
  read_write _ := ofJson?_toJson _
  typed_of_read _ := trivial

end Candidates

namespace Metrics

def format : Json.Format Metrics := ⟨toJson, ofJson?⟩

/-- The counts are words of 64 bits. -/
structure HasWords (m : Metrics) : Prop where
  byteLength : m.byteLength < 0x10000000000000000
  instructionCount : m.instructionCount < 0x10000000000000000
  pushCount : m.pushCount < 0x10000000000000000

theorem ofJson?_of_members {v bytes instructions pushes hash : Json}
    (hv : v.members? keys 0 = some [some bytes, some instructions, some pushes, some hash]) :
    ofJson? v = bytes.asNat?.bind fun b => instructions.asNat?.bind fun i => pushes.asNat?.bind fun p =>
      hash.asText?.bind fun h => some ⟨b, i, p, h⟩ := by
  rw [ofJson?, hv]
  rfl

theorem ofJson?_toJson {m : Metrics} (h : m.HasWords) : ofJson? m.toJson = some m := by
  have hkeys : keys.Nodup := by decide
  rw [ofJson?_of_members (Json.members?_full hkeys rfl 0), Json.asNat_nat h.byteLength, Option.bind_some,
    Json.asNat_nat h.instructionCount, Option.bind_some, Json.asNat_nat h.pushCount, Option.bind_some, Json.asText?,
    Option.bind_some]

theorem hasWords_of_ofJson? {v : Json} {m : Metrics} (h : ofJson? v = some m) : m.HasWords := by
  simp only [ofJson?, bind, Option.bind_eq_some_iff] at h
  obtain ⟨ms, -, h⟩ := h
  split at h
  · simp only [Option.bind_eq_some_iff, pure, Option.some.injEq] at h
    obtain ⟨bytes, hbytes, instructions, hinstructions, pushes, hpushes, hash, -, rfl⟩ := h
    exact ⟨Json.lt_of_asNat? hbytes, Json.lt_of_asNat? hinstructions, Json.lt_of_asNat? hpushes⟩
  · contradiction

theorem faithful_format : format.Faithful HasWords where
  isPlain h := isPlain_record.2 (by
    simp [isPlain_nat h.byteLength, isPlain_nat h.instructionCount, isPlain_nat h.pushCount, Json.IsPlain])
  read_write := ofJson?_toJson
  typed_of_read := hasWords_of_ofJson?

end Metrics

namespace Settings

def format : Json.Format Settings := ⟨toJson, ofJson?⟩

theorem asOptional?_text (o : Option String) : Json.asOptional? Json.asText? (some (.option .text o)) = some o :=
  Json.asOptional?_option (f := Json.text) (fun _ => ⟨Json.noConfusion, rfl⟩) o

theorem ofJson?_of_members {v dedup compress extended limit : Json} {functions events : Option Json}
    (hv : v.members? keys 0 = some [some dedup, some compress, some extended, some limit, functions, events]) :
    ofJson? v = dedup.asBool?.bind fun d => compress.asBool?.bind fun c => extended.asBool?.bind fun x =>
      limit.asWord?.bind fun l => (Json.asOptional? Json.asText? functions).bind fun f =>
        (Json.asOptional? Json.asText? events).bind fun e => some ⟨d, c, x, l, f, e⟩ := by
  rw [ofJson?, hv]
  rfl

theorem ofJson?_toJson (s : Settings) : ofJson? s.toJson = some s := by
  have hkeys : keys.Nodup := by decide
  rw [ofJson?_of_members (Json.members?_full hkeys rfl 0), Json.asBool?, Option.bind_some, Json.asBool?,
    Option.bind_some, Json.asBool?, Option.bind_some, Json.asWord?_nat, Option.bind_some, asOptional?_text,
    Option.bind_some, asOptional?_text, Option.bind_some]

theorem faithful_format : format.Faithful fun _ => True where
  isPlain {s} _ := isPlain_record.2 (by
    have htext (o : Option String) : (Json.option Json.text o).IsPlain :=
      isPlain_option (f := Json.text) (fun _ => trivial) o
    simp [isPlain_nat s.maxPayloadBytes.toNat_lt, htext, Json.IsPlain])
  read_write _ := ofJson?_toJson _
  typed_of_read _ := trivial

end Settings

namespace Receipt

def format : Json.Format Receipt := ⟨toJson, ofJson?⟩

theorem ofJson?_toJson (r : Receipt) : ofJson? r.toJson = some r := by
  have hkeys : keys.Nodup := by decide
  rw [toJson, ofJson?, Json.members?_full hkeys rfl]
  simp only [List.map_cons, List.map_nil, Option.bind_eq_bind, Option.bind_some, Octets.ofJson?_toJson,
    TxStatus.ofJson?_toJson, Octets.asOptional?_toJson]
  rfl

theorem faithful_format : format.Faithful fun _ => True where
  isPlain _ := isPlain_record.2 (by
    simp [Octets.isPlain_toJson, isPlain_option Octets.isPlain_toJson, TxStatus.toJson, Json.IsPlain])
  read_write _ := ofJson?_toJson _
  typed_of_read _ := trivial

end Receipt

namespace Transaction

def format : Json.Format Transaction := ⟨toJson, ofJson?⟩

theorem asOptional?_word (o : Option UInt64) :
    Json.asOptional? Json.asWord? (some (.option (fun w => .nat w.toNat) o)) = some o :=
  Json.asOptional?_option (fun w => ⟨Json.noConfusion, Json.asWord?_nat w⟩) o

theorem ofJson?_toJson (t : Transaction) : ofJson? t.toJson = some t := by
  have hkeys : keys.Nodup := by decide
  rw [toJson, ofJson?, Json.members?_full hkeys rfl]
  simp only [List.map_cons, List.map_nil, Option.bind_eq_bind, Option.bind_some, Octets.ofJson?_toJson,
    Octets.asOptional?_toJson, asOptional?_word]
  rfl

theorem faithful_format : format.Faithful fun _ => True where
  isPlain _ := isPlain_record.2 (by
    have hword (o : Option UInt64) : (Json.option (fun w => Json.nat w.toNat) o).IsPlain :=
      isPlain_option (fun w => isPlain_nat w.toNat_lt) o
    simp [Octets.isPlain_toJson, isPlain_option Octets.isPlain_toJson, hword])
  read_write _ := ofJson?_toJson _
  typed_of_read _ := trivial

end Transaction

end ContractWatch
