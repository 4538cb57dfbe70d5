import ContractWatch.Alert
import ContractWatch.Proofs.Json.Embedding
import ContractWatch.Proofs.Records
import ContractWatch.Proofs.Time.Rfc3339

/-!
Alerts read back from their text. An analysis is a free value: unless it is nested too deeply it comes back exactly if
it embeds no text, and one that is `null` comes back as none.
-/

namespace ContractWatch.Alert

namespace Metadata

/-- An analysis of whole numbers that is nested no deeper than a reader goes. -/
structure Fits (v : Json) : Prop where
  noReal : v.HasNoReal
  depth : v.depth + 2 ≤ Json.maxDepth

def withAnalysis (m : Metadata) (x : Option Json) : Metadata := { m with analysis := x }

/-- What a reader makes of an analysis. -/
def readAnalysis : Option Json → Option Json
  | some .null => none
  | x => x

theorem members?_toJson (m : Metadata) : m.toJson.members? keys 2 =
    some [some m.transaction.toJson, some m.contract.toJson, some (.list (m.functions.map Signature.Match.toJson)),
      some (.texts m.unknownFunctions), some (.list (m.events.map Signature.Match.toJson)),
      some (.texts m.unknownEvents), some (.text m.bytecode), m.payload.map Payload.toJson, m.analysis] := by
  obtain ⟨transaction, contract, functions, unknownFunctions, events, unknownEvents, bytecode, payload, analysis⟩ := m
  rcases payload with _ | p <;> rcases analysis with _ | v
  all_goals
    rw [toJson, Json.members?_record (by simp [optional])]
    simp [keys, optional, List.lookup_cons]

theorem asOptional?_payload (o : Option Payload) :
    Json.asOptional? Payload.ofJson? (o.map Payload.toJson) = some o := by
  cases o with
  | none => rfl
  | some p =>
    rw [Option.map_some, Json.asOptional?, Json.asOption?_of_ne Json.noConfusion, Payload.ofJson?_toJson,
      Option.map_some]

theorem ofJson?_toJson (m : Metadata) :
    ofJson? m.toJson = (Json.asOptional? analysis? m.analysis).map m.withAnalysis := by
  rw [ofJson?, members?_toJson]
  simp only [Option.bind_eq_bind, Option.bind_some, Octets.ofJson?_toJson, Signature.Match.asList_toJson,
    Json.asList_texts, Json.asText?, asOptional?_payload]
  cases Json.asOptional? analysis? m.analysis <;> rfl

theorem asOptional?_analysis_iff {o : Option Json} (hk : ∀ v, o = some v → v.IsKept)
    (hf : ∀ v, o = some v → Fits v) :
    Json.asOptional? analysis? o = some (readAnalysis o) ↔ ∀ v, o = some v → v.HasNoEmbedding := by
  cases o with
  | none => simp [Json.asOptional?, readAnalysis]
  | some v =>
    have hv : analysis? v = some v ↔ v.HasNoEmbedding := by
      rw [analysis?, if_pos (hf v rfl).depth, Json.canonical?_eq_self_iff (hk v rfl)]
    by_cases hn : v = .null
    · subst hn
      have hnull : Json.null.HasNoEmbedding := .atom rfl trivial
      simp [Json.asOptional?, Json.asOption?, readAnalysis, hnull]
    · have hread : readAnalysis (some v) = some v := by
        cases v with
        | null => contradiction
        | _ => rfl
      simp [Json.asOptional?, Json.asOption?_of_ne hn, hread, hv]

theorem isPlain_optional {α : Type} {k : String} {f : α → Json} {o : Option α} (h : ∀ a, o = some a → (f a).IsPlain) :
    ∀ m ∈ optional k f o, m.2.IsPlain := by
  cases o with
  | none => simp [optional]
  | some a =>
    intro m hm
    obtain rfl := List.mem_singleton.1 hm
    exact h a rfl

theorem isPlain_toJson {m : Metadata} (h : ∀ v, m.analysis = some v → v.IsPlain) : m.toJson.IsPlain := by
  refine Json.isPlain_record.2 ?_
  rw [List.forall_mem_append, List.forall_mem_append]
  refine ⟨⟨?_, isPlain_optional fun p _ => p.isPlain_toJson⟩, isPlain_optional h⟩
  simp [Octets.isPlain_toJson, Json.isPlain_list_map, Signature.Match.isPlain_toJson, Json.isPlain_texts,
    Json.isPlain_text]

theorem isKept_of_analysis? {v w : Json} (hv : v.InRange) (h : analysis? v = some w) : w.IsKept := by
  rw [analysis?] at h
  split at h
  · exact Json.isKept_of_canonical? hv h
  · contradiction

theorem isKept_of_ofJson? {v : Json} (hv : v.InRange) {m : Metadata} (h : ofJson? v = some m) :
    ∀ x, m.analysis = some x → x.IsKept := by
  simp only [ofJson?, bind, Option.bind_eq_some_iff] at h
  obtain ⟨ms, hms, h⟩ := h
  split at h
  · simp only [Option.bind_eq_some_iff, pure, Option.some.injEq] at h
    obtain ⟨_, -, _, -, _, -, _, -, _, -, _, -, _, -, _, -, o, ho, rfl⟩ := h
    rename_i analysis _
    rintro x rfl
    obtain ⟨w, rfl, hx⟩ := Json.exists_of_asOptional? ho
    exact isKept_of_analysis? (hv.of_members? hms (by simp)) hx
  · contradiction

end Metadata

def format : Json.Format Alert := ⟨toJson, ofJson?⟩

/-- The analysis is a value as free values are kept. -/
def Typed (a : Alert) : Prop := ∀ v, a.metadata.analysis = some v → v.IsKept

def Fits (a : Alert) : Prop := ∀ v, a.metadata.analysis = some v → Metadata.Fits v

def EmbedsNone (a : Alert) : Prop := ∀ v, a.metadata.analysis = some v → v.HasNoEmbedding

/-- Without analysis there is none that could be too much. -/
theorem forall_of_analysis_eq_none {a : Alert} (h : a.metadata.analysis = none) (p : Json → Prop) :
    ∀ v, a.metadata.analysis = some v → p v := fun v hv => by
  rw [h] at hv
  contradiction

/-- The alert as a reader has it. -/
def readBack (a : Alert) : Alert :=
  { a with metadata := a.metadata.withAnalysis (Metadata.readAnalysis a.metadata.analysis) }

theorem readBack_of_ne {a : Alert} (h : a.metadata.analysis ≠ some .null) : a.readBack = a := by
  have hread : Metadata.readAnalysis a.metadata.analysis = a.metadata.analysis := by
    unfold Metadata.readAnalysis
    split
    · contradiction
    · rfl
  rw [readBack, hread]
  rfl

/-- An alert without analysis is read back as it was. -/
theorem plain_of_analysis_eq_none {a : Alert} (h : a.metadata.analysis = none) :
    a.Typed ∧ a.Fits ∧ a.EmbedsNone ∧ a.readBack = a :=
  ⟨forall_of_analysis_eq_none h _, forall_of_analysis_eq_none h _, forall_of_analysis_eq_none h _,
    readBack_of_ne (by simp [h])⟩

theorem ofJson?_toJson (a : Alert) :
    ofJson? a.toJson = (Metadata.ofJson? a.metadata.toJson).map fun m => { a with metadata := m } := by
  have hkeys : keys.Nodup := by decide
  rw [toJson, ofJson?, Json.members?_full hkeys rfl]
  simp only [List.map_cons, List.map_nil, Option.bind_eq_bind, Option.bind_some, Json.asText?, Severity.ofJson?_toJson,
    Rfc3339.ofJson?_toJson]
  cases Metadata.ofJson? a.metadata.toJson <;> rfl

theorem isPlain_toJson {a : Alert} (h : ∀ v, a.metadata.analysis = some v → v.IsPlain) : a.toJson.IsPlain :=
  Json.isPlain_record.2 (by
    simp [Metadata.isPlain_toJson h, Severity.toJson, Rfc3339.toJson, Json.IsPlain])

/-- Only the analysis decides whether an alert is read back. -/
theorem parse?_text_eq {a : Alert} (h : ∀ v, a.metadata.analysis = some v → v.IsPlain) :
    parse? a.text = (Json.asOptional? Metadata.analysis? a.metadata.analysis).map fun x =>
      { a with metadata := a.metadata.withAnalysis x } := by
  rw [parse?, text, Json.parseText_render (isPlain_toJson h), Option.bind_some, ofJson?_toJson,
    Metadata.ofJson?_toJson, Option.map_map]
  rfl

/-- An analysis is written, also one that is `null`. -/
theorem analysis_eq_of_text_eq {a b : Alert} (ha : ∀ v, a.metadata.analysis = some v → v.IsPlain)
    (hb : ∀ v, b.metadata.analysis = some v → v.IsPlain) (h : a.text = b.text) :
    a.metadata.analysis = b.metadata.analysis := by
  have hparse : some a.toJson = some b.toJson := by
    rw [← Json.parseText_render (isPlain_toJson ha), ← Json.parseText_render (isPlain_toJson hb)]
    exact congrArg Json.parseText h
  have hmetadata : a.metadata.toJson = b.metadata.toJson := by
    simp only [toJson, Option.some.injEq, Json.record.injEq, List.cons.injEq, Prod.mk.injEq] at hparse
    exact hparse.2.2.2.2.2.1.2
  have hmembers := a.metadata.members?_toJson.symm.trans (hmetadata ▸ b.metadata.members?_toJson)
  simp only [Option.some.injEq, List.cons.injEq] at hmembers
  exact hmembers.2.2.2.2.2.2.2.2.1

/-- An alert is read back exactly if its analysis embeds no text. -/
theorem parse?_text_iff {a : Alert} (ht : a.Typed) (hf : a.Fits) : parse? a.text = some a.readBack ↔ a.EmbedsNone := by
  rw [parse?_text_eq fun v hv => (ht v hv).isPlain (hf v hv).noReal, Option.map_eq_some_iff, EmbedsNone,
    ← Metadata.asOptional?_analysis_iff ht hf]
  constructor
  · rintro ⟨x, hx, ha⟩
    rw [hx]
    exact congrArg some (congrArg (fun b : Alert => b.metadata.analysis) ha)
  · intro h
    exact ⟨_, h, rfl⟩

theorem typed_of_parse? {s : String} {a : Alert} (h : parse? s = some a) : a.Typed := by
  obtain ⟨v, hv, ha⟩ := Option.bind_eq_some_iff.1 h
  simp only [ofJson?, bind, Option.bind_eq_some_iff] at ha
  obtain ⟨ms, hms, ha⟩ := ha
  split at ha
  · simp only [Option.bind_eq_some_iff, pure, Option.some.injEq] at ha
    obtain ⟨_, -, _, -, _, -, _, -, _, -, m, hm, rfl⟩ := ha
    exact Metadata.isKept_of_ofJson? ((Json.inRange_of_parseText hv).of_members? hms (by simp)) hm
  · contradiction

/-- Written again, an alert that was read stays as it was written. -/
theorem rewrite?_text {s : String} {a : Alert} (h : parse? s = some a) (hf : a.Fits) (he : a.EmbedsNone)
    (hn : a.metadata.analysis ≠ some .null) : format.rewrite? a.text = some a.text := by
  have hread : format.parse? a.text = some a.readBack := (parse?_text_iff (typed_of_parse? h) hf).2 he
  rw [Json.Format.rewrite?, hread, readBack_of_ne hn]
  rfl

end ContractWatch.Alert
