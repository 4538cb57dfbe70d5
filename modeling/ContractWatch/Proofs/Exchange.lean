import ContractWatch.Proofs.Monitor.Messages

/-!
All that a monitor exchanges as JSON text: alerts and what they are made of, measures, settings, transactions and
receipts.
-/

namespace ContractWatch

open Signature (Resolution)

/-- Every value that is exchanged is what its text spells. An alert with the analysis `null` comes back without
analysis. If its analysis has no reals and is not nested too deeply, an alert comes back exactly if no object in the
analysis would be read as embedded text. What is written for a text that was read stays the same when it is read and
written again. -/
theorem exchanged_values_read_back :
    (∀ a : Alert, a.Typed → a.Fits → (Alert.parse? a.text = some a.readBack ↔ a.EmbedsNone)) ∧
    (∀ (t : String) (a : Alert), Alert.parse? t = some a → a.Fits → a.EmbedsNone →
      a.metadata.analysis ≠ some .null → Alert.format.rewrite? a.text = some a.text) ∧
    Resolution.format.RoundTrips (fun _ => True) ∧
    Payload.format.RoundTrips (fun _ => True) ∧
    Candidates.format.RoundTrips (fun _ => True) ∧
    Metrics.format.RoundTrips Metrics.HasWords ∧
    Settings.format.RoundTrips (fun _ => True) ∧
    Transaction.format.RoundTrips (fun _ => True) ∧
    Receipt.format.RoundTrips (fun _ => True) ∧
    ∀ (m : Monitor) (node : Node) (notifier : Notifier) (now : Instant) (tx : Transaction) (s : Monitor.State)
        (a : Alert),
      (m.process node notifier now tx s).1.alert = some a → a.Typed → a.Fits →
      ∃ bs, Action.messages (m.process node notifier now tx s).1.actions = [bs] ∧
        ((Utf8.decode? bs).bind Alert.parse? = some a.readBack ↔ a.EmbedsNone) :=
  ⟨fun _ => Alert.parse?_text_iff, fun _ _ => Alert.rewrite?_text, Resolution.faithful_format.roundTrips,
    Payload.faithful_format.roundTrips, Candidates.faithful_format.roundTrips, Metrics.faithful_format.roundTrips,
    Settings.faithful_format.roundTrips, Transaction.faithful_format.roundTrips, Receipt.faithful_format.roundTrips,
    fun _ _ _ _ _ _ _ => Monitor.exists_message⟩

/-- An alert for the zero transaction and the zero address, with an analysis. -/
def Alert.ofAnalysis (v : Json) : Alert := .of .zero { contract := .zero, analysis := some v } .epoch 0

/-- An alert with a count as its analysis, measures, and a message about a contract whose whole code is one push. -/
theorem exchanged_values_read_back_count :
    let v : Json := .record [("count", .int 2)]
    let a := Alert.ofAnalysis v
    let c : Metrics := ⟨2, 1, 1, "0x"⟩
    let m : Monitor := { settings := {}, tables := ⟨.empty, .empty⟩ }
    let node : Node := .ofContract ⟨List.replicate 20 0xab, rfl⟩ [0x60, 0x01]
    let tx : Transaction := { hash := .zero, sender := .zero, recipient := none, block := none }
    Alert.parse? a.text = some a ∧ Alert.format.rewrite? a.text = some a.text ∧
      Metrics.format.parse? (Metrics.format.text c) = some c ∧
      ∃ bs b, (m.process node .log .epoch tx m.start).1.alert = some b ∧
        Action.messages (m.process node .log .epoch tx m.start).1.actions = [bs] ∧
        (Utf8.decode? bs).bind Alert.parse? = some b := by
  intro v a c m node tx
  obtain ⟨read, rewrite, -, -, -, metrics, -, -, -, message⟩ := exchanged_values_read_back
  have hmember {p : Json → Prop} (h : p (.int 2)) : ∀ m ∈ [("count", Json.int 2)], m.2.Everywhere p :=
    List.forall_mem_singleton.2 (.atom rfl h)
  have ht : a.Typed := by
    rintro w ⟨⟩
    exact Json.isKept_record.2 ⟨by decide, hmember (by decide)⟩
  have hf : a.Fits := by
    rintro w ⟨⟩
    exact ⟨.record trivial (hmember trivial), by decide⟩
  have he : a.EmbedsNone := by
    rintro w ⟨⟩
    exact .record (by decide) (hmember trivial)
  have hread : Alert.parse? a.text = some a := (read a ht hf).2 he
  have hne : a.metadata.analysis ≠ some .null := fun h => Json.noConfusion (Option.some.inj h)
  have hwords : c.HasWords := ⟨by decide, by decide, by decide⟩
  have hdeploys : m.Deploys node tx m.start ⟨List.replicate 20 0xab, rfl⟩ [0x60, 0x01] _ :=
    Monitor.deploys_of_node (m.start_admits _) rfl (by decide) (by decide) rfl
  obtain ⟨b, halert, hnone⟩ := Monitor.exists_alert_of_deploys (d := ⟨tx, node, .epoch, some .log⟩) hdeploys rfl
  obtain ⟨htb, hfb, heb, hback⟩ := Alert.plain_of_analysis_eq_none hnone
  obtain ⟨bs, hbs, hb⟩ := message m node .log .epoch tx m.start b halert htb hfb
  rw [hback] at hb
  exact ⟨hread, rewrite a.text a hread hf he hne, metrics.parse_text c hwords, bs, b, halert, hbs, hb.2 heb⟩

theorem Alert.parse?_ofAnalysis {v : Json} (hv : v.IsPlain) (hn : v ≠ .null) :
    parse? (ofAnalysis v).text = (Metadata.analysis? v).map ofAnalysis := by
  have hplain : ∀ w, (ofAnalysis v).metadata.analysis = some w → w.IsPlain := by
    rintro w ⟨⟩
    exact hv
  have hanalysis : (ofAnalysis v).metadata.analysis = some v := rfl
  rw [parse?_text_eq hplain, hanalysis, Json.asOptional?, Json.asOption?_of_ne hn, Option.map_map]
  rfl

/-- An object that begins with the key of embedded texts is not read back, although it is an analysis like any other.
By such an object an analysis can be read as `null`, and an alert with that changes when it is read and written
again. -/
theorem embedding_not_read_back :
    let v : Json := .record [(Json.embeddingKey, .int 5)]
    let a := Alert.ofAnalysis v
    let t := (Alert.ofAnalysis (.record [(Json.embeddingKey, .text "null")])).text
    let b := Alert.ofAnalysis .null
    (a.Typed ∧ a.Fits ∧ a.metadata.analysis ≠ some .null ∧ Alert.parse? a.text = none) ∧
      Alert.parse? t = some b ∧ b.Fits ∧ b.EmbedsNone ∧ Alert.format.rewrite? b.text ≠ some b.text := by
  intro v a t b
  constructor
  · have hmember {p : Json → Prop} (h : p (.int 5)) : ∀ m ∈ [(Json.embeddingKey, Json.int 5)], m.2.Everywhere p :=
      List.forall_mem_singleton.2 (.atom rfl h)
    have hkept : v.IsKept := Json.isKept_record.2 ⟨by decide, hmember (by decide)⟩
    have hreal : v.HasNoReal := .record trivial (hmember trivial)
    have hnone : Alert.Metadata.analysis? v = none := by
      rw [Alert.Metadata.analysis?, if_pos (by decide), Json.canonical?, Json.canonicalWith?]
      rfl
    refine ⟨?_, ?_, fun h => Json.noConfusion (Option.some.inj h), ?_⟩
    · rintro w ⟨⟩
      exact hkept
    · rintro w ⟨⟩
      exact ⟨hreal, by decide⟩
    · rw [Alert.parse?_ofAnalysis (hkept.isPlain hreal) Json.noConfusion, hnone]
      rfl
  · have hread : Alert.Metadata.analysis? (.record [(Json.embeddingKey, .text "null")]) = some .null := by
      have hnull : Json.parseText "null" = some .null := Json.parseText_render (v := .null) trivial
      rw [Alert.Metadata.analysis?, if_pos (by decide), Json.canonical?_embedding, hnull]
      rfl
    have hplain : (Json.record [(Json.embeddingKey, .text "null")]).IsPlain := ⟨trivial, trivial⟩
    have ht : Alert.parse? t = some b := by
      rw [Alert.parse?_ofAnalysis hplain Json.noConfusion, hread]
      rfl
    have hf : b.Fits := by
      rintro x ⟨⟩
      exact ⟨.atom rfl trivial, by decide⟩
    have he : b.EmbedsNone := by
      rintro x ⟨⟩
      exact .atom rfl trivial
    refine ⟨ht, hf, he, fun h => ?_⟩
    have hback : Alert.format.parse? b.text = some b.readBack :=
      (Alert.parse?_text_iff (Alert.typed_of_parse? ht) hf).2 he
    rw [Json.Format.rewrite?, hback, Option.map_some, Option.some.injEq] at h
    have hanalysis := Alert.analysis_eq_of_text_eq (by rintro x ⟨⟩) (by rintro x ⟨⟩; trivial) h
    cases hanalysis

end ContractWatch
