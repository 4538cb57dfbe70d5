import ContractWatch.Proofs.Monitor.Messages
import ContractWatch.Proofs.Text.Lossy

/-!
The log as a notifier. Messages are read leniently, so that a message that spells a text is logged as this text, and the
text of an alert is logged as it is.
-/

namespace ContractWatch

/-- The record of a message that is shown as the given text. -/
def Notifier.entry (text : String) : Record where
  level := .info
  message := none
  fields := [("alert", text)]
  target := some "ethernity::alerts"

theorem Notifier.log_notify (bs : List UInt8) : Notifier.log.notify bs = ⟨.ok (), [entry (Utf8.lossy bs)]⟩ := rfl

theorem Notifier.log_notify_bytes (text : String) : Notifier.log.notify (Utf8.bytes text) = ⟨.ok (), [entry text]⟩ := by
  rw [log_notify, Utf8.lossy_bytes]

namespace Monitor

theorem tell_log (a : Alert) : tell .log a = [.notify (Utf8.bytes a.text), .log (Notifier.entry a.text)] := by
  simp [tell_eq, tellRecords, Notifier.log_notify_bytes]

theorem told_some (n : Notifier) (alert : Option Alert) : told (some n) alert = alert.toList.flatMap (tell n) := by
  cases alert with
  | none => rfl
  | some a => exact (List.flatMap_singleton _ _).symm

/-- The log shows the JSON text of an alert as it is, in one record behind all else that a delivery does, and the alert
is read back from it unless its analysis embeds a text. A message that spells a text is logged as this text, and any
other one as its characters in order with U+FFFD for each longest part between them; what was logged is logged again as
it is. -/
theorem log_lossless :
    (∀ a : Alert, tell .log a =
      [.notify (Utf8.bytes a.toJson.render), .log (Notifier.entry a.toJson.render)]) ∧
    (∀ a : Alert, a.Typed → a.Fits → (Alert.parse? a.toJson.render = some a.readBack ↔ a.EmbedsNone)) ∧
    (∀ (m : Monitor) (node : Node) (now : Instant) (tx : Transaction) (s : State),
      let processed := (m.process node .log now tx s).1
      processed.actions =
        (m.handle node now tx s).1.actions ++ processed.alert.toList.flatMap (tell .log)) ∧
    (∀ text, Notifier.log.notify (Utf8.bytes text) = ⟨.ok (), [Notifier.entry text]⟩) ∧
    ∀ bs, ∃ text, Notifier.log.notify bs = ⟨.ok (), [Notifier.entry text]⟩ ∧
      (∀ cs, Utf8.Shown bs cs ↔ cs = text.toList) ∧
      Notifier.log.notify (Utf8.bytes text) = Notifier.log.notify bs := by
  refine ⟨tell_log, fun a => Alert.parse?_text_iff, fun m node now tx s => ?_, Notifier.log_notify_bytes, fun bs => ?_⟩
  · rw [process_eq, deliver_eq]
    simp only [told_some]
  · refine ⟨Utf8.lossy bs, Notifier.log_notify bs, Utf8.shown_iff bs, ?_⟩
    rw [Notifier.log_notify_bytes, Notifier.log_notify]

/-- The alert of a contract with a signature of letters beyond ASCII, and a message with a byte that begins no
character. -/
theorem log_lossless_accents :
    let a : Alert := .of .zero { contract := .zero, functions := ⟨[⟨"größe(address)", "a9059cbb"⟩], []⟩ } .epoch 0
    (∃ text, tell .log a = [.notify (Utf8.bytes text), .log (Notifier.entry text)] ∧ Alert.parse? text = some a) ∧
    Notifier.log.notify [0x41, 0xff, 0xc3, 0xb6] = ⟨.ok (), [Notifier.entry "A\ufffdö"]⟩ ∧
    Utf8.Shown [0x41, 0xff, 0xc3, 0xb6] ['A', Utf8.replacement, 'ö'] := by
  intro a
  obtain ⟨logged, read, -, -, shown⟩ := log_lossless
  obtain ⟨ht, hf, he, hback⟩ := Alert.plain_of_analysis_eq_none (rfl : a.metadata.analysis = none)
  have hread := (read a ht hf).2 he
  rw [hback] at hread
  have hlogged : Notifier.log.notify [0x41, 0xff, 0xc3, 0xb6] = ⟨.ok (), [Notifier.entry "A\ufffdö"]⟩ := by
    have hlossy : Utf8.lossy [0x41, 0xff, 0xc3, 0xb6] = "A\ufffdö" := by decide +kernel
    rw [Notifier.log_notify, hlossy]
  obtain ⟨text, htext, hshown, -⟩ := shown [0x41, 0xff, 0xc3, 0xb6]
  rw [hlogged] at htext
  obtain rfl : "A\ufffdö" = text := by simpa [Notifier.entry] using htext
  exact ⟨⟨a.toJson.render, logged a, hread⟩, hlogged, (hshown _).2 rfl⟩

end Monitor

end ContractWatch
