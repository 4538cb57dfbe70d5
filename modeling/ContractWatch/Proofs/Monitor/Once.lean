import ContractWatch.Proofs.Monitor.Delivery

/-!
A hash is handled once. Whatever the first delivery of a hash comes to, an alert or nothing, the hash is remembered,
and a later delivery of it does no more than write that down.
-/

namespace ContractWatch.Monitor

variable {m : Monitor} {node : Node} {tx : Transaction} {s : State}

/-- Only for admission the hash matters: no later stage takes a transaction for a processed one. -/
theorem analyze_alreadyProcessed_iff (now : Instant) :
    (m.analyze node now tx s).1.result = .error .alreadyProcessed ↔ ¬ s.Admits tx.hash := by
  constructor
  · intro h hadm
    obtain ⟨contract, code, is, hd⟩ | ⟨k, x, hf⟩ := deploys_or_failsFirst m node tx s
    · rw [analyze_result_of_deploys now hd] at h
      contradiction
    · rw [analyze_result_of_failsFirst now hf] at h
      cases h
      cases hf.1 with
      | admission hs hh => exact absurd (hadm _ hs) (by simp [hh])
  · exact analyze_result_of_not_admits now

theorem deliver_of_not_admits {d : Delivery} (h : ¬ s.Admits d.tx.hash) :
    m.deliver d s = (⟨none, [.log (SkipReason.alreadyProcessed.record d.tx.hash)]⟩, s) := by
  rw [deliver_eq, handle_eq, analyze_of_not_admits d.now h]
  cases d.notifier <;> rfl

theorem transaction_of_ending {before : List Delivery} {d : Delivery} {a : Alert} (h : m.ending before d = .ok a) :
    a.metadata.transaction = d.tx.hash := by
  obtain ⟨contract, code, is, -, rfl⟩ := deploys_of_analyze_ok h
  rfl

theorem mem_hashes_iff (hm : m.settings.dedup = true) (before : List Delivery) (h : TxHash) :
    h ∈ hashes before ↔ ¬ (m.after before).Admits h := by
  simp [after_admits, hm]

theorem not_mem_hashes_of_ending (hm : m.settings.dedup = true) {before : List Delivery} {d : Delivery} {a : Alert}
    (h : m.ending before d = .ok a) : d.tx.hash ∉ hashes before := by
  intro hmem
  have hskip : m.ending before d = .error .alreadyProcessed :=
    (analyze_alreadyProcessed_iff d.now).2 ((mem_hashes_iff hm before d.tx.hash).1 hmem)
  rw [h] at hskip
  contradiction

/-- The alerts of a run name delivered hashes, no hash twice. -/
theorem alerts_of_run (hm : m.settings.dedup = true) (ds : List Delivery) :
    ((alerts (m.run ds m.start).1).map fun a => a.metadata.transaction).Nodup ∧
      ∀ a ∈ alerts (m.run ds m.start).1, a.metadata.transaction ∈ hashes ds := by
  induction ds using List.reverseRecOn with
  | nil => exact ⟨List.nodup_nil, fun a ha => by contradiction⟩
  | append_singleton ds d ih =>
    obtain ⟨hnodup, hmem⟩ := ih
    rw [alerts_concat, hashes_concat]
    cases hend : m.ending ds d with
    | error x =>
      simp only [Except.toOption, Option.toList_none, List.append_nil]
      exact ⟨hnodup, fun a ha => List.mem_append_left _ (hmem a ha)⟩
    | ok a =>
      have ha := transaction_of_ending hend
      simp only [Except.toOption, Option.toList_some, List.map_append, List.map_singleton, ha]
      constructor
      · refine List.nodup_append.2 ⟨hnodup, List.nodup_singleton _, fun h hh h' hh' => ?_⟩
        obtain ⟨b, hb, rfl⟩ := List.mem_map.1 hh
        rw [List.mem_singleton.1 hh']
        exact fun he => not_mem_hashes_of_ending hm hend (he ▸ hmem b hb)
      · intro b hb
        obtain hb | hb := List.mem_append.1 hb
        · exact List.mem_append_left _ (hmem b hb)
        · rw [List.mem_singleton.1 hb, ha]
          exact List.mem_append_right _ List.mem_cons_self

/-- A delivery is skipped as processed exactly if its hash was delivered before, and then it does nothing but log
this, whatever decoder and analyzer there are to be asked. So no hash has two alerts, and an alert comes with the
first delivery only; remembered in the end are the delivered hashes, each one once and with its flag up. -/
theorem handled_once (m : Monitor) (hm : m.settings.dedup = true) (ds : List Delivery) :
    (∀ before d after, ds = before ++ d :: after →
      (m.run ds m.start).1[before.length]? = some (m.outcome before d) ∧
      (d.tx.hash ∈ hashes before ↔ m.ending before d = .error .alreadyProcessed) ∧
      (d.tx.hash ∈ hashes before → ∀ m' : Monitor,
        m'.deliver d (m.after before) =
          (⟨none, [.log (SkipReason.alreadyProcessed.record d.tx.hash)]⟩, m.after before)) ∧
      (∀ a, (m.outcome before d).alert = some a →
        d.tx.hash ∉ hashes before ∧ a.metadata.transaction = d.tx.hash)) ∧
    ((alerts (m.run ds m.start).1).map fun a => a.metadata.transaction).Nodup ∧
    (m.run ds m.start).2.seen = some ⟨(hashes ds).eraseDups.map fun h => (h, true)⟩ := by
  refine ⟨?_, (alerts_of_run hm ds).1, ?_⟩
  · rintro before d after rfl
    refine ⟨m.run_at before after d, ?_, fun h m' => ?_, fun a ha => ?_⟩
    · rw [mem_hashes_iff hm]
      exact (analyze_alreadyProcessed_iff d.now).symm
    · exact deliver_of_not_admits ((mem_hashes_iff hm before d.tx.hash).1 h)
    · rw [outcome_alert] at ha
      cases hend : m.ending before d with
      | error x =>
        rw [hend] at ha
        contradiction
      | ok b =>
        rw [hend] at ha
        cases ha
        exact ⟨not_mem_hashes_of_ending hm hend, transaction_of_ending hend⟩
  · have hseen := after_seen m ds
    rwa [if_pos hm] at hseen

/-- A second delivery of a hash, with another block and a notifier. -/
theorem handled_once_twice :
    let m : Monitor := { settings := {}, tables := ⟨.empty, .empty⟩ }
    let tx : Transaction := { hash := .zero, sender := .zero, recipient := none, block := none }
    let node : Node := .ofContract ⟨List.replicate 20 0xab, rfl⟩ [0x60, 0x01]
    let ds : List Delivery :=
      [⟨tx, node, .epoch, none⟩, ⟨{ tx with block := some 7 }, node, .epoch, some .log⟩]
    (m.run ds m.start).1[1]? = some ⟨none, [.log (SkipReason.alreadyProcessed.record .zero)]⟩ ∧
      (m.run ds m.start).2.seen = some ⟨[(.zero, true)]⟩ := by
  intro m tx node ds
  obtain ⟨each, -, hseen⟩ := handled_once m rfl ds
  obtain ⟨hat, -, hskip, -⟩ := each [⟨tx, node, .epoch, none⟩] _ [] rfl
  refine ⟨hat.trans (congrArg some ?_), hseen.trans (by decide)⟩
  rw [outcome, hskip (by decide) m]

end ContractWatch.Monitor
