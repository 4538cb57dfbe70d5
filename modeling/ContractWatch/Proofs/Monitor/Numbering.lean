import ContractWatch.Proofs.Chain.Address
import ContractWatch.Proofs.Monitor.Delivery
import ContractWatch.Proofs.Text.Decimal
import ContractWatch.Proofs.Text.Split

/-!
The numbers of alerts. Alerts are counted as they are made and nothing else is, so that the number at the end of an id
is the place of its alert in the run; it alone keeps ids apart, whatever the clock says.
-/

namespace ContractWatch

namespace Alert

/-- The second part of the id is what the description names the contract by: the first four bytes of its address, in
letters of either case. -/
structure Badged (a : Alert) (badge : List Char) : Prop where
  parts : ∃ rest, Text.splitOn '-' a.id.toList = ['C', 'D'] :: badge :: rest
  description : a.description = "Contract deconstruct 0x" ++ String.ofList badge
  length : badge.length = 8
  address : badge.map Char.toLower = Hex.encode (a.metadata.contract.bytes.take 4)

variable (tx : TxHash) (d : Deployment) (now : Instant) (n : UInt64)

theorem badged_of : (of tx d now n).Badged (badge d.contract) := by
  have hlower : (badge d.contract).map Char.toLower = Hex.encode (d.contract.bytes.take 4) := by
    rw [badge, List.map_take, Address.toLower_checksum]
    exact Hex.take_encode 4 d.contract.bytes
  refine ⟨?_, ?_, ?_, hlower⟩
  · have hcd : '-' ∉ ['C', 'D'] := by decide
    have hbadge : '-' ∉ badge d.contract := fun h => Address.hyphen_not_mem_checksum _ (List.mem_of_mem_take h)
    rw [of, idOf, String.toList_ofList]
    exact ⟨_, (Text.splitOn_append hcd _).trans (congrArg _ (Text.splitOn_append hbadge _))⟩
  · apply String.toList_injective
    simp [of, title]
  · rw [← List.length_map Char.toLower, hlower, Hex.length_encode]
    simp [d.contract.length_eq]

/-- The id without the number at its end. -/
def stem (contract : Address) (now : Instant) : List Char :=
  'C' :: 'D' :: '-' :: (badge contract ++ '-' :: Decimal.intDigits now.millis)

theorem toList_id_of : (of tx d now n).id.toList = stem d.contract now ++ '-' :: Decimal.digits n.toNat := by
  simp [of, idOf, stem]

theorem hyphen_not_mem_digits (k : Nat) : '-' ∉ Decimal.digits k := fun h =>
  absurd (Decimal.isDigit_of_mem_digits h) (by decide)

/-- Whatever is in front of them, numbers at the end of equal ids are equal. -/
theorem number_eq_of_id_eq {tx tx' : TxHash} {d d' : Deployment} {now now' : Instant} {n n' : UInt64}
    (h : (of tx d now n).id = (of tx' d' now' n').id) : n = n' := by
  have hid := congrArg String.toList h
  rw [toList_id_of, toList_id_of] at hid
  have hdigits := Text.eq_of_append_cons (hyphen_not_mem_digits _) (hyphen_not_mem_digits _) hid
  have hvalue := congrArg Decimal.value hdigits
  rw [Decimal.value_digits, Decimal.value_digits] at hvalue
  exact UInt64.toNat_inj.1 hvalue

end Alert

namespace Monitor

variable {m : Monitor}

/-- A delivery that ends with an alert takes the next number, and any other one leaves it. -/
theorem number_concat (ds : List Delivery) (d : Delivery) :
    (m.after (ds ++ [d])).series.number =
      (m.after ds).series.number + UInt64.ofNat (m.ending ds d).toOption.toList.length ∧
    ∀ a, m.ending ds d = .ok a →
      ∃ x, a = Alert.of d.tx.hash x d.now (m.after ds).series.number := by
  rw [after_concat, deliver_state, ending]
  by_cases h : (m.after ds).Admits d.tx.hash
  · rw [analyze_of_admits d.now h]
    cases (m.survey d.node d.tx).result with
    | error x => exact ⟨(UInt64.add_zero _).symm, fun a ha => by contradiction⟩
    | ok x => exact ⟨rfl, fun a ha => ⟨x, (Except.ok.inj ha).symm⟩⟩
  · rw [analyze_of_not_admits d.now h]
    exact ⟨(UInt64.add_zero _).symm, fun a ha => by contradiction⟩

theorem number_after (ds : List Delivery) :
    (m.after ds).series.number = UInt64.ofNat (alerts (m.run ds m.start).1).length := by
  induction ds using List.reverseRecOn with
  | nil => rfl
  | append_singleton ds d ih =>
    rw [(number_concat ds d).1, ih, alerts_concat, List.length_append, UInt64.ofNat_add]

/-- The alerts of a run carry the numbers from zero on, in order. -/
theorem alert_at {ds : List Delivery} {k : Nat} {a : Alert} (h : (alerts (m.run ds m.start).1)[k]? = some a) :
    ∃ tx x now, a = Alert.of tx x now (UInt64.ofNat k) := by
  induction ds using List.reverseRecOn with
  | nil => simp [run, alerts] at h
  | append_singleton ds d ih =>
    rw [alerts_concat] at h
    by_cases hk : k < (alerts (m.run ds m.start).1).length
    · rw [List.getElem?_append_left hk] at h
      exact ih h
    · rw [List.getElem?_append_right (Nat.not_lt.1 hk)] at h
      cases hend : m.ending ds d with
      | error x => simp [hend, Except.toOption] at h
      | ok b =>
        obtain ⟨hzero, rfl⟩ : k - (alerts (m.run ds m.start).1).length = 0 ∧ b = a := by
          simpa [hend, Except.toOption, List.getElem?_singleton] using h
        obtain ⟨x, hx⟩ := (number_concat ds d).2 b hend
        rw [number_after] at hx
        obtain rfl : k = (alerts (m.run ds m.start).1).length := by omega
        exact ⟨_, x, _, hx⟩

/-- The ids of a run end with the places of their alerts, so that two of them differ unless 2^64 alerts or more lie
between; and the second part of every id names the contract as the description does. -/
theorem ids_of_run (m : Monitor) (ds : List Delivery) :
    (∀ k a, (alerts (m.run ds m.start).1)[k]? = some a →
      '-' :: Decimal.digits (k % 0x10000000000000000) <:+ a.id.toList ∧ ∃ badge, a.Badged badge) ∧
    (∀ j k a b, (alerts (m.run ds m.start).1)[j]? = some a → (alerts (m.run ds m.start).1)[k]? = some b →
      j < k → k < j + 0x10000000000000000 → a.id ≠ b.id) ∧
    ∀ tx d now n, ∃ badge, (Alert.of tx d now n).Badged badge := by
  refine ⟨fun k a ha => ?_, fun j k a b ha hb hjk hk hid => ?_, fun tx d now n => ⟨_, Alert.badged_of tx d now n⟩⟩
  · obtain ⟨tx, x, now, rfl⟩ := alert_at ha
    refine ⟨⟨Alert.stem x.contract now, ?_⟩, _, Alert.badged_of tx x now _⟩
    rw [Alert.toList_id_of, UInt64.toNat_ofNat']
  · obtain ⟨tx, x, now, rfl⟩ := alert_at ha
    obtain ⟨tx', x', now', rfl⟩ := alert_at hb
    have hnumber := congrArg UInt64.toNat (Alert.number_eq_of_id_eq hid)
    rw [UInt64.toNat_ofNat', UInt64.toNat_ofNat'] at hnumber
    omega

/-- Two alerts of one moment for one contract, with a transfer between them. -/
theorem ids_of_run_transfer :
    let m : Monitor := { settings := { dedup := false }, tables := ⟨.empty, .empty⟩ }
    let tx : Transaction := { hash := .zero, sender := .zero, recipient := none, block := none }
    let node : Node := .ofContract ⟨List.replicate 20 0xab, rfl⟩ [0x60, 0x01]
    let d : Delivery := ⟨tx, node, .epoch, none⟩
    let e : Delivery := ⟨{ tx with recipient := some ⟨List.replicate 20 0x02, rfl⟩ }, node, .epoch, none⟩
    ∃ a b, alerts (m.run [d, e, d] m.start).1 = [a, b] ∧ a.id ≠ b.id ∧ ['-', '1'] <:+ b.id.toList := by
  intro m tx node d e
  have hadm (before : List Delivery) : (m.after before).Admits .zero :=
    (after_admits m before .zero).2 fun h => by cases h
  have hd (before : List Delivery) : ∃ a, m.ending before d = .ok a :=
    ⟨_, analyze_result_of_deploys .epoch (deploys_of_node (hadm before) rfl (by decide) (by decide) rfl)⟩
  have he : m.ending [d] e = .error .notCreation := by
    rw [ending, analyze_result_of_admits .epoch (hadm [d])]
    rfl
  obtain ⟨a, ha⟩ := hd []
  obtain ⟨b, hb⟩ := hd [d, e]
  have h1 : alerts (m.run [d] m.start).1 = [a] := (alerts_concat m [] d).trans (by rw [ha]; rfl)
  have h2 : alerts (m.run [d, e] m.start).1 = [a] := (alerts_concat m [d] e).trans (by rw [he, h1]; rfl)
  have h3 : alerts (m.run [d, e, d] m.start).1 = [a, b] := (alerts_concat m [d, e] d).trans (by rw [hb, h2]; rfl)
  obtain ⟨place, differ, -⟩ := ids_of_run m [d, e, d]
  rw [h3] at place differ
  exact ⟨a, b, h3, differ 0 1 a b rfl rfl (by decide) (by decide), (place 1 b rfl).1⟩

end Monitor

end ContractWatch
