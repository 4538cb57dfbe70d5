import ContractWatch.Proofs.Monitor.Trace

/-!
What a node is asked. A delivery asks for a receipt at most, and for a code only where the receipt names a contract;
where hashes are remembered, none but the first delivery of a hash asks at all, so that no failure is tried again.
-/

namespace ContractWatch

/-- Nothing, or the question for the receipt of a hash, and possibly one for a code behind it. -/
def IsInquiry (h : TxHash) (qs : List Action) : Prop :=
  qs = [] ∨ qs = [.askReceipt h] ∨ ∃ a, qs = [.askReceipt h, .askCode a]

theorem Node.Places.unique {node : Node} {h : TxHash} {a b : Address} (ha : node.Places h a) (hb : node.Places h b) :
    a = b := by
  obtain ⟨r, hr, hra⟩ := ha
  obtain ⟨r', hr', hrb⟩ := hb
  obtain rfl : r = r' := Option.some.inj (Except.ok.inj (hr.symm.trans hr'))
  exact Option.some.inj (hra.contract.symm.trans hrb.contract)

@[simp] theorem Node.calls_askedReceipt (node : Node) (h : TxHash) :
    Action.calls (node.askedReceipt h) = [.askReceipt h] := by
  simp [askedReceipt, Action.calls_cons, Action.isCall]

@[simp] theorem Node.calls_askedCode (node : Node) (a : Address) :
    Action.calls (node.askedCode a) = [.askCode a] := by
  simp [askedCode, Action.calls_cons, Action.isCall]

namespace Monitor

open ContractWatch.Action (calls)

variable {m : Monitor} {node : Node} {tx : Transaction}

/-- The questions that a transaction gives rise to. -/
structure Asks (node : Node) (tx : Transaction) (qs : List Action) : Prop where
  inquiry : IsInquiry tx.hash qs
  receipt : .askReceipt tx.hash ∈ qs ↔ tx.isCreation = true
  code : ∀ a, .askCode a ∈ qs ↔ tx.isCreation = true ∧ node.Places tx.hash a

theorem asks_nothing (ht : ¬ tx.isCreation = true) : Asks node tx [] where
  inquiry := .inl rfl
  receipt := by simp [ht]
  code a := by simp [ht]

theorem asks_receipt (ht : tx.isCreation = true) (hn : ∀ a, ¬ node.Places tx.hash a) :
    Asks node tx [.askReceipt tx.hash] where
  inquiry := .inr (.inl rfl)
  receipt := by simp [ht]
  code a := by simp [hn]

theorem asks_code (ht : tx.isCreation = true) {a : Address} (ha : node.Places tx.hash a) :
    Asks node tx [.askReceipt tx.hash, .askCode a] where
  inquiry := .inr (.inr ⟨a, rfl⟩)
  receipt := by simp [ht]
  code b := by
    have heq : b = a ↔ node.Places tx.hash b := ⟨fun h => h ▸ ha, fun hb => hb.unique ha⟩
    simp [ht, heq]

theorem Course.asks {o : Outcome Deployment} (h : m.Course node tx o) : Asks node tx (calls o.actions) := by
  cases h with
  | transfer ht => exact asks_nothing ht
  | unplaced ht hn =>
    rw [Node.calls_askedReceipt]
    exact asks_receipt ht hn
  | codeless ht ha =>
    simp only [Action.calls_append, Node.calls_askedReceipt, Node.calls_askedCode]
    exact asks_code ht ha
  | undecoded ht ha =>
    simp only [Action.calls_append, Node.calls_askedReceipt, Node.calls_askedCode]
    exact asks_code ht ha
  | described ht ha =>
    simp only [Action.calls_append, Node.calls_askedReceipt, Node.calls_askedCode, Action.calls_cons, calls_describe]
    exact asks_code ht ha

variable {before : List Delivery} {d : Delivery}

theorem asks_of_admits (h : (m.after before).Admits d.tx.hash) :
    Asks d.node d.tx (calls (m.outcome before d).actions) := by
  rw [calls_outcome, analyze_of_admits d.now h]
  exact (course_survey m d.node d.tx).asks

theorem calls_of_not_admits (h : ¬ (m.after before).Admits d.tx.hash) : calls (m.outcome before d).actions = [] := by
  rw [calls_outcome, analyze_of_not_admits d.now h]
  rfl

theorem isInquiry_outcome (m : Monitor) (before : List Delivery) (d : Delivery) :
    IsInquiry d.tx.hash (calls (m.outcome before d).actions) := by
  by_cases h : (m.after before).Admits d.tx.hash
  · exact (asks_of_admits h).inquiry
  · exact .inl (calls_of_not_admits h)

theorem askReceipt_mem_iff (m : Monitor) (before : List Delivery) (d : Delivery) :
    .askReceipt d.tx.hash ∈ calls (m.outcome before d).actions ↔
      d.tx.isCreation = true ∧ (m.after before).Admits d.tx.hash := by
  by_cases h : (m.after before).Admits d.tx.hash
  · simp [(asks_of_admits h).receipt, h]
  · simp [calls_of_not_admits h, h]

theorem askCode_mem_iff (m : Monitor) (before : List Delivery) (d : Delivery) (a : Address) :
    .askCode a ∈ calls (m.outcome before d).actions ↔
      .askReceipt d.tx.hash ∈ calls (m.outcome before d).actions ∧ d.node.Places d.tx.hash a := by
  by_cases h : (m.after before).Admits d.tx.hash
  · rw [(asks_of_admits h).code, (asks_of_admits h).receipt]
  · simp [calls_of_not_admits h]

/-! ### Runs -/

/-- The questions that come of the deliveries of a hash in a run. -/
def questions (m : Monitor) (ds : List Delivery) (h : TxHash) : List Action :=
  (ds.zip (m.run ds m.start).1).flatMap fun x => if x.1.tx.hash = h then calls x.2.actions else []

theorem questions_concat (m : Monitor) (ds : List Delivery) (d : Delivery) (h : TxHash) :
    m.questions (ds ++ [d]) h =
      m.questions ds h ++ if d.tx.hash = h then calls (m.outcome ds d).actions else [] := by
  rw [questions, run_concat, List.zip_append (m.run_length ds m.start).symm, List.flatMap_append, questions]
  simp

theorem questions_of_not_mem {ds : List Delivery} {h : TxHash} (hn : h ∉ hashes ds) : m.questions ds h = [] := by
  induction ds using List.reverseRecOn with
  | nil => rfl
  | append_singleton ds d ih =>
    rw [hashes_concat, List.mem_append, not_or, List.mem_singleton] at hn
    rw [questions_concat, ih hn.1, if_neg (Ne.symm hn.2)]
    rfl

/-- Later deliveries of a hash add no question to those of the first one. -/
theorem questions_of_first (hm : m.settings.dedup = true) (h : d.tx.hash ∉ hashes before) (after : List Delivery) :
    m.questions (before ++ d :: after) d.tx.hash = calls (m.outcome before d).actions := by
  induction after using List.reverseRecOn with
  | nil => rw [questions_concat, questions_of_not_mem h, if_pos rfl, List.nil_append]
  | append_singleton after e ih =>
    rw [← List.cons_append, ← List.append_assoc, questions_concat, ih]
    split
    · rename_i he
      -- the hash is known by now, whatever came of its first delivery
      have hadm : ¬ (m.after (before ++ d :: after)).Admits e.tx.hash := by
        rw [after_admits, he]
        simp [hm, hashes]
      rw [calls_of_not_admits hadm, List.append_nil]
    · exact List.append_nil _

theorem isInquiry_questions (hm : m.settings.dedup = true) (ds : List Delivery) (h : TxHash) :
    IsInquiry h (m.questions ds h) := by
  by_cases hmem : h ∈ hashes ds
  · obtain ⟨hs, hs', heq, hnew⟩ := List.eq_append_cons_of_mem hmem
    obtain ⟨before, rest, rfl, rfl, hrest⟩ := List.map_eq_append_iff.1 heq
    obtain ⟨d, after, rfl, rfl, -⟩ := List.map_eq_cons_iff.1 hrest
    rw [questions_of_first hm hnew]
    exact isInquiry_outcome m before d
  · exact .inl (questions_of_not_mem hmem)

/-- A delivery asks for its receipt exactly if it may create a contract and, where hashes are remembered, is the first
of its hash; and for a code exactly if that receipt names the contract. All that the deliveries of a hash ask together
is then what the first one asks. -/
theorem node_asked (m : Monitor) :
    (∀ ds before d after, ds = before ++ d :: after →
      ∃ x, (m.run ds m.start).1[before.length]? = some x ∧
        IsInquiry d.tx.hash (calls x.actions) ∧
        (.askReceipt d.tx.hash ∈ calls x.actions ↔
          (d.tx.recipient = none ∨ d.tx.recipient = some .zero) ∧
            (m.settings.dedup = true → d.tx.hash ∉ hashes before)) ∧
        (∀ a, .askCode a ∈ calls x.actions ↔
          .askReceipt d.tx.hash ∈ calls x.actions ∧
            ∃ r, (d.node.receipt d.tx.hash).value = .ok (some r) ∧
              r.status = .success ∧ r.contract = some a ∧ a ≠ .zero) ∧
        (m.settings.dedup = true → d.tx.hash ∉ hashes before → m.questions ds d.tx.hash = calls x.actions)) ∧
    (m.settings.dedup = true → ∀ ds h, IsInquiry h (m.questions ds h)) := by
  refine ⟨?_, isInquiry_questions⟩
  rintro ds before d after rfl
  refine ⟨m.outcome before d, m.run_at before after d, isInquiry_outcome m before d, ?_, fun a => ?_,
    fun hm hnew => questions_of_first hm hnew after⟩
  · rw [askReceipt_mem_iff, Transaction.isCreation_iff, after_admits]
  · rw [askCode_mem_iff]
    refine and_congr_right fun _ => ⟨?_, ?_⟩
    · rintro ⟨r, hr, ha⟩
      exact ⟨r, hr, ha.success, ha.contract, ha.ne_zero⟩
    · rintro ⟨r, hr, hs, hc, hz⟩
      exact ⟨r, hr, hs, hc, hz⟩

/-- The node fails at first, and would know the receipt the second time. -/
theorem node_asked_once :
    let m : Monitor := { settings := {}, tables := ⟨.empty, .empty⟩ }
    let tx : Transaction := { hash := .zero, sender := .zero, recipient := none, block := none }
    let node : Node := .ofContract ⟨List.replicate 20 0xab, rfl⟩ [0x60, 0x01]
    let d : Delivery := ⟨tx, { node with receipt := fun _ => ⟨.error ⟨.timeout, ""⟩, []⟩ }, .epoch, none⟩
    m.questions [d, { d with node := node }] .zero = [.askReceipt .zero] ∧ IsInquiry .zero (m.questions [d, d] .zero) := by
  intro m tx node d
  obtain ⟨each, all⟩ := node_asked m
  obtain ⟨x, -, inquiry, receipt, code, first⟩ := each [d, { d with node := node }] [] d _ rfl
  have hnew : d.tx.hash ∉ hashes [] := List.not_mem_nil
  refine ⟨(first rfl hnew).trans ?_, all rfl _ _⟩
  obtain hnil | hreceipt | ⟨a, hcode⟩ := inquiry
  · have hasked := receipt.2 ⟨.inl rfl, fun _ => hnew⟩
    simp [hnil] at hasked
  · exact hreceipt
  · obtain ⟨-, r, hr, -⟩ := (code a).1 (by simp [hcode])
    contradiction

end Monitor

end ContractWatch
