import Mathlib.Data.List.Forall2
import ContractWatch.Node.Client

/-!
What a client makes of its node. Over either transport a question is one wait for one reply. It ends in a timeout if
nothing comes in time, in an error of the node if a failure does or a result that cannot be read, and in an answer else.
-/

namespace ContractWatch

namespace TxStatus

theorem ofWord?_eq_iff (word : Option UInt64) (x : TxStatus) :
    ofWord? word = x ↔
      (x = .success ↔ word = some 1) ∧ (x = .unknown ↔ word = none) ∧ (x = .failure ↔ ∃ w, word = some w ∧ w ≠ 1) := by
  cases word with
  | none => cases x <;> simp [ofWord?]
  | some w =>
    by_cases hw : w = 1
    · cases x <;> simp [ofWord?, hw]
    · cases x <;> simp [ofWord?, hw]

end TxStatus

/-- The receipt is what a result tells of it: hash and contract as they are, and by its word the status. -/
structure Receipt.IsToldBy (r : Receipt) (t : Transcript) : Prop where
  hash : r.hash = t.hash
  success : r.status = .success ↔ t.status = some 1
  unknown : r.status = .unknown ↔ t.status = none
  failure : r.status = .failure ↔ ∃ w, t.status = some w ∧ w ≠ 1
  contract : r.contract = t.contract

theorem Transcript.receipt_eq_iff (t : Transcript) (r : Receipt) : t.receipt = r ↔ r.IsToldBy t := by
  constructor
  · rintro rfl
    obtain ⟨success, unknown, failure⟩ := (TxStatus.ofWord?_eq_iff t.status _).1 rfl
    exact ⟨rfl, success, unknown, failure, rfl⟩
  · rintro ⟨hhash, success, unknown, failure, hcontract⟩
    obtain ⟨hash, status, contract⟩ := r
    obtain rfl : hash = t.hash := hhash
    obtain rfl : contract = t.contract := hcontract
    rw [receipt, (TxStatus.ofWord?_eq_iff t.status status).2 ⟨success, unknown, failure⟩]

namespace Client

variable {c : Client}

/-! ### Waiting -/

section Await

variable {α : Type}

/-- The ways that a wait can end. -/
inductive Awaits (c : Client) (what : String) : Option (Arrival (Option α)) → Except Failure α → Prop
  | late {x} : (∀ y, x = some y → c.timeout ≤ y.after) → Awaits c what x (.error (c.late what))
  | failed {ms} : ms < c.timeout → Awaits c what (some ⟨none, ms⟩) (.error (failed what))
  | answered {a ms} : ms < c.timeout → Awaits c what (some ⟨some a, ms⟩) (.ok a)

theorem awaits_await (c : Client) (what : String) (x : Option (Arrival (Option α))) :
    Awaits c what x (c.await what x) := by
  unfold await
  split
  · rename_i y
    split
    · rename_i hlt
      obtain ⟨_ | a, ms⟩ := y
      · exact .failed hlt
      · exact .answered hlt
    · rename_i hle
      exact .late fun y' hy => by
        obtain rfl := Option.some.inj hy
        exact Nat.le_of_not_lt hle
  · exact .late fun y hy => by contradiction

variable {what : String} {x : Option (Arrival (Option α))} {r : Except Failure α}

theorem Awaits.kind {e : Failure} (h : Awaits c what x (.error e)) : e.kind = .rpc ∨ e.kind = .timeout := by
  cases h with
  | late hx => exact .inr rfl
  | failed hlt => exact .inl rfl

/-- Only where nothing came in time is there a timeout. -/
theorem Awaits.timeout_iff (h : Awaits c what x r) :
    (∃ e, r = .error e ∧ e.kind = .timeout) ↔ ¬ ∃ y, x = some y ∧ y.after < c.timeout := by
  cases h with
  | late hx =>
    refine ⟨fun _ => ?_, fun _ => ⟨_, rfl, rfl⟩⟩
    rintro ⟨y, hy, hlt⟩
    exact absurd (hx y hy) (Nat.not_le_of_lt hlt)
  | failed hlt => exact ⟨fun ⟨e, he, hk⟩ => by cases he; contradiction, fun hn => absurd ⟨_, rfl, hlt⟩ hn⟩
  | answered hlt => exact ⟨fun ⟨e, he, _⟩ => by contradiction, fun hn => absurd ⟨_, rfl, hlt⟩ hn⟩

theorem Awaits.eq_ok_iff (h : Awaits c what x r) (a : α) : r = .ok a ↔ ∃ ms < c.timeout, x = some ⟨some a, ms⟩ := by
  cases h with
  | late hx =>
    refine ⟨fun he => by contradiction, ?_⟩
    rintro ⟨ms, hlt, rfl⟩
    exact absurd (hx _ rfl) (Nat.not_le_of_lt hlt)
  | failed hlt => simp
  | @answered b ms hlt =>
    simp only [Except.ok.injEq, Option.some.injEq, Arrival.mk.injEq]
    exact ⟨fun he => ⟨ms, hlt, he, rfl⟩, fun ⟨_, _, he, _⟩ => he⟩

/-- What is made of an answer does not change how the wait for it ends. -/
theorem Awaits.map {β : Type} (h : Awaits c what x r) (f : α → β) :
    Awaits c what (x.map (Arrival.map (Option.map f))) (r.map f) := by
  cases h with
  | late hx =>
    refine .late fun y hy => ?_
    obtain ⟨z, hz, rfl⟩ := Option.map_eq_some_iff.1 hy
    exact hx z hz
  | failed hlt => exact .failed hlt
  | answered hlt => exact .answered hlt

end Await

end Client

/-! ### Questions -/

/-- What a client can answer. -/
inductive Told
  | receipt (r : Option Receipt)
  | code (bs : List UInt8)
  | blockNumber (n : UInt64)

/-- What a result tells about a question. -/
def Question.read (p : Protocol) : Question → Json → Option Told
  | .receipt _, v => (p.receipt? v).map fun t => .receipt (t.map Transcript.receipt)
  | .code _, v => (p.code? v).map .code
  | .blockNumber, v => (p.number? v).map .blockNumber

theorem Reply.map_read? {α β : Type} (read : Json → Option α) (f : α → β) (x : Reply) :
    (x.read? read).map f = x.read? fun v => (read v).map f := by
  cases x with
  | result v => rfl
  | failure => rfl

namespace Client

variable {p : Protocol} {c : Client} {wire : Wire} {q : Question}

def tell (c : Client) (p : Protocol) (wire : Wire) : Question → Except Failure Told
  | .receipt h => (c.receipt p wire h).value.map .receipt
  | .code a => (c.code p wire a).map .code
  | .blockNumber => (c.blockNumber p wire).map .blockNumber

theorem tell_receipt (c : Client) (p : Protocol) (wire : Wire) (h : TxHash) :
    c.tell p wire (.receipt h) =
      (c.ask wire (.receipt h) p.receipt?).map fun t => .receipt (t.map Transcript.receipt) := by
  rw [tell, receipt]
  split <;> simp [*, Except.map]

theorem awaits_ask {α : Type} (c : Client) (wire : Wire) (q : Question) (read : Json → Option α) (f : α → Told) :
    Awaits c q.topic ((wire.answer c.transport q).map (Arrival.map (Reply.read? fun v => (read v).map f)))
      ((c.ask wire q read).map f) := by
  have h := (awaits_await c q.topic ((wire.answer c.transport q).map (Arrival.map (Reply.read? read)))).map f
  rw [Option.map_map] at h
  have heq : Arrival.map (Reply.read? fun v => (read v).map f) =
      Arrival.map (Option.map f) ∘ Arrival.map (Reply.read? read) := by
    funext x
    exact congrArg (Arrival.mk · x.after) (x.value.map_read? read f).symm
  rw [heq]
  exact h

/-- All three calls are the same wait, over either transport. -/
theorem awaits_tell (c : Client) (p : Protocol) (wire : Wire) (q : Question) :
    Awaits c q.topic ((wire.answer c.transport q).map (Arrival.map (Reply.read? (q.read p)))) (c.tell p wire q) := by
  cases q with
  | receipt h =>
    rw [tell_receipt]
    exact awaits_ask c wire _ _ _
  | code a => exact awaits_ask c wire _ _ _
  | blockNumber => exact awaits_ask c wire _ _ _

/-- The result that comes back in time. -/
def Receives (c : Client) (wire : Wire) (q : Question) (v : Json) : Prop :=
  ∃ ms < c.timeout, wire.answer c.transport q = some ⟨.result v, ms⟩

/-- Something comes back in time, be it a failure. -/
def Hears (c : Client) (wire : Wire) (q : Question) : Prop :=
  ∃ x, wire.answer c.transport q = some x ∧ x.after < c.timeout

theorem Receives.unique {v v' : Json} (h : c.Receives wire q v) (h' : c.Receives wire q v') : v = v' := by
  obtain ⟨ms, -, hv⟩ := h
  obtain ⟨ms', -, hv'⟩ := h'
  rw [hv, Option.some.injEq, Arrival.mk.injEq, Reply.result.injEq] at hv'
  exact hv'.1

theorem tell_eq_ok_iff (c : Client) (p : Protocol) (wire : Wire) (q : Question) (t : Told) :
    c.tell p wire q = .ok t ↔ ∃ v, c.Receives wire q v ∧ q.read p v = some t := by
  rw [(awaits_tell c p wire q).eq_ok_iff]
  constructor
  · rintro ⟨ms, hlt, hx⟩
    obtain ⟨⟨reply, ms'⟩, harrival, heq⟩ := Option.map_eq_some_iff.1 hx
    obtain ⟨hvalue, rfl⟩ := (Arrival.mk.injEq ..).mp heq
    cases reply with
    | result v => exact ⟨v, ⟨ms', hlt, harrival⟩, hvalue⟩
    | failure => contradiction
  · rintro ⟨v, ⟨ms, hlt, harrival⟩, hread⟩
    refine ⟨ms, hlt, ?_⟩
    rw [harrival, Option.map_some, Arrival.map, Reply.read?, hread]

theorem receipt_eq_ok_iff (c : Client) (p : Protocol) (wire : Wire) (h : TxHash) (r : Option Receipt) :
    (c.receipt p wire h).value = .ok r ↔
      ∃ v t, c.Receives wire (.receipt h) v ∧ p.receipt? v = some t ∧ t.map Transcript.receipt = r := by
  have htell : (c.receipt p wire h).value = .ok r ↔ c.tell p wire (.receipt h) = .ok (.receipt r) := by
    rw [tell]
    cases (c.receipt p wire h).value <;> simp [Except.map]
  rw [htell, tell_eq_ok_iff]
  simp [Question.read]

/-- How an answer comes of a question. -/
structure Ends (c : Client) (p : Protocol) (wire : Wire) (q : Question) (answer : Except Failure Told) : Prop where
  kind : ∀ e, answer = .error e → e.kind = .rpc ∨ e.kind = .timeout
  timeout : (∃ e, answer = .error e ∧ e.kind = .timeout) ↔ ¬ c.Hears wire q
  told : ∀ t, answer = .ok t ↔ ∃ v, c.Receives wire q v ∧ q.read p v = some t
  receipt : ∀ h v, q = .receipt h → c.Receives wire q v →
    (answer = .ok (.receipt none) ↔ v = .null) ∧
    ∀ r, answer = .ok (.receipt (some r)) ↔ ∃ t, p.receipt? v = some (some t) ∧ r.IsToldBy t

theorem kind_of_tell {e : Failure} (h : c.tell p wire q = .error e) : e.kind = .rpc ∨ e.kind = .timeout :=
  (h ▸ awaits_tell c p wire q).kind

theorem tell_timeout_iff (c : Client) (p : Protocol) (wire : Wire) (q : Question) :
    (∃ e, c.tell p wire q = .error e ∧ e.kind = .timeout) ↔ ¬ c.Hears wire q := by
  rw [(awaits_tell c p wire q).timeout_iff]
  refine not_congr ?_
  simp [Hears, Option.map_eq_some_iff, Arrival.map]

theorem ends_tell (hp : p.Lawful) (c : Client) (wire : Wire) (q : Question) : c.Ends p wire q (c.tell p wire q) where
  kind _ := kind_of_tell
  timeout := tell_timeout_iff c p wire q
  told := tell_eq_ok_iff c p wire q
  receipt := by
    rintro h v rfl hv
    have hread (t : Told) : c.tell p wire (.receipt h) = .ok t ↔ (Question.receipt h).read p v = some t := by
      rw [tell_eq_ok_iff]
      constructor
      · rintro ⟨v', hv', hread⟩
        obtain rfl := hv.unique hv'
        exact hread
      · exact fun hread => ⟨v, hv, hread⟩
    constructor
    · rw [hread, ← hp.receipt?_eq_none_iff]
      simp [Question.read]
    · intro r
      rw [hread]
      simp [Question.read, Transcript.receipt_eq_iff]

/-! ### Sessions -/

theorem dial_http (h : c.transport = .http) (p : Protocol) (wire : Wire) :
    c.dial p wire = if p.isEndpoint c.endpoint then .ok () else .error ⟨.rpc, "Falha ao conectar via HTTP"⟩ := by
  rw [dial, h]

theorem awaits_dial (h : c.transport = .webSocket) (p : Protocol) (wire : Wire) :
    Awaits c "conexão WebSocket" (wire.opening.map (Arrival.map fun taken => if taken then some () else none))
      (c.dial p wire) := by
  rw [dial, h]
  exact awaits_await c _ _

theorem kind_of_dial {e : Failure} (h : c.dial p wire = .error e) : e.kind = .rpc ∨ e.kind = .timeout := by
  cases ht : c.transport with
  | http =>
    rw [dial_http ht] at h
    split at h
    · contradiction
    · cases h
      exact .inl rfl
  | webSocket => exact (h ▸ awaits_dial ht p wire).kind

theorem dial_timeout_iff (c : Client) (p : Protocol) (wire : Wire) :
    (∃ e, c.dial p wire = .error e ∧ e.kind = .timeout) ↔
      c.transport = .webSocket ∧ ¬ ∃ x, wire.opening = some x ∧ x.after < c.timeout := by
  cases ht : c.transport with
  | http =>
    rw [dial_http ht]
    split <;> simp
  | webSocket =>
    rw [(awaits_dial ht p wire).timeout_iff]
    simp [Option.map_eq_some_iff, Arrival.map]

theorem connect_of_dial {u : Unit} (h : c.dial p wire = .ok u) :
    c.connect p wire = (c.blockNumber p wire).map fun _ => c := by
  rw [connect, h]

theorem connect_of_not_dial {e : Failure} (h : c.dial p wire = .error e) : c.connect p wire = .error e := by
  rw [connect, h]

/-- A client that was made has been told the number of a block. -/
theorem blockNumber_of_connect {c' : Client} (h : c.connect p wire = .ok c') :
    c' = c ∧ ∃ n, c.blockNumber p wire = .ok n := by
  cases hd : c.dial p wire with
  | error e =>
    rw [connect_of_not_dial hd] at h
    contradiction
  | ok u =>
    rw [connect_of_dial hd] at h
    cases hn : c.blockNumber p wire with
    | error e =>
      rw [hn] at h
      contradiction
    | ok n =>
      rw [hn] at h
      exact ⟨(Except.ok.inj h).symm, n, rfl⟩

/-- Without a client there was an error on the way to it, or there was one instead of the number of a block. -/
theorem connect_eq_error_iff (c : Client) (p : Protocol) (wire : Wire) (e : Failure) :
    c.connect p wire = .error e ↔
      c.dial p wire = .error e ∨ (∃ u, c.dial p wire = .ok u) ∧ c.tell p wire .blockNumber = .error e := by
  cases hd : c.dial p wire with
  | error e' => simp [connect_of_not_dial hd]
  | ok u =>
    rw [connect_of_dial hd, tell]
    cases c.blockNumber p wire <;> simp [Except.map]

/-- A client is made over one wire and then asked over others. -/
def session (c : Client) (p : Protocol) (opening : Wire) (calls : List (Question × Wire)) :
    Except Failure (List (Except Failure Told)) :=
  (c.connect p opening).map fun c => calls.map fun call => c.tell p call.2 call.1

variable {opening : Wire} {calls : List (Question × Wire)}

theorem session_eq_error_iff {e : Failure} : c.session p opening calls = .error e ↔ c.connect p opening = .error e := by
  rw [session]
  cases c.connect p opening <;> simp [Except.map]

theorem kind_of_session {e : Failure} (h : c.session p opening calls = .error e) :
    e.kind = .rpc ∨ e.kind = .timeout := by
  rw [session_eq_error_iff, connect_eq_error_iff] at h
  obtain hdial | ⟨-, htell⟩ := h
  · exact kind_of_dial hdial
  · exact kind_of_tell htell

theorem session_timeout_iff :
    (∃ e, c.session p opening calls = .error e ∧ e.kind = .timeout) ↔
      (c.transport = .webSocket ∧ ¬ ∃ x, opening.opening = some x ∧ x.after < c.timeout) ∨
      (∃ u, c.dial p opening = .ok u) ∧ ¬ c.Hears opening .blockNumber := by
  simp only [session_eq_error_iff, connect_eq_error_iff, or_and_right, exists_or, dial_timeout_iff, and_assoc,
    exists_and_left, ← tell_timeout_iff c p opening .blockNumber]

theorem session_of_connect {c' : Client} (h : c.connect p opening = .ok c') :
    c.session p opening calls = .ok (calls.map fun call => c.tell p call.2 call.1) := by
  rw [session, h, (blockNumber_of_connect h).1, Except.map]

theorem ends_of_session (hp : p.Lawful) {answers : List (Except Failure Told)}
    (h : c.session p opening calls = .ok answers) :
    (∃ n, c.blockNumber p opening = .ok n) ∧
      List.Forall₂ (fun call answer => c.Ends p call.2 call.1 answer) calls answers := by
  cases hconnect : c.connect p opening with
  | error e =>
    rw [session_eq_error_iff.2 hconnect] at h
    contradiction
  | ok c' =>
    rw [session_of_connect hconnect] at h
    obtain rfl := Except.ok.inj h
    refine ⟨(blockNumber_of_connect hconnect).2, List.forall₂_map_right_iff.2 (List.forall₂_same.2 fun call _ => ?_)⟩
    exact ends_tell hp c call.2 call.1

end Client

end ContractWatch
