import ContractWatch.Proofs.Deflate.Blocks

/-!
What a reader function reads depends on the bytes that it takes and on nothing behind them. This is so for every step,
from the single bit to all the blocks of a stream, and functions that go on with one another keep it.
-/

namespace ContractWatch.Deflate

variable {α β : Type} {n : Nat} {f : Reader → Except Fault (α × Reader)}

/-- Whatever the function reads, it takes at least `n` bits for it, and it reads the same wherever the bytes that it
took are followed by others. -/
def Steady (n : Nat) (f : Reader → Except Fault (α × Reader)) : Prop :=
  ∀ r a r', f r = .ok (a, r') → r'.bits.length + n ≤ r.bits.length ∧
    ∃ used, r.bytes = used ++ r'.bytes ∧ ∀ rest, f ⟨r.pending, used ++ rest⟩ = .ok (a, ⟨r'.pending, rest⟩)

namespace Steady

theorem weaken (h : Steady n f) : Steady 0 f := by
  intro r a r' hr
  obtain ⟨hle, hused⟩ := h r a r' hr
  exact ⟨by omega, hused⟩

theorem pure (a : α) : Steady 0 fun r => .ok (a, r) := by
  rintro r _ _ ⟨⟩
  exact ⟨Nat.le_refl _, [], rfl, fun _ => rfl⟩

theorem error (e : Fault) : Steady n fun _ => (.error e : Except Fault (α × Reader)) := by
  intro r a r' h
  contradiction

theorem map (hf : Steady n f) {g : α × Reader → β × Reader} {value : α → β} (hg : ∀ a r, g (a, r) = (value a, r)) :
    Steady n fun r => (f r).map g := by
  intro r b r' h
  match hr : f r with
  | .error e => simp [hr, Except.map] at h
  | .ok (a, r₁) =>
    obtain ⟨rfl, rfl⟩ : value a = b ∧ r₁ = r' := by simpa [hr, Except.map, hg] using h
    obtain ⟨hle, used, hbytes, hused⟩ := hf r a r₁ hr
    exact ⟨hle, used, hbytes, fun rest => by simp only [hused, Except.map, hg]⟩

theorem ite {c : Prop} [Decidable c] {g : Reader → Except Fault (α × Reader)} (hf : Steady n f) (hg : Steady n g) :
    Steady n fun r => if c then f r else g r := by
  by_cases h : c
  · simpa only [if_pos h] using hf
  · simpa only [if_neg h] using hg

/-- A function that goes on with `g` after `f`. Each reader matches on results in its own way, and so it is known here
by what it does in the two cases. -/
theorem bind {g : α → Reader → Except Fault (β × Reader)} {h : Reader → Except Fault (β × Reader)} (hf : Steady n f)
    (error : ∀ r e, f r = .error e → h r = .error e) (ok : ∀ r a r', f r = .ok (a, r') → h r = g a r')
    (next : ∀ a, Steady 0 (g a)) : Steady n h := by
  intro r b r' hr
  match hr₁ : f r with
  | .error e => simp [error r e hr₁] at hr
  | .ok (a, r₁) =>
    rw [ok r a r₁ hr₁] at hr
    obtain ⟨hle, used, hbytes, hused⟩ := hf r a r₁ hr₁
    obtain ⟨hle', used', hbytes', hused'⟩ := next a r₁ b r' hr
    refine ⟨by omega, used ++ used', by rw [hbytes, hbytes', List.append_assoc], fun rest => ?_⟩
    rw [List.append_assoc, ok _ _ _ (hused _), hused']

end Steady

/-! ### Bits, code words, tokens -/

namespace Reader

theorem steady_bit : Steady 1 bit := by
  intro r b r' h
  obtain ⟨-, hr⟩ | ⟨b₁, r₁, hr, hbits, -⟩ := r.bit_cases
  · rw [hr] at h
    contradiction
  rw [hr] at h
  cases h
  refine ⟨by simp [hbits], ?_⟩
  match r with
  | ⟨b :: bs, bytes⟩ =>
    cases hr
    exact ⟨[], rfl, fun _ => rfl⟩
  | ⟨[], x :: bytes⟩ =>
    cases hr
    exact ⟨[x], rfl, fun _ => rfl⟩

theorem steady_nat (count : Nat) : Steady (min 1 count) (nat count) := by
  induction count with
  | zero => exact .pure 0
  | succ count ih =>
    rw [Nat.min_eq_left (Nat.le_add_left 1 count)]
    apply steady_bit.bind
    case error => intro r e h; rw [nat, h]
    case ok => intro r b r₁ h; rw [nat, h]
    intro b
    apply ih.weaken.bind
    case error => intro r e h; simp only [h]
    case ok => intro r n r₁ h; simp only [h]; rfl
    exact fun n => .pure _

theorem steady_take (count : Nat) : Steady 0 (take count) := by
  intro r bs r' h
  simp only [take] at h
  split at h
  · contradiction
  rename_i hlen
  cases h
  rw [List.length_take] at hlen
  have htake : (r.bytes.take count).length = count := by
    rw [List.length_take]
    omega
  refine ⟨?_, r.bytes.take count, (List.take_append_drop count r.bytes).symm, fun rest => ?_⟩
  · simp only [bits_length, List.length_nil, List.length_drop]
    omega
  · simp only [take, List.take_left' htake, List.drop_left' htake, htake, Nat.lt_irrefl, if_false]

end Reader

namespace Tree

theorem read_node (a b : Tree) (r : Reader) :
    (node a b).read r = match r.bit with
      | .error e => .error e
      | .ok (one, r) => (if one then b else a).read r := by
  rw [read]
  obtain _ | ⟨_ | _, _⟩ := r.bit <;> rfl

theorem steady_node {a b : Tree} (ha : Steady 0 a.read) (hb : Steady 0 b.read) : Steady 1 (node a b).read := by
  apply Reader.steady_bit.bind
  case error => intro r e h; rw [read_node, h]
  case ok => intro r one r₁ h; rw [read_node, h]
  intro one
  cases one
  · exact ha
  · exact hb

theorem steady_read (t : Tree) : Steady 0 t.read := by
  induction t with
  | leaf s => exact .pure s
  | gap => exact .error .corrupt
  | node a b iha ihb => exact (steady_node iha ihb).weaken

theorem IsFork.steady_read {t : Tree} (ht : t.IsFork) : Steady 1 t.read := by
  match t with
  | .node a b => exact steady_node a.steady_read b.steady_read

end Tree

theorem steady_readRange (ranges : List Range) (s : Nat) : Steady 0 (readRange ranges s) := by
  unfold readRange
  split
  · exact .error .corrupt
  apply (Reader.steady_nat _).weaken.bind
  case error => intro r e h; rw [h]
  case ok => intro r n r₁ h; rw [h]
  exact fun n => .pure _

theorem steady_readToken {c : Codes} (hc : Steady n c.literals.read) : Steady n (readToken c) := by
  apply hc.bind
  case error => intro r e h; rw [readToken, h]
  case ok => intro r s r₁ h; rw [readToken, h]
  intro s
  refine .ite (.pure _) (.ite (.pure _) ?_)
  apply (steady_readRange _ _).bind
  case error => intro r e h; rw [h]
  case ok => intro r length r₁ h; rw [h]
  intro length
  apply c.distances.steady_read.bind
  case error => intro r e h; simp only [h]
  case ok => intro r d r₁ h; simp only [h]; rfl
  intro d
  apply (steady_readRange _ _).bind
  case error => intro r e h; rw [h]
  case ok => intro r distance r₁ h; rw [h]
  exact fun distance => .pure _

/-! ### The head of a block -/

theorem Run.steady_ofSymbol (acc : List Nat) (s : Nat) : Steady 0 (Run.ofSymbol acc s) := by
  refine .ite (.pure _) (.ite (.ite (.error _) ?_) (.ite ?_ ?_))
  all_goals exact (Reader.steady_nat _).weaken.map fun _ _ => rfl

theorem Run.steady_read (t : Tree) (acc : List Nat) : Steady 0 (Run.read t acc) := by
  apply t.steady_read.bind
  case error => intro r e h; rw [read, h]
  case ok => intro r s r₁ h; rw [read, h]
  exact Run.steady_ofSymbol acc

theorem steady_readLengths (t : Tree) (total fuel : Nat) (acc : List Nat) :
    Steady 0 (readLengths t total fuel acc) := by
  induction fuel generalizing acc with
  | zero => exact .error .corrupt
  | succ fuel ih =>
    refine .ite (.pure _) ?_
    apply (Run.steady_read t acc).bind
    case error => intro r e h; rw [h]
    case ok => intro r run r₁ h; rw [h]
    exact fun run => .ite (.error _) (ih _)

theorem steady_readNats (width count : Nat) : Steady 0 (readNats width count) := by
  induction count with
  | zero => exact .pure []
  | succ count ih =>
    apply (Reader.steady_nat width).weaken.bind
    case error => intro r e h; rw [readNats, h]
    case ok => intro r n r₁ h; rw [readNats, h]
    intro n
    apply ih.bind
    case error => intro r e h; simp only [h]
    case ok => intro r ns r₁ h; simp only [h]; rfl
    exact fun ns => .pure _

theorem steady_readCodes : Steady 0 readCodes := by
  apply (steady_readNats 5 2).bind
  case error => intro r e h; rw [readCodes, h]
  case ok => intro r counts r₁ h; rw [readCodes, h]
  intro counts
  apply (Reader.steady_nat 4).weaken.bind
  case error => intro r e h; simp only [h]
  case ok => intro r n r₁ h; simp only [h]; rfl
  intro n
  refine .ite (.error _) ?_
  apply (steady_readNats 3 (4 + n)).bind
  case error => intro r e h; rw [h]
  case ok => intro r ls r₁ h; rw [h]
  intro ls
  dsimp only
  split
  · exact .error _
  rename_i t ht
  apply (steady_readLengths t _ _ []).bind
  case error => intro r e h; rw [h]
  case ok => intro r ls r₁ h; rw [h]
  intro ls
  dsimp only
  split
  · exact .pure _
  · exact .error _

/-! ### Blocks -/

theorem steady_inflateTokens (c : Codes) (fuel : Nat) (out : Array UInt8) :
    Steady 0 fun r => inflateTokens c fuel r out := by
  induction fuel generalizing out with
  | zero => exact .error .incomplete
  | succ fuel ih =>
    apply (steady_readToken c.literals.steady_read).bind
    case error => intro r e h; rw [inflateTokens, h]
    case ok => intro r t r₁ h; rw [inflateTokens, h]
    intro t
    cases t with
    | none => exact .pure out
    | some t => exact ih _

theorem steady_inflateStored (out : Array UInt8) : Steady 0 fun r => inflateStored r out := by
  apply (Reader.steady_take 4).bind
  case error => intro r e h; rw [inflateStored, h]
  case ok => intro r head r₁ h; rw [inflateStored, h]
  intro head
  refine .ite (.error _) ?_
  apply (Reader.steady_take _).bind
  case error => intro r e h; rw [h]
  case ok => intro r bs r₁ h; rw [h]
  exact fun bs => .pure _

theorem steady_inflateBlock (limit kind : Nat) (out : Array UInt8) :
    Steady 0 fun r => inflateBlock limit kind r out := by
  match kind with
  | 0 => exact steady_inflateStored out
  | 1 => exact steady_inflateTokens .fixed limit out
  | 2 =>
    apply steady_readCodes.bind
    case error => intro r e h; simp only [inflateBlock, h]
    case ok => intro r c r₁ h; simp only [inflateBlock, h]; rfl
    exact fun c => steady_inflateTokens c limit out
  | _ + 3 => exact .error _

theorem steady_inflateBlocks (limit fuel : Nat) (out : Array UInt8) :
    Steady 0 fun r => inflateBlocks limit fuel r out := by
  induction fuel generalizing out with
  | zero => exact .error .incomplete
  | succ fuel ih =>
    apply (Reader.steady_nat 1).weaken.bind
    case error => intro r e h; rw [inflateBlocks, h]
    case ok => intro r last r₁ h; rw [inflateBlocks, h]
    intro last
    apply (Reader.steady_nat 2).weaken.bind
    case error => intro r e h; simp only [h]
    case ok => intro r kind r₁ h; simp only [h]; rfl
    intro kind
    apply (steady_inflateBlock limit kind out).bind
    case error => intro r e h; simp only [h]
    case ok => intro r out r₁ h; simp only [h]; rfl
    exact fun out => .ite (.pure _) (ih out)

end ContractWatch.Deflate
