import ContractWatch.Code.Opcode
import ContractWatch.Proofs.Text.Decimal
import ContractWatch.Proofs.Text.Hex

/-!
No two operations have one mnemonic.
-/

namespace ContractWatch

theorem Decimal.text_injective {m n : Nat} (h : text m = text n) : m = n := by
  have h := congrArg value (String.ofList_injective h)
  rwa [value_digits, value_digits] at h

namespace Opcode

/-- The ways to a mnemonic: a name of its own, a number behind the name of a family, or the code itself. -/
inductive Spelled (op : UInt8) : String → Prop
  | named {s} : (op, s) ∈ names → Spelled op s
  | numbered {f} : f ∈ families → f.1 ≤ op →
      Spelled op (f.2.2.1 ++ Decimal.text (op.toNat - f.1.toNat + f.2.2.2))
  | unknown : Spelled op ("UNKNOWN_0x" ++ Hex.text [op])

theorem spelled_mnemonic (op : UInt8) : Spelled op (mnemonic op) := by
  unfold mnemonic
  split
  · rename_i h
    obtain ⟨_, _, hnames, -⟩ := List.lookup_eq_some_iff.1 h
    exact .named (hnames ▸ List.mem_append_right _ List.mem_cons_self)
  · split
    · rename_i first last name n h
      have hop := List.find?_some h
      simp only [Bool.and_eq_true, decide_eq_true_eq] at hop
      exact .numbered (List.mem_of_find?_eq_some h) hop.1
    · exact .unknown

theorem names_distinct : ∀ p ∈ names, ∀ q ∈ names, p.2 = q.2 → p.1 = q.1 := by decide +kernel

theorem names_head : ∀ p ∈ names, p.2.toList.head? ≠ some 'U' := by decide +kernel

theorem families_head : ∀ f ∈ families, f.2.2.1.toList.head? ≠ none ∧ f.2.2.1.toList.head? ≠ some 'U' := by
  decide +kernel

theorem families_distinct : ∀ f ∈ families, ∀ g ∈ families,
    f.2.2.1.toList.head? = g.2.2.1.toList.head? → f = g := by decide +kernel

/-- Where the name of a family begins a name, only a zero comes after it, and the family has no such number. -/
theorem names_prefix : ∀ p ∈ names, ∀ f ∈ families, f.2.2.1.toList <+: p.2.toList →
    p.2.toList = f.2.2.1.toList ++ ['0'] ∧ 0 < f.2.2.2 := by decide +kernel

theorem head_append {s t : String} (h : s.toList.head? ≠ none) : (s ++ t).toList.head? = s.toList.head? := by
  rw [String.toList_append, List.head?_append]
  cases hs : s.toList.head? with
  | none => exact absurd hs h
  | some c => rfl

theorem numbered_ne_named {f : UInt8 × UInt8 × String × Nat} (hf : f ∈ families)
    {p : UInt8 × String} (hp : p ∈ names)
    (n : Nat) : f.2.2.1 ++ Decimal.text (n + f.2.2.2) ≠ p.2 := by
  intro h
  have h : p.2.toList = f.2.2.1.toList ++ Decimal.digits (n + f.2.2.2) := by
    rw [← h, String.toList_append, Decimal.text, String.toList_ofList]
  obtain ⟨hzero, hpos⟩ := names_prefix p hp f hf ⟨_, h.symm⟩
  have hdigits : Decimal.digits (n + f.2.2.2) = ['0'] := List.append_cancel_left (h.symm.trans hzero)
  have hvalue := Decimal.value_digits (n + f.2.2.2)
  rw [hdigits] at hvalue
  have h0 : Decimal.value ['0'] = 0 := by rfl
  omega

theorem unknown_head (op : UInt8) : ("UNKNOWN_0x" ++ Hex.text [op]).toList.head? = some 'U' := by
  rw [head_append] <;> decide

/-- A mnemonic is that of one operation. -/
theorem Spelled.eq {op op' : UInt8} {s : String} (h : Spelled op s) (h' : Spelled op' s) : op = op' := by
  generalize hs : s = s' at h'
  cases h with
  | named hp =>
    cases h' with
    | named hq => exact names_distinct _ hp _ hq hs
    | numbered hf _ => exact absurd hs.symm (numbered_ne_named hf hp _)
    | unknown => exact absurd (hs ▸ unknown_head op') (names_head _ hp)
  | @numbered f hf hle =>
    cases h' with
    | named hq => exact absurd hs (numbered_ne_named hf hq _)
    | @numbered g hg hle' =>
      have hheads := congrArg (fun s => s.toList.head?) hs
      simp only [head_append (families_head f hf).1, head_append (families_head g hg).1] at hheads
      obtain rfl := families_distinct f hf g hg hheads
      have hnumber := Decimal.text_injective ((String.append_right_inj _).1 hs)
      have hle : f.1.toNat ≤ op.toNat := hle
      have hle' : f.1.toNat ≤ op'.toNat := hle'
      exact UInt8.toNat_inj.1 (by omega)
    | unknown =>
      have hhead := unknown_head op'
      rw [← hs, head_append (families_head f hf).1] at hhead
      exact absurd hhead (families_head f hf).2
  | unknown =>
    cases h' with
    | named hq => exact absurd (hs ▸ unknown_head op) (names_head _ hq)
    | @numbered g hg _ =>
      have hhead := unknown_head op
      rw [hs, head_append (families_head g hg).1] at hhead
      exact absurd hhead (families_head g hg).2
    | unknown =>
      have h := Hex.text_injective ((String.append_right_inj _).1 hs)
      exact (List.cons.inj h).1

theorem mnemonic_injective {op op' : UInt8} (h : mnemonic op = mnemonic op') : op = op' :=
  (spelled_mnemonic op).eq (h ▸ spelled_mnemonic op')

theorem mem_all (op : UInt8) : op ∈ all := by
  have hlt := op.toNat_lt
  exact List.mem_map.2 ⟨op.toNat, List.mem_range.2 hlt, UInt8.ofNat_toNat⟩

theorem ofMnemonic_mnemonic (op : UInt8) : ofMnemonic? (mnemonic op) = some op := by
  unfold ofMnemonic?
  cases h : all.find? fun op' => mnemonic op' = mnemonic op with
  | none => exact absurd (decide_eq_true rfl) (List.find?_eq_none.1 h op (mem_all op))
  | some op' =>
    have hop := List.find?_some h
    rw [mnemonic_injective (of_decide_eq_true hop)]

end Opcode

end ContractWatch
