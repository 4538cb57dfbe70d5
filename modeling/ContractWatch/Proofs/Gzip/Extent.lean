import ContractWatch.Proofs.Deflate.Extent
import ContractWatch.Proofs.Gzip.Member

/-!
Where a member ends. Its head, its deflated data and its trailer tell their own extent, so that the decoder finds the
same member whatever follows it, and nothing in a part of one.
-/

namespace ContractWatch.Gzip

/-- The function takes a part off the bytes that it knows by the part itself, whatever follows it. -/
def Skips (f : List UInt8 → Except Fault (List UInt8)) : Prop :=
  ∀ bs rest, f bs = .ok rest → ∃ part, bs = part ++ rest ∧ ∀ rest', f (part ++ rest') = .ok rest'

namespace Skips

variable {f g : List UInt8 → Except Fault (List UInt8)}

theorem bind (hf : Skips f) (hg : Skips g) : Skips fun bs => f bs >>= g := by
  intro bs rest h
  match hm : f bs with
  | .error e => simp [hm, Bind.bind, Except.bind] at h
  | .ok mid =>
    simp only [hm] at h
    obtain ⟨part, rfl, hpart⟩ := hf bs mid hm
    obtain ⟨part', rfl, hpart'⟩ := hg mid rest h
    refine ⟨part ++ part', (List.append_assoc ..).symm, fun rest' => ?_⟩
    simp only [List.append_assoc, hpart]
    exact hpart' rest'

theorem optional (hf : Skips f) (c : Bool) : Skips fun bs => if c then f bs else .ok bs := by
  cases c with
  | true => exact hf
  | false =>
    intro bs rest h
    exact ⟨[], Except.ok.inj h, fun _ => rfl⟩

end Skips

theorem skip_eq_ok_iff {count : Nat} {bs rest : List UInt8} :
    skip count bs = .ok rest ↔ ∃ part, part.length = count ∧ bs = part ++ rest := by
  constructor
  · intro h
    simp only [skip] at h
    split at h
    · contradiction
    · rename_i hlen
      obtain rfl := Except.ok.inj h
      refine ⟨bs.take count, ?_, (List.take_append_drop count bs).symm⟩
      rw [List.length_take] at hlen ⊢
      omega
  · rintro ⟨part, rfl, rfl⟩
    simp [skip]

theorem skips_skipExtra : Skips skipExtra := by
  intro bs rest h
  simp only [skipExtra] at h
  split at h
  · contradiction
  rename_i mid hmid
  obtain ⟨size, hsize, rfl⟩ := skip_eq_ok_iff.1 hmid
  rw [List.take_left' hsize] at h
  obtain ⟨field, hfield, rfl⟩ := skip_eq_ok_iff.1 h
  refine ⟨size ++ field, (List.append_assoc ..).symm, fun rest' => ?_⟩
  have hskip := skip_eq_ok_iff.2 ⟨size, hsize, List.append_assoc size field rest'⟩
  simp only [skipExtra, hskip]
  rw [List.append_assoc, List.take_left' hsize]
  exact skip_eq_ok_iff.2 ⟨field, hfield, rfl⟩

theorem skips_skipText (room : Nat) : Skips (skipText room) := by
  intro bs rest h
  fun_induction skipText room bs with
  | case1 => contradiction
  | case2 bs => exact ⟨[0], by rw [Except.ok.inj h]; rfl, fun _ => by simp [skipText]⟩
  | case3 b bs hb => contradiction
  | case4 room bs => exact ⟨[0], by rw [Except.ok.inj h]; rfl, fun _ => by simp [skipText]⟩
  | case5 room b bs hb ih =>
    obtain ⟨part, rfl, hpart⟩ := ih h
    exact ⟨b :: part, rfl, fun rest' => by simp [skipText, hb, hpart]⟩

theorem skips_skipHeadSum (head : List UInt8) : Skips (skipHeadSum head) := by
  intro bs rest h
  simp only [skipHeadSum] at h
  split at h
  · contradiction
  rename_i mid hmid
  obtain ⟨sum, hsum, rfl⟩ := skip_eq_ok_iff.1 hmid
  rw [List.take_left' hsum] at h
  split at h
  · rename_i heq
    obtain rfl := Except.ok.inj h
    refine ⟨sum, rfl, fun rest' => ?_⟩
    simp only [skipHeadSum, skip_eq_ok_iff.2 ⟨sum, hsum, rfl⟩, List.take_left' hsum, if_pos heq]
  · contradiction

/-- The fields that tell their own length, without the checksum over all of them. -/
def skipOwnFields (flags : UInt8) (bs : List UInt8) : Except Fault (List UInt8) :=
  ((if hasFlag flags 4 then skipExtra bs else .ok bs) >>= fun bs =>
    if hasFlag flags 8 then skipText maxField bs else .ok bs) >>= fun bs =>
      if hasFlag flags 16 then skipText maxField bs else .ok bs

theorem skips_skipOwnFields (flags : UInt8) : Skips (skipOwnFields flags) :=
  ((skips_skipExtra.optional _).bind ((skips_skipText _).optional _)).bind ((skips_skipText _).optional _)

theorem skipFields_eq (flags : UInt8) (all bs : List UInt8) :
    skipFields flags all bs = skipOwnFields flags bs >>= fun bs =>
      if hasFlag flags 2 then skipHeadSum (all.take (all.length - bs.length)) bs else .ok bs := by
  rw [skipFields, skipOwnFields, bind_assoc, bind_assoc]
  cases hasFlag flags 4 <;> cases hasFlag flags 8 <;> cases hasFlag flags 16 <;> rfl

theorem skips_skipFields (flags : UInt8) (before : List UInt8) :
    Skips fun bs => skipFields flags (before ++ bs) bs := by
  intro bs rest h
  match hm : skipOwnFields flags bs with
  | .error e =>
    simp only [skipFields_eq, hm] at h
    contradiction
  | .ok mid =>
    obtain ⟨fields, rfl, hfields⟩ := skips_skipOwnFields flags bs mid hm
    have htake (bs : List UInt8) : (before ++ (fields ++ bs)).take ((before ++ (fields ++ bs)).length - bs.length) =
        before ++ fields := by
      rw [← List.append_assoc, List.length_append, Nat.add_sub_cancel, List.take_left]
    have hall (bs : List UInt8) : skipFields flags (before ++ (fields ++ bs)) (fields ++ bs) =
        if hasFlag flags 2 then skipHeadSum (before ++ fields) bs else .ok bs := by
      rw [skipFields_eq, hfields, ← htake bs]
      rfl
    simp only [hall] at h
    obtain ⟨sum, rfl, hsum⟩ := (skips_skipHeadSum (before ++ fields)).optional _ mid rest h
    refine ⟨fields ++ sum, (List.append_assoc ..).symm, fun rest' => ?_⟩
    simp only [List.append_assoc, hall]
    exact hsum rest'

theorem skips_skipHead : Skips skipHead := by
  intro bs rest h
  unfold skipHead at h
  split at h
  · rename_i id1 id2 method flags x1 x2 x3 x4 x5 x6 bs
    split at h
    · rename_i hid
      obtain ⟨part, rfl, hpart⟩ := skips_skipFields flags [id1, id2, method, flags, x1, x2, x3, x4, x5, x6] bs rest h
      refine ⟨[id1, id2, method, flags, x1, x2, x3, x4, x5, x6] ++ part, rfl, fun rest' => ?_⟩
      exact (if_pos hid).trans (hpart rest')
    · contradiction
  · contradiction

theorem prefix_of_skipHead {bs rest : List UInt8} (h : skipHead bs = .ok rest) : [0x1f, 0x8b, 8] <+: bs := by
  unfold skipHead at h
  split at h
  · split at h
    · rename_i hid
      rw [hid.1, hid.2.1, hid.2.2.1]
      exact ⟨_, rfl⟩
    · contradiction
  · contradiction

theorem exists_member_of_decode {bs data : List UInt8} (h : decode bs = .ok data) :
    ∃ m : Member, m.data = data ∧ m.bytes <+: bs := by
  simp only [decode] at h
  split at h
  · contradiction
  rename_i after hhead
  split at h
  · contradiction
  rename_i data' rest hbody
  split at h
  · contradiction
  split at h
  · rename_i htrailer
    obtain rfl := Except.ok.inj h
    obtain ⟨head, rfl, hskip⟩ := skips_skipHead bs after hhead
    obtain ⟨body, rfl, hinflate⟩ := Deflate.exists_body_of_inflate hbody
    refine ⟨⟨head, body, data', hskip, hinflate⟩, rfl, rest.drop 8, ?_⟩
    simp only [Member.bytes, ← htrailer, List.append_assoc, List.take_append_drop]
  · contradiction

theorem Member.prefix_bytes (m : Member) : [0x1f, 0x8b, 8] <+: m.bytes := by
  rw [bytes, List.append_assoc]
  exact prefix_of_skipHead (m.skipHead_append _)

/-- No member is the beginning of another one. -/
theorem Member.eq_of_prefix {m m' : Member} (h : m.bytes <+: m'.bytes) : m.bytes = m'.bytes := by
  obtain ⟨rest, h⟩ := h
  simp only [bytes, List.append_assoc] at h ⊢
  have hhead := m'.skipHead_append (m'.body ++ trailer m'.data)
  rw [← h, m.skipHead_append] at hhead
  have hafter := Except.ok.inj hhead
  have hbody := m'.inflate_append (trailer m'.data)
  rw [← hafter, m.inflate_append] at hbody
  have htrailer := (Prod.mk.inj (Except.ok.inj hbody)).2
  have hlength := congrArg List.length htrailer
  rw [List.length_append, trailer_length, trailer_length] at hlength
  obtain rfl : rest = [] := List.eq_nil_of_length_eq_zero (by omega)
  simpa using h

/-- Nothing is found in a part of a member. -/
theorem Member.decode_ne_ok {m : Member} {part data : List UInt8} (h : part <+: m.bytes) (hne : part ≠ m.bytes) :
    decode part ≠ .ok data := by
  intro hdecode
  obtain ⟨m', -, hm'⟩ := exists_member_of_decode hdecode
  have heq := Member.eq_of_prefix (hm'.trans h)
  exact hne (h.eq_of_length_le (heq ▸ hm'.length_le))

/-! ### The trailer -/

theorem fourBytes_length (n : Nat) : (fourBytes n).length = 4 := rfl

theorem littleEndian_fourBytes (n : Nat) : Deflate.littleEndian (fourBytes n) = n % 2 ^ 32 := by
  simp only [Deflate.littleEndian, fourBytes, List.foldr_cons, List.foldr_nil, UInt8.toNat_ofNat']
  omega

end ContractWatch.Gzip
