import ContractWatch.Code.Candidates
import ContractWatch.Proofs.Distinct
import ContractWatch.Proofs.Text.Hex

/-!
The scan for candidates as two passes that know nothing of each other: of the full constants that one operation
pushes, each is kept where it first appears.
-/

namespace ContractWatch

/-- The full data of an instruction with the given opcode. -/
def Instruction.constant? (op : UInt8) (i : Instruction) : Option (List UInt8) :=
  if i.opcode = op then i.fullData? else none

theorem Instruction.length_of_constant? {op : UInt8} {i : Instruction} {bs : List UInt8}
    (h : i.constant? op = some bs) : bs.length = Opcode.width op := by
  simp only [constant?, fullData?, Opcode.width?] at h
  grind

/-- The instruction has the given opcode and data of exactly `n` bytes. -/
def Instruction.carries (op : UInt8) (n : Nat) (i : Instruction) : Bool :=
  i.opcode = op && i.data.any fun bs => bs.length = n

theorem Instruction.data_of_carries {op : UInt8} {n : Nat} {i : Instruction} (h : i.carries op n = true) :
    ∃ bs, i.data = some bs ∧ bs.length = n := by
  simp only [carries, Bool.and_eq_true, decide_eq_true_eq, Option.any_eq_true] at h
  obtain ⟨-, bs, hbs, hlen⟩ := h
  exact ⟨bs, hbs, hlen⟩

/-- Full data are those of the width that the operation declares. -/
theorem Instruction.constant?_eq {op : UInt8} {n : Nat} (hw : Opcode.width? op = some n) (i : Instruction) :
    i.constant? op = if i.carries op n then i.data else none := by
  obtain ⟨pc, op', data⟩ := i
  by_cases hop : op' = op
  · subst hop
    cases data <;> simp [constant?, fullData?, carries, hw]
  · simp [constant?, carries, hop]

namespace Candidates

/-- All full constants that the operation pushes, as often as it does. -/
def constants (op : UInt8) (is : List Instruction) : List (List UInt8) := is.filterMap (Instruction.constant? op)

theorem constants_append (op : UInt8) (is js : List Instruction) :
    constants op (is ++ js) = constants op is ++ constants op js := List.filterMap_append

@[simp] theorem constants_concat (op : UInt8) (is : List Instruction) (i : Instruction) :
    constants op (is ++ [i]) = constants op is ++ (i.constant? op).toList := by
  simp [constants, List.filterMap_cons]
  cases i.constant? op <;> rfl

theorem length_of_mem_constants {op : UInt8} {is : List Instruction} {bs : List UInt8} (h : bs ∈ constants op is) :
    bs.length = Opcode.width op := by
  obtain ⟨i, _, hi⟩ := List.mem_filterMap.1 h
  exact Instruction.length_of_constant? hi

theorem Scan.step_of_push4 (s : Scan) {i : Instruction} {bs : List UInt8}
    (h : i.constant? Opcode.push4 = some bs) :
    i.constant? Opcode.push32 = none ∧
      s.step i =
        if bs ∈ s.met then s else { s with met := bs :: s.met, functions := Hex.text bs :: s.functions } := by
  simp only [Instruction.constant?, Option.ite_none_right_eq_some] at h
  obtain ⟨ho, hf⟩ := h
  exact ⟨by simp [Instruction.constant?, ho, Opcode.push4, Opcode.push32], by simp [step, ho, hf]⟩

theorem Scan.step_of_push32 (s : Scan) {i : Instruction} {bs : List UInt8}
    (h : i.constant? Opcode.push32 = some bs) :
    s.step i = if bs ∈ s.met then s else { s with met := bs :: s.met, events := Hex.text bs :: s.events } := by
  simp only [Instruction.constant?, Option.ite_none_right_eq_some] at h
  obtain ⟨ho, hf⟩ := h
  simp [step, ho, hf, Opcode.push4, Opcode.push32]

theorem Scan.step_of_other (s : Scan) {i : Instruction} (h4 : i.constant? Opcode.push4 = none)
    (h32 : i.constant? Opcode.push32 = none) : s.step i = s := by
  simp only [Instruction.constant?, ite_eq_right_iff] at h4 h32
  simp only [step]
  split
  · rw [h4 ‹_›]
  · split
    · rw [h32 ‹_›]
    · rfl

/-- The texts, last one first, are those of the constants that the operation pushes, each once. -/
def Keeps (op : UInt8) (texts : List String) (is : List Instruction) : Prop :=
  texts.reverse = (constants op is).eraseDups.map Hex.text

variable {op : UInt8} {texts : List String} {is : List Instruction} {i : Instruction} {bs : List UInt8}

theorem Keeps.other (h : Keeps op texts is) (hi : i.constant? op = none) : Keeps op texts (is ++ [i]) := by
  simpa [Keeps, hi] using h

theorem Keeps.known (h : Keeps op texts is) (hi : i.constant? op = some bs) (hb : bs ∈ constants op is) :
    Keeps op texts (is ++ [i]) := by
  simpa [Keeps, hi, eraseDups_concat, hb] using h

theorem Keeps.fresh (h : Keeps op texts is) (hi : i.constant? op = some bs) (hb : bs ∉ constants op is) :
    Keeps op (Hex.text bs :: texts) (is ++ [i]) := by
  have h : texts.reverse = _ := h
  simp [Keeps, hi, eraseDups_concat, hb, h]

/-- The scan after the given instructions, in terms of the constants among them. -/
structure Scan.Holds (s : Scan) (is : List Instruction) : Prop where
  met : ∀ bs, bs ∈ s.met ↔ bs ∈ constants Opcode.push4 is ∨ bs ∈ constants Opcode.push32 is
  functions : Keeps Opcode.push4 s.functions is
  events : Keeps Opcode.push32 s.events is

variable {s : Scan}

-- One set serves both kinds, since constants of the two have different lengths.
theorem Scan.Holds.mem_met_push4 (h : s.Holds is) (hi : i.constant? Opcode.push4 = some bs) :
    bs ∈ s.met ↔ bs ∈ constants Opcode.push4 is := by
  rw [h.met, or_iff_left]
  intro hb
  have := (Instruction.length_of_constant? hi).symm.trans (length_of_mem_constants hb)
  exact absurd this (by decide)

theorem Scan.Holds.mem_met_push32 (h : s.Holds is) (hi : i.constant? Opcode.push32 = some bs) :
    bs ∈ s.met ↔ bs ∈ constants Opcode.push32 is := by
  rw [h.met, or_iff_right]
  intro hb
  have := (Instruction.length_of_constant? hi).symm.trans (length_of_mem_constants hb)
  exact absurd this (by decide)

theorem Scan.Holds.step (h : s.Holds is) (i : Instruction) : (s.step i).Holds (is ++ [i]) := by
  cases h4 : i.constant? Opcode.push4 with
  | some bs =>
    obtain ⟨h32, hs⟩ := Scan.step_of_push4 s h4
    have hmem := h.mem_met_push4 h4
    rw [hs]
    split
    · rename_i hb
      refine ⟨fun cs => ?_, h.functions.known h4 (hmem.1 hb), h.events.other h32⟩
      simp only [constants_concat, h4, h32, h.met]
      grind
    · rename_i hb
      refine ⟨fun cs => ?_, h.functions.fresh h4 (mt hmem.2 hb), h.events.other h32⟩
      simp only [constants_concat, h4, h32, List.mem_cons, h.met]
      grind
  | none =>
    cases h32 : i.constant? Opcode.push32 with
    | some bs =>
      have hmem := h.mem_met_push32 h32
      rw [Scan.step_of_push32 s h32]
      split
      · rename_i hb
        refine ⟨fun cs => ?_, h.functions.other h4, h.events.known h32 (hmem.1 hb)⟩
        simp only [constants_concat, h4, h32, h.met]
        grind
      · rename_i hb
        refine ⟨fun cs => ?_, h.functions.other h4, h.events.fresh h32 (mt hmem.2 hb)⟩
        simp only [constants_concat, h4, h32, List.mem_cons, h.met]
        grind
    | none =>
      rw [Scan.step_of_other s h4 h32]
      exact ⟨fun cs => by simp [h4, h32, h.met], h.functions.other h4, h.events.other h32⟩

theorem Scan.Holds.foldl (h : s.Holds is) (js : List Instruction) :
    (js.foldl Scan.step s).Holds (is ++ js) := by
  induction js generalizing s is with
  | nil => simpa using h
  | cons j js ih => simpa using ih (h.step j)

theorem Scan.holds_nil : Scan.Holds {} [] := ⟨by simp [constants], rfl, rfl⟩

theorem extract_functions (is : List Instruction) :
    (extract is).functions = (constants Opcode.push4 is).eraseDups.map Hex.text :=
  (Scan.holds_nil.foldl is).functions

theorem extract_events (is : List Instruction) :
    (extract is).events = (constants Opcode.push32 is).eraseDups.map Hex.text :=
  (Scan.holds_nil.foldl is).events

/-! ### Two passes -/

/-- The texts of the data of `n` bytes that instructions with the given opcode have, as often as they have them. -/
def dataTexts (op : UInt8) (n : Nat) (is : List Instruction) : List String :=
  (is.filter (·.carries op n)).map fun i => Hex.text (i.data.getD [])

theorem dataTexts_eq {n : Nat} (hw : Opcode.width? op = some n) (is : List Instruction) :
    dataTexts op n is = (constants op is).map Hex.text := by
  induction is with
  | nil => rfl
  | cons i is ih =>
    rw [dataTexts, constants] at ih ⊢
    rw [List.filter_cons, List.filterMap_cons, Instruction.constant?_eq hw]
    cases hc : i.carries op n with
    | false => simpa using ih
    | true =>
      obtain ⟨bs, hbs⟩ := Instruction.data_of_carries hc
      simp [hbs, ih]

theorem functions_eq (is : List Instruction) : (extract is).functions = (dataTexts 0x63 4 is).eraseDups := by
  rw [extract_functions, dataTexts_eq (by decide), eraseDups_map fun _ _ => Hex.text_injective]
  rfl

theorem events_eq (is : List Instruction) : (extract is).events = (dataTexts 0x7f 32 is).eraseDups := by
  rw [extract_events, dataTexts_eq (by decide), eraseDups_map fun _ _ => Hex.text_injective]
  rfl

theorem exists_of_mem_dataTexts {n : Nat} {s : String} (h : s ∈ (dataTexts op n is).eraseDups) :
    ∃ bs, bs.length = n ∧ s = Hex.text bs := by
  rw [List.mem_eraseDups] at h
  obtain ⟨i, hi, rfl⟩ := List.mem_map.1 h
  obtain ⟨bs, hbs, hlen⟩ := Instruction.data_of_carries (List.mem_filter.1 hi).2
  exact ⟨bs, hlen, by rw [hbs, Option.getD_some]⟩

/-- One scan with one set of constants does what two passes do that each know of one operation and one length only.
So no text is in a list twice or in both lists, every text is in normal form, and either list depends on nothing but
the instructions of its kind. -/
theorem extract_two_passes (is : List Instruction) :
    (extract is).functions = (dataTexts 0x63 4 is).eraseDups ∧ (extract is).events = (dataTexts 0x7f 32 is).eraseDups ∧
      (extract is).functions.Nodup ∧ (extract is).events.Nodup ∧
      (∀ s ∈ (extract is).functions, s ∉ (extract is).events) ∧
      (∀ s ∈ (extract is).functions, s.length = 8) ∧ (∀ s ∈ (extract is).events, s.length = 64) ∧
      (∀ s ∈ (extract is).functions ++ (extract is).events,
        (∀ c ∈ s.toList, ('0' ≤ c ∧ c ≤ '9') ∨ ('a' ≤ c ∧ c ≤ 'f')) ∧ Hex.normalText s = s) ∧
      (∀ js, js.filter (·.carries 0x63 4) = is.filter (·.carries 0x63 4) →
        (extract js).functions = (extract is).functions) ∧
      (∀ js, js.filter (·.carries 0x7f 32) = is.filter (·.carries 0x7f 32) →
        (extract js).events = (extract is).events) := by
  have hlength {op n s} (h : s ∈ (dataTexts op n is).eraseDups) : s.length = 2 * n := by
    obtain ⟨bs, rfl, rfl⟩ := exists_of_mem_dataTexts h
    exact Hex.length_text bs
  have hspelling {op n s} (h : s ∈ (dataTexts op n is).eraseDups) :
      (∀ c ∈ s.toList, ('0' ≤ c ∧ c ≤ '9') ∨ ('a' ≤ c ∧ c ≤ 'f')) ∧ Hex.normalText s = s := by
    obtain ⟨bs, -, rfl⟩ := exists_of_mem_dataTexts h
    exact ⟨fun c => Hex.lower_of_mem_text, Hex.normalText_text bs⟩
  rw [functions_eq is, events_eq is]
  refine ⟨rfl, rfl, nodup_eraseDups _, nodup_eraseDups _, fun s hs hs' => ?_, fun s => hlength, fun s => hlength,
    fun s hs => ?_, fun js h => ?_, fun js h => ?_⟩
  · have := (hlength hs).symm.trans (hlength hs')
    contradiction
  · obtain hs | hs := List.mem_append.1 hs
    · exact hspelling hs
    · exact hspelling hs
  · rw [functions_eq, dataTexts, h, ← dataTexts]
  · rw [events_eq, dataTexts, h, ← dataTexts]

/-- Data of the wrong length, missing data, and data of another operation leave no trace. -/
theorem extract_two_passes_strays :
    let is : List Instruction := [⟨9, 0x63, some (List.replicate 32 0xa9)⟩, ⟨0, 0x7f, some [0xa9, 0x05, 0x9c, 0xbb]⟩,
      ⟨5, 0x63, some [0xa9, 0x05, 0x9c, 0xbb]⟩, ⟨5, 0x63, none⟩, ⟨2, 0x01, some [0xde, 0xad, 0xbe, 0xef]⟩,
      ⟨5, 0x63, some [0xa9, 0x05, 0x9c, 0xbb]⟩]
    let js : List Instruction := [⟨5, 0x63, some [0xa9, 0x05, 0x9c, 0xbb]⟩, ⟨5, 0x63, some [0xa9, 0x05, 0x9c, 0xbb]⟩]
    (extract is).functions = ["a9059cbb"] ∧ (extract is).events = [] ∧ Hex.normalText "a9059cbb" = "a9059cbb" ∧
      (extract js).functions = (extract is).functions := by
  intro is js
  obtain ⟨hfunctions, hevents, -, -, -, -, -, hspelled, hsame, -⟩ := extract_two_passes is
  have htexts : (dataTexts 0x63 4 is).eraseDups = ["a9059cbb"] := by decide
  refine ⟨hfunctions.trans htexts, hevents.trans (by decide), ?_, hsame js (by decide)⟩
  exact (hspelled "a9059cbb" (by simp [hfunctions, htexts])).2

end Candidates

end ContractWatch
