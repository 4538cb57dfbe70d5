import Mathlib.Data.Bool.AllAny
import ContractWatch.Monitor.Settings
import ContractWatch.Node.Client
import ContractWatch.Proofs.Text.Decimal
import ContractWatch.Proofs.Text.Normal
import ContractWatch.Proofs.Text.Utf8

/-!
What the environment says. Each variable is read alone, a number is read by its value however it is written, and settings
that are written into an environment are read back from it.
-/

namespace ContractWatch

namespace Environment

/-- A plus sign or none before decimal digits of the number, with any zeros in front. -/
def Spells (cs : List Char) (n : Nat) : Prop :=
  ∃ ds, (cs = ds ∨ cs = '+' :: ds) ∧ ds ≠ [] ∧ (∀ c ∈ ds, '0' ≤ c ∧ c ≤ '9') ∧ Nat.ofDigitChars 10 ds 0 = n

/-- The text of the variable spells the number, blanks around it aside. -/
def Gives (env : Environment) (name : String) (n : Nat) : Prop :=
  ∃ s : String, env name = some (Utf8.bytes s) ∧ Spells (Text.trim s.toList) n

/-- What is read has no other variable to depend on. -/
def ReadsOnly {α : Type} (name : String) (read : Environment → α) : Prop :=
  ∀ env env' : Environment, env name = env' name → read env = read env'

section Locality

variable (name : String)

theorem readsOnly_text? : ReadsOnly name (text? · name) := by
  intro env env' h
  simp only [text?, h]

theorem readsOnly_flag? : ReadsOnly name (flag? · name) := by
  intro env env' h
  simp only [flag?, readsOnly_text? name env env' h]

theorem readsOnly_word? : ReadsOnly name (word? · name) := by
  intro env env' h
  simp only [word?, readsOnly_text? name env env' h]

theorem readsOnly_filled? : ReadsOnly name (filled? · name) := by
  intro env env' h
  simp only [filled?, readsOnly_text? name env env' h]

variable {name}

theorem ReadsOnly.map {α β : Type} {read : Environment → α} (h : ReadsOnly name read) (f : α → β) :
    ReadsOnly name fun env => f (read env) :=
  fun env env' heq => congrArg f (h env env' heq)

end Locality

/-! ### Texts and numbers -/

theorem text?_bytes {env : Environment} {name s : String} (h : env name = some (Utf8.bytes s)) :
    env.text? name = some (Text.trim s.toList) := by
  rw [text?, h, Option.bind_some, Utf8.decode_bytes, Option.map_some]

theorem text?_unset {env : Environment} {name : String} (h : env name = none) : env.text? name = none := by
  rw [text?, h, Option.bind_none]

theorem text?_eq_some_iff (env : Environment) (name : String) (cs : List Char) :
    env.text? name = some cs ↔ ∃ s : String, env name = some (Utf8.bytes s) ∧ Text.trim s.toList = cs := by
  simp only [text?, Option.bind_eq_some_iff, Option.map_eq_some_iff, Utf8.decode?_eq_some_iff]
  constructor
  · rintro ⟨bs, hbs, s, rfl, hs⟩
    exact ⟨s, hbs, hs⟩
  · rintro ⟨s, hbs, hs⟩
    exact ⟨_, hbs, s, rfl, hs⟩

theorem wordOf?_eq_some_iff (cs : List Char) (w : UInt64) : wordOf? cs = some w ↔ Spells cs w.toNat := by
  have hdigits (ds : List Char) : Decimal.word? ds = some w ↔
      ds ≠ [] ∧ (∀ c ∈ ds, '0' ≤ c ∧ c ≤ '9') ∧ Nat.ofDigitChars 10 ds 0 = w.toNat := by
    rw [Decimal.word?_eq_some_iff, Decimal.value, Decimal.valueFrom_eq]
    simp only [Decimal.isDigit, Bool.and_eq_true, decide_eq_true_eq]
  unfold wordOf?
  split
  · rename_i ds
    rw [hdigits]
    constructor
    · intro h
      exact ⟨ds, .inr rfl, h⟩
    · rintro ⟨ds', rfl | h, hne, hall, hvalue⟩
      · exact absurd (hall '+' List.mem_cons_self).1 (by decide)
      · obtain rfl := List.tail_eq_of_cons_eq h
        exact ⟨hne, hall, hvalue⟩
  · rename_i hplus
    rw [hdigits]
    constructor
    · intro h
      exact ⟨cs, .inl rfl, h⟩
    · rintro ⟨ds, rfl | rfl, h⟩
      · exact h
      · exact absurd rfl (hplus ds)

theorem word?_eq_some_iff (env : Environment) (name : String) (w : UInt64) :
    env.word? name = some w ↔ env.Gives name w.toNat := by
  simp only [word?, Option.bind_eq_some_iff, text?_eq_some_iff, wordOf?_eq_some_iff]
  constructor
  · rintro ⟨_, ⟨s, hs, rfl⟩, h⟩
    exact ⟨s, hs, h⟩
  · rintro ⟨s, hs, h⟩
    exact ⟨_, ⟨s, hs, rfl⟩, h⟩

theorem word?_of_gives {env : Environment} {name : String} {n : Nat} (h : env.Gives name n) (hn : n < UInt64.size) :
    env.word? name = some (UInt64.ofNat n) := by
  rw [word?_eq_some_iff, UInt64.toNat_ofNat_of_lt' hn]
  exact h

/-- A number with more than 64 bits is none. -/
theorem word?_eq_none_iff (env : Environment) (name : String) :
    env.word? name = none ↔ ∀ n < UInt64.size, ¬ env.Gives name n := by
  rw [Option.eq_none_iff_forall_ne_some]
  constructor
  · intro h n hn hgives
    exact h _ (word?_of_gives hgives hn)
  · intro h w hw
    exact h w.toNat w.toNat_lt_size ((word?_eq_some_iff ..).1 hw)

end Environment

/-! ### Settings read back -/

namespace Settings

/-- The settings as texts of their variables. -/
def texts (s : Settings) : List (String × Option String) :=
  [(dedupVariable, some (toString s.dedup)), (compressVariable, some (toString s.compressPayload)),
    (extendedVariable, some (toString s.extendedAnalysis)),
    (limitVariable, some (Decimal.text s.maxPayloadBytes.toNat)), (functionsVariable, s.functionsPath),
    (eventsVariable, s.eventsPath)]

def toEnvironment (s : Settings) : Environment := fun name => (s.texts.lookup name).join.map Utf8.bytes

/-- A path that an environment can tell from none at all, and that no blanks are trimmed from. -/
def IsPath (path : String) : Prop := path ≠ "" ∧ Text.trimmed path = path

end Settings

namespace Environment

variable {env : Environment} {name : String}

theorem flag?_of_text {b : Bool} (h : env name = some (Utf8.bytes (toString b))) : env.flag? name = some b := by
  rw [flag?, text?_bytes h]
  cases b <;> decide

theorem trim_digits (n : Nat) : Text.trim (Decimal.digits n) = Decimal.digits n := by
  have hblank : ∀ c ∈ Decimal.digits n, Text.isBlank c = false := fun c hc =>
    Decimal.isBlank_of_isDigit (Decimal.isDigit_of_mem_digits hc)
  exact (Text.trim_eq_self_iff _).2
    ⟨fun c hc => hblank c (List.mem_of_head? hc), fun c hc => hblank c (List.mem_of_getLast? hc)⟩

theorem spells_digits (n : Nat) : Spells (Decimal.digits n) n := by
  refine ⟨_, .inl rfl, Decimal.digits_ne_nil n, fun c hc => ?_, Nat.ofDigitChars_ten_toDigits⟩
  simpa only [Decimal.isDigit, Bool.and_eq_true, decide_eq_true_eq] using Decimal.isDigit_of_mem_digits hc

theorem word?_of_text {w : UInt64} (h : env name = some (Utf8.bytes (Decimal.text w.toNat))) :
    env.word? name = some w := by
  refine (word?_eq_some_iff ..).2 ⟨_, h, ?_⟩
  rw [Decimal.text, String.toList_ofList, trim_digits]
  exact spells_digits w.toNat

theorem filled?_of_text {path : Option String} (h : env name = path.map Utf8.bytes)
    (hpath : ∀ p, path = some p → Settings.IsPath p) : env.filled? name = path := by
  cases path with
  | none => rw [filled?, text?_unset h]
  | some p =>
    obtain ⟨hne, htrim⟩ := hpath p rfl
    have htext : env.text? name = some p.toList := by
      rw [text?_bytes h, ← String.toList_ofList (l := Text.trim p.toList)]
      exact congrArg (some ∘ String.toList) htrim
    obtain ⟨c, cs, hcs⟩ := List.exists_cons_of_ne_nil (fun hnil => hne (String.toList_eq_nil_iff.1 hnil))
    rw [filled?, htext, hcs]
    simp only
    rw [← hcs, String.ofList_toList]

end Environment

theorem Settings.ofEnvironment_toEnvironment {s : Settings}
    (hpaths : ∀ p, s.functionsPath = some p ∨ s.eventsPath = some p → IsPath p) :
    ofEnvironment s.toEnvironment = s := by
  have hdedup : s.toEnvironment.flag? dedupVariable = some s.dedup := Environment.flag?_of_text rfl
  have hcompress : s.toEnvironment.flag? compressVariable = some s.compressPayload := Environment.flag?_of_text rfl
  have hextended : s.toEnvironment.flag? extendedVariable = some s.extendedAnalysis := Environment.flag?_of_text rfl
  have hlimit : s.toEnvironment.word? limitVariable = some s.maxPayloadBytes := Environment.word?_of_text rfl
  have hfunctions : s.toEnvironment.filled? functionsVariable = s.functionsPath :=
    Environment.filled?_of_text rfl fun p hp => hpaths p (.inl hp)
  have hevents : s.toEnvironment.filled? eventsVariable = s.eventsPath :=
    Environment.filled?_of_text rfl fun p hp => hpaths p (.inr hp)
  simp only [ofEnvironment, hdedup, hcompress, hextended, hlimit, hfunctions, hevents, Option.getD_some]

namespace Client

variable {env : Environment}

theorem timeout_of_gives {n : Nat} (hn : n < UInt64.size) (hpos : 0 < n) (h : env.Gives timeoutVariable n) :
    (ofEnvironment env).timeout = 1000 * n := by
  have hne : UInt64.ofNat n ≠ 0 := fun h0 => by
    have h0 := congrArg UInt64.toNat h0
    rw [UInt64.toNat_ofNat_of_lt' hn] at h0
    exact absurd h0 (Nat.ne_of_gt hpos)
  simp only [ofEnvironment, Environment.word?_of_gives h hn, if_neg hne, UInt64.toNat_ofNat_of_lt' hn]

/-- A text of zero is read, and then turned down. -/
theorem timeout_of_not_gives (h : ∀ n < UInt64.size, 0 < n → ¬ env.Gives timeoutVariable n) :
    (ofEnvironment env).timeout = 30000 := by
  cases hword : env.word? timeoutVariable with
  | none => simp only [ofEnvironment, hword]
  | some w =>
    have hzero : w = 0 := by
      refine UInt64.toNat_inj.1 (Nat.eq_zero_of_not_pos fun hpos => ?_)
      exact h w.toNat w.toNat_lt_size hpos ((Environment.word?_eq_some_iff ..).1 hword)
    simp only [ofEnvironment, hword, if_pos hzero]

end Client

namespace Environment

/-- Each setting is read from its own variable alone. A number is taken from its text, whichever sign, zeros and blanks
come with it, if 64 bits have room for it, and in every other case the setting keeps its default. Settings written into
an environment are the settings read from it. -/
theorem variables_read_exactly :
    (ReadsOnly Settings.dedupVariable (fun env => (Settings.ofEnvironment env).dedup) ∧
      ReadsOnly Settings.compressVariable (fun env => (Settings.ofEnvironment env).compressPayload) ∧
      ReadsOnly Settings.extendedVariable (fun env => (Settings.ofEnvironment env).extendedAnalysis) ∧
      ReadsOnly Settings.limitVariable (fun env => (Settings.ofEnvironment env).maxPayloadBytes) ∧
      ReadsOnly Settings.functionsVariable (fun env => (Settings.ofEnvironment env).functionsPath) ∧
      ReadsOnly Settings.eventsVariable (fun env => (Settings.ofEnvironment env).eventsPath) ∧
      ReadsOnly Client.endpointVariable (fun env => (Client.ofEnvironment env).endpoint) ∧
      ReadsOnly Client.timeoutVariable (fun env => (Client.ofEnvironment env).timeout)) ∧
    (∀ env : Environment,
      (∀ n < UInt64.size, env.Gives Settings.limitVariable n → (Settings.ofEnvironment env).maxPayloadBytes.toNat = n) ∧
      ((∀ n < UInt64.size, ¬ env.Gives Settings.limitVariable n) →
        (Settings.ofEnvironment env).maxPayloadBytes = 524288) ∧
      (∀ n < UInt64.size, 0 < n → env.Gives Client.timeoutVariable n → (Client.ofEnvironment env).timeout = 1000 * n) ∧
      ((∀ n < UInt64.size, 0 < n → ¬ env.Gives Client.timeoutVariable n) →
        (Client.ofEnvironment env).timeout = 30000)) ∧
    ∀ s : Settings, (∀ p, s.functionsPath = some p ∨ s.eventsPath = some p → Settings.IsPath p) →
      Settings.ofEnvironment s.toEnvironment = s := by
  refine ⟨⟨?_, ?_, ?_, ?_, ?_, ?_, ?_, ?_⟩, fun env => ?_, fun s => Settings.ofEnvironment_toEnvironment⟩
  · exact (readsOnly_flag? _).map (·.getD true)
  · exact (readsOnly_flag? _).map (·.getD true)
  · exact (readsOnly_flag? _).map (·.getD false)
  · exact (readsOnly_word? _).map (·.getD 524288)
  · exact readsOnly_filled? _
  · exact readsOnly_filled? _
  · exact (readsOnly_filled? _).map (·.getD "http://localhost:8545")
  · intro env env' h
    simp only [Client.ofEnvironment, readsOnly_word? _ env env' h]
  · refine ⟨fun n hn h => ?_, fun h => ?_, fun n hn hpos h => ?_, fun h => ?_⟩
    · rw [Settings.ofEnvironment, word?_of_gives h hn, Option.getD_some, UInt64.toNat_ofNat_of_lt' hn]
    · rw [Settings.ofEnvironment, (word?_eq_none_iff ..).2 h, Option.getD_none]
    · exact Client.timeout_of_gives hn hpos h
    · exact Client.timeout_of_not_gives h

/-- The largest number with a sign, zeros and blanks, the next one, and settings with a path beyond ASCII. -/
theorem variables_read_exactly_largest :
    let env : Environment := fun name =>
      if name = Settings.limitVariable then some (Utf8.bytes "\u3000+00018446744073709551615\n")
      else if name = Client.timeoutVariable then some (Utf8.bytes "18446744073709551616")
      else none
    let s : Settings := { dedup := false, maxPayloadBytes := 18446744073709551615, functionsPath := some "/tmp/função" }
    (Settings.ofEnvironment env).maxPayloadBytes.toNat = 18446744073709551615 ∧
      (Client.ofEnvironment env).timeout = 30000 ∧
      (Settings.ofEnvironment env).dedup = (Settings.ofEnvironment fun _ => none).dedup ∧
      Settings.ofEnvironment s.toEnvironment = s := by
  intro env s
  obtain ⟨⟨dedup, -⟩, numbers, settings⟩ := variables_read_exactly
  obtain ⟨limit, -, -, timeout⟩ := numbers env
  have hlimit : env.Gives Settings.limitVariable 18446744073709551615 :=
    ⟨_, rfl, "00018446744073709551615".toList, by decide, by decide,
      List.all_iff_forall_prop.1 (by decide), by decide⟩
  have htimeout : env.word? Client.timeoutVariable = none := by
    rw [word?, text?_bytes rfl]
    decide
  refine ⟨limit _ (by decide) hlimit, timeout fun n hn _ => (word?_eq_none_iff ..).1 htimeout n hn, dedup _ _ rfl,
    settings s fun p hp => ?_⟩
  obtain rfl : "/tmp/função" = p := by simpa [s] using hp
  exact ⟨by decide, by decide⟩

end Environment

end ContractWatch
