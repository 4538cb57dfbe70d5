import ContractWatch.Failure
import ContractWatch.Json.Parser
import ContractWatch.Json.Shape
import ContractWatch.Keccak
import ContractWatch.Signature.Known.Events
import ContractWatch.Signature.Known.Functions
import ContractWatch.Text.Hex
import ContractWatch.Text.Utf8

/-!
Tables of readable signatures under the normal form of their hexadecimal constant. Keys with one normal form
are one key, under which the signatures stand in the order in which they were entered.
-/

namespace ContractWatch.Signature

/-- The constant of a function signature, as its four bytes spell it. -/
def selector (signature : String) : String := Hex.text ((Keccak.hash (Utf8.bytes signature)).take 4)

/-- The constant of an event signature. -/
def topic (signature : String) : String := Hex.text (Keccak.hash (Utf8.bytes signature))

abbrev Entry := String × List String

/-- Puts signatures behind those of the key, or the key behind the others. -/
def extend (k : String) (ss : List String) : List Entry → List Entry
  | [] => [(k, ss)]
  | (k', ss') :: es => if k' = k then (k', ss' ++ ss) :: es else (k', ss') :: extend k ss es

theorem extend_keys (k : String) (ss : List String) (es : List Entry) :
    (extend k ss es).map (·.1) = if k ∈ es.map (·.1) then es.map (·.1) else es.map (·.1) ++ [k] := by
  induction es with
  | nil => simp [extend]
  | cons e es ih =>
    obtain ⟨k', ss'⟩ := e
    by_cases h : k' = k
    · simp [extend, h]
    · simp only [extend, h, if_false, List.map_cons, ih, List.mem_cons]
      by_cases hk : k ∈ es.map (·.1) <;> simp [hk, Ne.symm h]

structure Table where
  entries : List Entry
  keys_nodup : (entries.map (·.1)).Nodup

namespace Table

def empty : Table := ⟨[], by simp⟩

/-- Enters signatures under the normal form of a key. -/
def add (t : Table) (e : Entry) : Table where
  entries := extend (Hex.normalText e.1) e.2 t.entries
  keys_nodup := by
    rw [extend_keys]
    split
    · exact t.keys_nodup
    · rename_i h
      rw [List.nodup_append]
      exact ⟨t.keys_nodup, by simp, fun a ha b hb => by
        simp only [List.mem_singleton] at hb
        rintro rfl
        exact h (hb ▸ ha)⟩

def ofEntries (es : List Entry) : Table := es.foldl add empty

def size (t : Table) : Nat := t.entries.length

def isEmpty (t : Table) : Bool := t.entries.isEmpty

/-- The signatures under the normal form of a text, none where there is no such key. -/
def lookup (t : Table) (hex : String) : List String :=
  (t.entries.lookup (Hex.normalText hex)).getD []

/-- Puts an entry in the place of an earlier one with exactly its key, or behind the others. -/
def replace (e : Entry) : List Entry → List Entry
  | [] => [e]
  | e' :: es => if e'.1 = e.1 then e :: es else e' :: replace e es

/-- Of entries with exactly one key, the place of the first and the value of the last. -/
def collapse (es : List Entry) : List Entry := es.foldl (fun done e => replace e done) []

def entry? (m : String × Json) : Option Entry := (m.2.asList? Json.asText?).map fun ss => (m.1, ss)

/-- Reads an object whose members are lists of signatures. -/
def ofJson? : Json → Option Table
  | .record ms => (ms.mapM entry?).map fun es => ofEntries (collapse es)
  | _ => none

def unreadable : Failure := ⟨.decode, "dicionário de assinaturas inválido"⟩

def ofText (s : String) : Except Failure Table :=
  match (Json.parseText s).bind ofJson? with
  | some t => .ok t
  | none => .error unreadable

def knownFunctions : Table := ofEntries Known.functions

def knownEvents : Table := ofEntries Known.events

end Table

/-- What a path may lead to. -/
inductive StoredFile
  | missing
  | directory
  | content (bytes : List UInt8)

namespace StoredFile

def text : StoredFile → Except Failure String
  | .missing => .error ⟨.io, "No such file or directory (os error 2)"⟩
  | .directory => .error ⟨.io, "Is a directory (os error 21)"⟩
  | .content bs =>
    match Utf8.decode? bs with
    | some s => .ok s
    | none => .error ⟨.io, "stream did not contain valid UTF-8"⟩

def table (f : StoredFile) : Except Failure Table := f.text.bind Table.ofText

end StoredFile

/-- The tables of functions and of events. -/
structure Tables where
  functions : Table
  events : Table

/-- The tables in the given files, or the known signatures where there is no file. Functions are read first. -/
def Tables.load (functions events : Option StoredFile) : Except Failure Tables := do
  let functions ← functions.elim (.ok Table.knownFunctions) StoredFile.table
  let events ← events.elim (.ok Table.knownEvents) StoredFile.table
  return ⟨functions, events⟩

end ContractWatch.Signature
