import ContractWatch.Json.Parser

/-!
Values whose shape is free. They are kept with the members of every object in order of their keys, and a text
that was embedded in place of a value is read.
-/

namespace ContractWatch.Json

/-- Puts a member into members sorted by key, in place of one with the same key. -/
def insert (k : String) (v : Json) : List (String × Json) → List (String × Json)
  | [] => [(k, v)]
  | (k', v') :: ms =>
    if k < k' then (k, v) :: (k', v') :: ms
    else if k = k' then (k, v) :: ms
    else (k', v') :: insert k v ms

/-- An object whose first key this is holds nothing else than a value written out as text. -/
def embeddingKey : String := "$serde_json::private::RawValue"

def isEmbedding : List (String × Json) → Bool
  | (k, _) :: _ => k = embeddingKey
  | [] => false

def embeddedText? : List (String × Json) → Option String
  | [(_, .text s)] => some s
  | _ => none

/-- The value with the members of every object sorted by key, the last of equal keys kept, and with `read` of
the text for every embedding. A value with a garbled part has no such form. -/
def canonicalWith? (read : String → Option Json) : Json → Option Json
  | .null => some .null
  | .bool b => some (.bool b)
  | .int n => some (.int n)
  | .real s => some (.real s)
  | .text s => some (.text s)
  | .list xs => (list? xs).map .list
  | .record ms => if isEmbedding ms then (embeddedText? ms).bind read else (record? [] ms).map .record
  | .garbled => none
where
  list? : List Json → Option (List Json)
    | [] => some []
    | x :: xs =>
      match canonicalWith? read x, list? xs with
      | some y, some ys => some (y :: ys)
      | _, _ => none
  record? (sorted : List (String × Json)) : List (String × Json) → Option (List (String × Json))
    | [] => some sorted
    | (k, v) :: ms =>
      match canonicalWith? read v with
      | some w => record? (insert k w sorted) ms
      | none => none

/-- Levels of nesting that a text may have. -/
def maxDepth : Nat := 127

/-- The value of an embedded text. A text inside it is shorter by more than one character, so that its length
is fuel enough. -/
def embedded? : Nat → String → Option Json
  | 0, _ => none
  | fuel + 1, s => (parseText s).bind fun v => if v.depth ≤ maxDepth then canonicalWith? (embedded? fuel) v else none

def canonical? (v : Json) : Option Json := canonicalWith? (fun s => embedded? (s.length + 1) s) v

end ContractWatch.Json
