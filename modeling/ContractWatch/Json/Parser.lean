import ContractWatch.Json.Basic
import ContractWatch.Text.Decimal
import ContractWatch.Text.Hex

/-!
Strict JSON text, read into values. Nothing may follow the value but blanks.
-/

namespace ContractWatch.Json.Parser

def isBlank (c : Char) : Bool := c = ' ' || c = '\t' || c = '\n' || c = '\r'

def skip (cs : List Char) : List Char := cs.dropWhile isBlank

/-! ### Strings -/

def unit? (a b c d : Char) : Option Nat :=
  match Hex.digit? a, Hex.digit? b, Hex.digit? c, Hex.digit? d with
  | some w, some x, some y, some z => some (((w * 16 + x) * 16 + y) * 16 + z)
  | _, _, _, _ => none

def isHigh (u : Nat) : Bool := 0xd800 ≤ u && u < 0xdc00

def isLow (u : Nat) : Bool := 0xdc00 ≤ u && u < 0xe000

def paired (high low : Nat) : Char :=
  Char.ofNat (0x10000 + (high - 0xd800) * 0x400 + (low - 0xdc00))

def escaped? (c : Char) : Option Char :=
  match c with
  | '"' => some '"'
  | '\\' => some '\\'
  | '/' => some '/'
  | 'b' => some '\x08'
  | 'f' => some '\x0c'
  | 'n' => some '\n'
  | 'r' => some '\r'
  | 't' => some '\t'
  | _ => none

/-- A low surrogate written out next, if there is one, and what follows it. -/
def low? : List Char → Option (Nat × List Char)
  | '\\' :: 'u' :: a :: b :: c :: d :: cs =>
    match unit? a b c d with
    | some u => if isLow u then some (u, cs) else none
    | none => none
  | _ => none

theorem low?_length {cs rest : List Char} {u : Nat} (h : low? cs = some (u, rest)) :
    rest.length < cs.length := by
  unfold low? at h
  split at h
  · split at h
    · split at h
      · simp only [Option.some.injEq, Prod.mk.injEq] at h
        obtain ⟨-, rfl⟩ := h
        simp only [List.length_cons]
        omega
      · cases h
    · cases h
  · cases h

/-- The rest of a string after its opening quote. `acc` holds what was read, last character first, and
`whole` is false once half a surrogate pair was among it. -/
def string (acc : List Char) (whole : Bool) : List Char → Option (Option String × List Char)
  | [] => none
  | '"' :: cs => some (if whole then some (String.ofList acc.reverse) else none, cs)
  | '\\' :: 'u' :: a :: b :: c :: d :: cs =>
    match unit? a b c d with
    | none => none
    | some u =>
      if isHigh u then
        match _h : low? cs with
        | some (l, cs') => string (paired u l :: acc) whole cs'
        | none => string acc false cs
      else if isLow u then string acc false cs
      else string (Char.ofNat u :: acc) whole cs
  | '\\' :: e :: cs =>
    match escaped? e with
    | some c => string (c :: acc) whole cs
    | none => none
  | c :: cs => if c.toNat < 0x20 then none else string (c :: acc) whole cs
termination_by cs => cs.length
decreasing_by
  all_goals simp only [List.length_cons]
  all_goals first | omega | exact Nat.lt_of_lt_of_le (low?_length _h) (by omega)

/-! ### Numbers -/

def digits (cs : List Char) : List Char × List Char := (cs.takeWhile Decimal.isDigit, cs.dropWhile Decimal.isDigit)

/-- The digits before the point: a zero, or digits that begin with none. -/
def whole? : List Char → Option (List Char × List Char)
  | '0' :: cs => some (['0'], cs)
  | cs =>
    match digits cs with
    | ([], _) => none
    | found => some found

/-- The digits after a point. Without a point there are none. -/
def fraction? : List Char → Option (List Char × List Char)
  | '.' :: cs =>
    match digits cs with
    | ([], _) => none
    | found => some found
  | cs => some ([], cs)

/-- The exponent, if there is one. -/
def exponent? : List Char → Option (Option Int × List Char)
  | 'e' :: cs => signed cs
  | 'E' :: cs => signed cs
  | cs => some (none, cs)
where
  signed : List Char → Option (Option Int × List Char)
    | '+' :: cs => unsigned 1 cs
    | '-' :: cs => unsigned (-1) cs
    | cs => unsigned 1 cs
  unsigned (sign : Int) (cs : List Char) : Option (Option Int × List Char) :=
    match digits cs with
    | ([], _) => none
    | (ds, cs) => some (some (sign * Decimal.value ds), cs)

/-- Whether `m * 10 ^ e` rounds to infinity as a double. -/
def isHuge (m : Nat) (e : Int) : Bool :=
  if m = 0 then false
  else
    let place := (Decimal.digits m).length + e
    if place > 310 then true
    else if place < 300 then false
    else if 0 ≤ e then Nat.pow 2 1024 - Nat.pow 2 970 ≤ m * Nat.pow 10 e.toNat
    else (Nat.pow 2 1024 - Nat.pow 2 970) * Nat.pow 10 (-e).toNat ≤ m

/-- The value of a number spelled by the given parts. -/
def numberValue (negative : Bool) (ds fs : List Char) (e : Option Int) (spelling : List Char) : Json :=
  let m := Decimal.value ds
  let n : Int := if negative then -m else m
  if fs.isEmpty ∧ e.isNone ∧ -0x8000000000000000 ≤ n ∧ n < 0x10000000000000000 ∧ !(negative ∧ m = 0) then .int n
  else if isHuge (Decimal.value (ds ++ fs)) (e.getD 0 - fs.length) then .garbled
  else .real (String.ofList spelling)

def number (cs : List Char) : Option (Json × List Char) :=
  let (negative, body) := match cs with
    | '-' :: r => (true, r)
    | r => (false, r)
  match whole? body with
  | none => none
  | some (ds, r) =>
    match fraction? r with
    | none => none
    | some (fs, r) =>
      match exponent? r with
      | none => none
      | some (e, r) => some (numberValue negative ds fs e (cs.take (cs.length - r.length)), r)

/-! ### Values -/

mutual

/-- A value at the head of the text, and what follows it. Every level of nesting and every further item
takes one unit of fuel. -/
def value : Nat → List Char → Option (Json × List Char)
  | 0, _ => none
  | fuel + 1, cs =>
    match skip cs with
    | 'n' :: 'u' :: 'l' :: 'l' :: r => some (.null, r)
    | 't' :: 'r' :: 'u' :: 'e' :: r => some (.bool true, r)
    | 'f' :: 'a' :: 'l' :: 's' :: 'e' :: r => some (.bool false, r)
    | '"' :: r =>
      match string [] true r with
      | some (some s, r) => some (.text s, r)
      | some (none, r) => some (.garbled, r)
      | none => none
    | '[' :: r =>
      match skip r with
      | ']' :: r => some (.list [], r)
      | _ => items fuel [] r
    | '{' :: r =>
      match skip r with
      | '}' :: r => some (.record [], r)
      | _ => members fuel [] true r
    | r => number r

/-- The items up to the closing bracket, after those in `acc`. -/
def items : Nat → List Json → List Char → Option (Json × List Char)
  | 0, _, _ => none
  | fuel + 1, acc, cs =>
    match value fuel cs with
    | none => none
    | some (v, r) =>
      match skip r with
      | ',' :: r => items fuel (v :: acc) r
      | ']' :: r => some (.list (v :: acc).reverse, r)
      | _ => none

/-- The members up to the closing brace, after those in `acc`. `whole` is false once a key was garbled. -/
def members : Nat → List (String × Json) → Bool → List Char → Option (Json × List Char)
  | 0, _, _, _ => none
  | fuel + 1, acc, whole, cs =>
    match skip cs with
    | '"' :: r =>
      match string [] true r with
      | none => none
      | some (key, r) =>
        match skip r with
        | ':' :: r =>
          match value fuel r with
          | none => none
          | some (v, r) =>
            let acc := (key.getD "", v) :: acc
            let whole := whole && key.isSome
            match skip r with
            | ',' :: r => members fuel acc whole r
            | '}' :: r => some (if whole then .record acc.reverse else .garbled, r)
            | _ => none
        | _ => none
    | _ => none

end

end Parser

/-- The value that a text spells, with nothing but blanks around it. -/
def parse (cs : List Char) : Option Json :=
  match Parser.value (2 * cs.length + 2) cs with
  | some (v, r) => if (Parser.skip r).isEmpty then some v else none
  | none => none

def parseText (s : String) : Option Json := parse s.toList

end ContractWatch.Json
