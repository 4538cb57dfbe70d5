import ContractWatch.Json.Shape
import ContractWatch.Text.Blank
import ContractWatch.Text.Decimal
import ContractWatch.Time.Instant

/-!
Instants as RFC 3339 text. They are written in universal time with the fewest of 0, 3, 6 and 9 digits that hold
the fraction. The reader is lenient: numbers may have fewer digits and blanks in front, a year may have a
sign and then any number of digits, and digits after the ninth of a fraction are dropped.
-/

namespace ContractWatch.Rfc3339

/-! ### Writing -/

/-- Four digits, or a sign and at least four outside the years 0 to 9999. -/
def yearChars (y : Int) : List Char :=
  if 0 ≤ y ∧ y ≤ 9999 then Decimal.padded 4 y.natAbs
  else (if y < 0 then '-' else '+') :: Decimal.padded 4 y.natAbs

def fractionChars (nano : Nat) : List Char :=
  if nano = 0 then []
  else if nano % 1000000 = 0 then '.' :: Decimal.padded 3 (nano / 1000000)
  else if nano % 1000 = 0 then '.' :: Decimal.padded 6 (nano / 1000)
  else '.' :: Decimal.padded 9 nano

def chars (t : Instant) : List Char :=
  yearChars t.date.year ++ '-' :: Decimal.padded 2 t.date.month ++ '-' :: Decimal.padded 2 t.date.day ++
    'T' :: Decimal.padded 2 t.hour ++ ':' :: Decimal.padded 2 t.minute ++ ':' :: Decimal.padded 2 t.second ++
    fractionChars t.nano ++ ['Z']

def text (t : Instant) : String := String.ofList (chars t)

/-! ### Reading -/

abbrev Reader (α : Type) := List Char → Option (α × List Char)

/-- One digit and as many more as there are, `most` in all. -/
def number (most : Nat) : Reader Nat := fun cs =>
  match (cs.take most).takeWhile Decimal.isDigit with
  | [] => none
  | ds => some (Decimal.value ds, cs.drop ds.length)

def field (most : Nat) : Reader Nat := fun cs => number most (Text.trimLeft cs)

def year : Reader Int := fun cs =>
  match Text.trimLeft cs with
  | '-' :: r => (number r.length r).map fun (n, r) => (-(n : Int), r)
  | '+' :: r => (number r.length r).map fun (n, r) => ((n : Int), r)
  | r => (number 4 r).map fun (n, r) => ((n : Int), r)

/-- The mark, possibly after blanks. -/
def mark (c : Char) : Reader Unit := fun cs =>
  match Text.trimLeft cs with
  | d :: r => if d = c then some ((), r) else none
  | [] => none

/-- What stands between the date and the time. -/
def divider : Reader Unit
  | c :: r => if c = 'T' ∨ c = 't' ∨ c = ' ' then some ((), r) else none
  | [] => none

/-- Billionths of a second. -/
def fraction : Reader Nat
  | '.' :: r =>
    match number 9 r with
    | some (n, rest) =>
      let used := r.length - rest.length
      some (n * Nat.pow 10 (9 - used), rest.dropWhile Decimal.isDigit)
    | none => none
  | r => some (0, r)

def two? : Reader Nat
  | a :: b :: r =>
    if Decimal.isDigit a ∧ Decimal.isDigit b then some (Decimal.value [a, b], r) else none
  | _ => none

def isZulu (a b c : Char) : Bool := a.toUpper = 'U' && b.toUpper = 'T' && c.toUpper = 'C'

/-- Minutes by which the clock is ahead of universal time. -/
def offset : Reader Int := fun cs =>
  match Text.trimLeft cs with
  | 'Z' :: r => some (0, r)
  | 'z' :: r => some (0, r)
  | '+' :: r => ahead 1 r
  | '-' :: r => ahead (-1) r
  | '−' :: r => ahead (-1) r
  | a :: b :: c :: r => if isZulu a b c then some (0, r) else none
  | _ => none
where
  ahead (sign : Int) (cs : List Char) : Option (Int × List Char) := do
    let (hours, r) ← two? cs
    let (minutes, r) ← two? (r.dropWhile fun c => c = ':' || Text.isBlank c)
    if hours < 24 ∧ minutes < 60 then some (sign * (hours * 60 + minutes), r) else none

/-- The same point of time on a clock that is not ahead. -/
def toUniversal (d : Date) (hour minute second nano : Nat) (ahead : Int) : Option Instant :=
  let m : Int := hour * 60 + minute - ahead
  let d := if m < 0 then d.previous else if 1440 ≤ m then d.next else d
  let m := (m % 1440).toNat
  Instant.of? d (m / 60) (m % 60) second nano

def read? (cs : List Char) : Option Instant := do
  let (y, r) ← year cs
  let (_, r) ← mark '-' r
  let (month, r) ← field 2 r
  let (_, r) ← mark '-' r
  let (day, r) ← field 2 r
  let (_, r) ← divider r
  let (hour, r) ← field 2 r
  let (_, r) ← mark ':' r
  let (minute, r) ← field 2 r
  let (_, r) ← mark ':' r
  let (second, r) ← field 2 r
  let (nano, r) ← fraction r
  let (ahead, r) ← offset r
  let clock ← Instant.of? ⟨y, month, day⟩ hour minute second nano
  if (Text.trimLeft r).isEmpty then
    toUniversal clock.date clock.hour clock.minute clock.second clock.nano ahead
  else none

def toJson (t : Instant) : Json := .text (text t)

def ofJson? (v : Json) : Option Instant := v.asText?.bind fun s => read? s.toList

end ContractWatch.Rfc3339
