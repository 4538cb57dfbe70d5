import ContractWatch.Text.Decimal

/-!
Labels of host names spelled in ASCII. The characters outside of ASCII stand behind the last hyphen as numbers,
one for each, which give its code point and place relative to those of the one before.
-/

namespace ContractWatch.Host.Punycode

def digit? (c : Char) : Option Nat :=
  if 'a' ≤ c ∧ c ≤ 'z' then some (c.toNat - 'a'.toNat)
  else if '0' ≤ c ∧ c ≤ '9' then some (c.toNat - '0'.toNat + 26)
  else none

def base : Nat := 36

/-- A digit below the threshold is the last of its number. -/
def threshold (bias k : Nat) : Nat := if k ≤ bias then 1 else if bias + 26 ≤ k then 26 else k - bias

/-- No number on the way is larger. -/
def limit : Nat := 0x100000000

/-- Adds to `n` the number at the head of the text, lowest digit first. -/
def add? (bias k weight n : Nat) : List Char → Option (Nat × List Char)
  | [] => none
  | c :: cs =>
    match digit? c with
    | none => none
    | some d =>
      let n := n + d * weight
      let weight' := weight * (base - threshold bias k)
      if limit ≤ n then none
      else if d < threshold bias k then some (n, cs)
      else if limit ≤ weight' then none
      else add? bias (k + base) weight' n cs

theorem add?_length {bias k weight n : Nat} {cs : List Char} {r : Nat × List Char}
    (h : add? bias k weight n cs = some r) : r.2.length < cs.length := by
  induction cs generalizing k weight n with
  | nil => simp [add?] at h
  | cons c cs ih =>
    simp only [add?] at h
    split at h
    · simp at h
    · split at h
      · simp at h
      · split at h
        · simp only [Option.some.injEq] at h
          simp [← h]
        · split at h
          · simp at h
          · exact Nat.lt_succ_of_lt (ih h)

/-- Brings the size of a number down to that of its last digit but one. -/
def scale (delta k : Nat) : Nat :=
  if 455 < delta then scale (delta / (base - 1)) (k + base) else k + base * delta / (delta + 38)
termination_by delta
decreasing_by exact Nat.div_lt_self (by omega) (by decide)

/-- The bias that suits numbers like `delta`, read when there were `count` characters. -/
def adapt (delta count : Nat) (isFirst : Bool) : Nat :=
  let delta := if isFirst then delta / 700 else delta / 2
  scale (delta + delta / count) 0

/-- Puts one character after the other into `acc`. `n` is where the next number counts from. -/
def insertAll (bias point n : Nat) (acc : List Char) (cs : List Char) : Option (List Char) :=
  if cs.isEmpty then some acc
  else
    match _h : add? bias base 1 n cs with
    | none => none
    | some (m, rest) =>
      let count := acc.length + 1
      let point := point + m / count
      if point.isValidChar then
        insertAll (adapt (m - n) count (n = 0)) point (m % count + 1)
          (acc.take (m % count) ++ Char.ofNat point :: acc.drop (m % count)) rest
      else none
termination_by cs.length
decreasing_by exact add?_length _h

/-- The characters before the last hyphen, and those behind it. A hyphen with nothing before it is no such
hyphen. -/
def split (cs : List Char) : List Char × List Char :=
  let tail := (cs.reverse.takeWhile (· ≠ '-')).reverse
  match cs.take (cs.length - tail.length - 1) with
  | [] => ([], cs)
  | head => (head, tail)

def decode? (cs : List Char) : Option (List Char) :=
  let (head, tail) := split cs
  insertAll 72 128 0 head tail

end ContractWatch.Host.Punycode
