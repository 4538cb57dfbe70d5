import ContractWatch.Json.Basic
import ContractWatch.Text.Decimal
import ContractWatch.Text.Hex

/-!
JSON text without blanks. `write` extends a text, `chars` is the text of a value on its own, and
`write_toList` says that they agree.
-/

namespace ContractWatch.Json

/-- Quotes, backslashes and controls are escaped, by their short names where they have one. -/
def escape (c : Char) : List Char :=
  if c = '"' then ['\\', '"']
  else if c = '\\' then ['\\', '\\']
  else if c = '\x08' then ['\\', 'b']
  else if c = '\x0c' then ['\\', 'f']
  else if c = '\n' then ['\\', 'n']
  else if c = '\r' then ['\\', 'r']
  else if c = '\t' then ['\\', 't']
  else if c.toNat < 0x20 then '\\' :: 'u' :: '0' :: '0' :: Hex.pair (UInt8.ofNat c.toNat)
  else [c]

def quoted (s : String) : List Char := '"' :: (s.toList.flatMap escape ++ ['"'])

def atomChars : Json → List Char
  | .null => "null".toList
  | .bool true => "true".toList
  | .bool false => "false".toList
  | .int n => Decimal.intDigits n
  | .real s => s.toList
  | .text s => quoted s
  | _ => "null".toList

mutual

def chars : Json → List Char
  | .list [] => ['[', ']']
  | .list (x :: xs) => '[' :: (x.chars ++ itemsChars xs)
  | .record [] => ['{', '}']
  | .record ((k, v) :: ms) => '{' :: (quoted k ++ ':' :: (v.chars ++ membersChars ms))
  | v => atomChars v

def itemsChars : List Json → List Char
  | [] => [']']
  | x :: xs => ',' :: (x.chars ++ itemsChars xs)

def membersChars : List (String × Json) → List Char
  | [] => ['}']
  | (k, v) :: ms => ',' :: (quoted k ++ ':' :: (v.chars ++ membersChars ms))

end

def push (acc : String) (cs : List Char) : String := acc ++ String.ofList cs

mutual

def write (acc : String) : Json → String
  | .list [] => push acc ['[', ']']
  | .list (x :: xs) => writeItems (write (acc.push '[') x) xs
  | .record [] => push acc ['{', '}']
  | .record ((k, v) :: ms) => writeMembers (write ((push (acc.push '{') (quoted k)).push ':') v) ms
  | v => push acc (atomChars v)

def writeItems (acc : String) : List Json → String
  | [] => acc.push ']'
  | x :: xs => writeItems (write (acc.push ',') x) xs

def writeMembers (acc : String) : List (String × Json) → String
  | [] => acc.push '}'
  | (k, v) :: ms => writeMembers (write ((push (acc.push ',') (quoted k)).push ':') v) ms

end

/-- The text of a value. -/
def render (v : Json) : String := write "" v

@[simp] theorem push_toList (acc : String) (cs : List Char) :
    (push acc cs).toList = acc.toList ++ cs := by simp [push]

mutual

theorem write_toList (acc : String) (v : Json) : (write acc v).toList = acc.toList ++ v.chars := by
  match v with
  | .null | .bool _ | .int _ | .real _ | .text _ | .garbled => simp [write, chars]
  | .list [] => simp [write, chars]
  | .list (x :: xs) => simp [write, chars, writeItems_toList, write_toList]
  | .record [] => simp [write, chars]
  | .record ((k, v) :: ms) => simp [write, chars, writeMembers_toList, write_toList]

theorem writeItems_toList (acc : String) (xs : List Json) :
    (writeItems acc xs).toList = acc.toList ++ itemsChars xs := by
  match xs with
  | [] => simp [writeItems, itemsChars]
  | x :: xs => simp [writeItems, itemsChars, writeItems_toList, write_toList]

theorem writeMembers_toList (acc : String) (ms : List (String × Json)) :
    (writeMembers acc ms).toList = acc.toList ++ membersChars ms := by
  match ms with
  | [] => simp [writeMembers, membersChars]
  | (k, v) :: ms => simp [writeMembers, membersChars, writeMembers_toList, write_toList]

end

theorem render_toList (v : Json) : v.render.toList = v.chars := by
  simp [render, write_toList]

end ContractWatch.Json
