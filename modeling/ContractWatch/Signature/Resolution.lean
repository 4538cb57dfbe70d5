import ContractWatch.Signature.Table

/-!
Constants looked up in a table. Each is either matched, once for every signature it has, or unresolved.
-/

namespace ContractWatch.Signature

structure Match where
  text : String
  hex : String
  deriving DecidableEq

namespace Match

def keys : List String := ["text", "hex"]

def toJson (m : Match) : Json := .record [("text", .text m.text), ("hex", .text m.hex)]

def ofJson? (v : Json) : Option Match := do
  match ← v.members? keys 0 with
  | [some text, some hex] => return { text := ← text.asText?, hex := ← hex.asText? }
  | _ => none

end Match

structure Resolution where
  found : List Match
  unresolved : List String
  deriving DecidableEq

namespace Resolution

def empty : Resolution := ⟨[], []⟩

def keys : List String := ["matched", "unresolved"]

def toJson (r : Resolution) : Json :=
  .record [("matched", .list (r.found.map Match.toJson)), ("unresolved", .texts r.unresolved)]

def ofJson? (v : Json) : Option Resolution := do
  match ← v.members? keys 0 with
  | [some found, some unresolved] =>
    return { found := ← found.asList? Match.ofJson?, unresolved := ← unresolved.asList? Json.asText? }
  | _ => none

end Resolution

/-- Constants keep their order and their spelling, signatures the order of the table. -/
def Table.resolve (t : Table) : List String → Resolution
  | [] => .empty
  | hex :: rest =>
    let r := t.resolve rest
    match t.lookup hex with
    | [] => { r with unresolved := hex :: r.unresolved }
    | signatures => { r with found := signatures.map (⟨·, hex⟩) ++ r.found }

end ContractWatch.Signature
