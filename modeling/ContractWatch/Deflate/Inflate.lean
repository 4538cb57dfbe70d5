import ContractWatch.Deflate.Lengths
import ContractWatch.Deflate.Token

/-!
Reading deflated data, block by block.
-/

namespace ContractWatch.Deflate

/-- A number of the range that belongs to a symbol. -/
def readRange (ranges : List Range) (s : Nat) (r : Reader) : Except Fault (Nat × Reader) :=
  match ranges[s]? with
  | none => .error .corrupt
  | some x =>
    match r.nat x.extra with
    | .error e => .error e
    | .ok (n, r) => .ok (x.base + n, r)

/-- The next token of a block, none at its end. -/
def readToken (codes : Codes) (r : Reader) : Except Fault (Option Token × Reader) :=
  match codes.literals.read r with
  | .error e => .error e
  | .ok (s, r) =>
    if s < endSymbol then .ok (some (.literal (UInt8.ofNat s)), r)
    else if s = endSymbol then .ok (none, r)
    else
      match readRange lengthRanges (s - firstLengthSymbol) r with
      | .error e => .error e
      | .ok (length, r) =>
        match codes.distances.read r with
        | .error e => .error e
        | .ok (d, r) =>
          match readRange distanceRanges d r with
          | .error e => .error e
          | .ok (distance, r) => .ok (some (.copy length distance), r)

/-- The tokens of a block, added to what is there. Every token takes a bit at least. -/
def inflateTokens (codes : Codes) : (fuel : Nat) → Reader → Array UInt8 → Except Fault (Array UInt8 × Reader)
  | 0, _, _ => .error .incomplete
  | fuel + 1, r, out =>
    match readToken codes r with
    | .error e => .error e
    | .ok (none, r) => .ok (out, r)
    | .ok (some t, r) => inflateTokens codes fuel r (t.replay out)

def littleEndian (bs : List UInt8) : Nat := bs.foldr (fun b n => b.toNat + 256 * n) 0

/-- A block of plain bytes, whose count is written twice, once inverted. -/
def inflateStored (r : Reader) (out : Array UInt8) : Except Fault (Array UInt8 × Reader) :=
  match r.take 4 with
  | .error e => .error e
  | .ok (head, r) =>
    let length := littleEndian (head.take 2)
    if length + littleEndian (head.drop 2) ≠ 65535 then .error .corrupt
    else
      match r.take length with
      | .error e => .error e
      | .ok (bs, r) => .ok (bs.foldl Array.push out, r)

def inflateBlock (fuel kind : Nat) (r : Reader) (out : Array UInt8) : Except Fault (Array UInt8 × Reader) :=
  match kind with
  | 0 => inflateStored r out
  | 1 => inflateTokens .fixed fuel r out
  | 2 =>
    match readCodes r with
    | .error e => .error e
    | .ok (codes, r) => inflateTokens codes fuel r out
  | _ => .error .corrupt

/-- The blocks up to the last one, none of them with more than `limit` tokens. Every block takes a bit at least. -/
def inflateBlocks (limit : Nat) : (fuel : Nat) → Reader → Array UInt8 → Except Fault (Array UInt8 × Reader)
  | 0, _, _ => .error .incomplete
  | fuel + 1, r, out =>
    match r.nat 1 with
    | .error e => .error e
    | .ok (last, r) =>
      match r.nat 2 with
      | .error e => .error e
      | .ok (kind, r) =>
        match inflateBlock limit kind r out with
        | .error e => .error e
        | .ok (out, r) => if last = 1 then .ok (out, r) else inflateBlocks limit fuel r out

/-- The data and the bytes that follow it. -/
def inflate (bs : List UInt8) : Except Fault (List UInt8 × List UInt8) :=
  let limit := 8 * bs.length + 1
  match inflateBlocks limit limit (.ofBytes bs) #[] with
  | .error e => .error e
  | .ok (out, r) => .ok (out.toList, r.bytes)

end ContractWatch.Deflate
