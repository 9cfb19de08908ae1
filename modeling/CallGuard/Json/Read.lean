import CallGuard.Json.Numeral

/-! Reading JSON from bytes. Nesting is limited, the last member of a key stays, and the
first fault of the text is told with its place: just after what was read when a byte is
wrong, or one byte further when the next byte is what is wrong. -/

namespace CallGuard.Json

def isBlank (b : UInt8) : Bool := b = 32 || b = 10 || b = 9 || b = 13

def skipBlanks (bs : Bytes) : Bytes := bs.dropWhile isBlank

/-- The rest of a word whose first letter is read. -/
def word (v : Json) : Bytes → Bytes → Except Failure (Json × Bytes)
  | [], bs => .ok (v, bs)
  | _ :: _, [] => failAt .unfinishedValue []
  | w :: ws, b :: bs => if b = w then word v ws bs else failAt .noWord bs

/-! ### Strings -/

def hexValue? (b : UInt8) : Option Nat := Text.Numeral.digit? (Char.ofNat b.toNat)

/-- Four hexadecimal digits. -/
def hexQuad : Bytes → Except Failure (Nat × Bytes)
  | a :: b :: c :: d :: rest =>
    match [a, b, c, d].mapM hexValue? with
    | some ds => .ok (ds.foldl (fun n d => n * 16 + d) 0, rest)
    | none => failAt .badEscape rest
  | _ => failAt .unfinishedText []

/-- The bytes of a code point. -/
def encode (code : Nat) : Bytes := (String.singleton (Char.ofNat code)).toUTF8.data.toList

/-- The second half of a surrogate pair. -/
def lowSurrogate (high : Nat) : Bytes → Except Failure (Bytes × Bytes)
  | 92 :: 117 :: rest => do
    let (low, rest) ← hexQuad rest
    if 0xDC00 ≤ low ∧ low ≤ 0xDFFF then
      .ok (encode ((high - 0xD800) * 0x400 + (low - 0xDC00) + 0x10000), rest)
    else failAt .loneSurrogate rest
  | [] => failAt .unfinishedText []
  | [92] => failAt .unfinishedText []
  | 92 :: _ :: rest => failAt .halfSurrogatePair rest
  | _ :: rest => failAt .halfSurrogatePair rest

/-- A code point after `\u`. -/
def codePoint (bs : Bytes) : Except Failure (Bytes × Bytes) := do
  let (n, rest) ← hexQuad bs
  if 0xDC00 ≤ n ∧ n ≤ 0xDFFF then failAt .loneSurrogate rest
  else if 0xD800 ≤ n ∧ n ≤ 0xDBFF then lowSurrogate n rest
  else .ok (encode n, rest)

/-- What an escape after its backslash stands for. -/
def escape : Bytes → Except Failure (Bytes × Bytes)
  | [] => failAt .unfinishedText []
  | 34 :: rest => .ok ([34], rest)
  | 92 :: rest => .ok ([92], rest)
  | 47 :: rest => .ok ([47], rest)
  | 98 :: rest => .ok ([8], rest)
  | 102 :: rest => .ok ([12], rest)
  | 110 :: rest => .ok ([10], rest)
  | 114 :: rest => .ok ([13], rest)
  | 116 :: rest => .ok ([9], rest)
  | 117 :: rest => codePoint rest
  | _ :: rest => failAt .badEscape rest

/-- The bytes of a string after its opening quote; the bound on steps is more than the bytes. -/
def stringBytes : Nat → Bytes → Except Failure (Bytes × Bytes)
  | 0, bs => failAt .unfinishedText bs
  | _ + 1, [] => failAt .unfinishedText []
  | fuel + 1, b :: rest =>
    if b = 34 then .ok ([], rest)
    else if b = 92 then do
      let (part, rest) ← escape rest
      let (parts, rest) ← stringBytes fuel rest
      return (part ++ parts, rest)
    else if b < 32 then failAt .controlCharacter rest
    else do
      let (parts, rest) ← stringBytes fuel rest
      return (b :: parts, rest)

/-- A string after its opening quote. -/
def string (bs : Bytes) : Except Failure (String × Bytes) := do
  let (parts, rest) ← stringBytes (bs.length + 1) bs
  match String.fromUTF8? ⟨parts.toArray⟩ with
  | some s => .ok (s, rest)
  | none => failAt .badText rest

/-! ### Values -/

/-- Levels of arrays and objects that may nest. -/
def maxDepth : Nat := 127

mutual

/-- A value within so many further levels; the bound on steps is more than twice the bytes. -/
def value (fuel depth : Nat) (bs : Bytes) : Except Failure (Json × Bytes) :=
  match fuel with
  | 0 => failAt .noValue bs
  | fuel + 1 =>
    let bs := skipBlanks bs
    match bs with
    | [] => failAfter .unfinishedValue []
    | b :: rest =>
      if b = 110 then word .null [117, 108, 108] rest
      else if b = 116 then word (.bool true) [114, 117, 101] rest
      else if b = 102 then word (.bool false) [97, 108, 115, 101] rest
      else if b = 45 then number true rest
      else if isDigit b then number false bs
      else if b = 34 then do
        let (s, rest) ← string rest
        return (.text s, rest)
      else if b = 91 then
        if depth = 0 then failAfter .tooDeep bs
        else do
          let (vs, rest) ← items fuel (depth - 1) true rest
          return (.array vs, rest)
      else if b = 123 then
        if depth = 0 then failAfter .tooDeep bs
        else do
          let (ms, rest) ← members fuel (depth - 1) true [] rest
          return (.object ms, rest)
      else failAfter .noValue bs

/-- The items of an array up to its end. -/
def items (fuel depth : Nat) (first : Bool) (bs : Bytes) : Except Failure (List Json × Bytes) :=
  match fuel with
  | 0 => failAt .noValue bs
  | fuel + 1 =>
    let bs := skipBlanks bs
    match bs with
    | [] => failAfter .unfinishedArray []
    | b :: rest =>
      if b = 93 then .ok ([], rest)
      else if first then item fuel depth bs
      else if b = 44 then
        match skipBlanks rest with
        | [] => failAfter .unfinishedValue []
        | 93 :: rest => failAt .trailingComma rest
        | rest => item fuel depth rest
      else failAfter .noArrayEnd bs

/-- An item and those after it. -/
def item (fuel depth : Nat) (bs : Bytes) : Except Failure (List Json × Bytes) :=
  match fuel with
  | 0 => failAt .noValue bs
  | fuel + 1 => do
    let (v, rest) ← value fuel depth bs
    let (vs, rest) ← items fuel depth false rest
    return (v :: vs, rest)

/-- The members of an object up to its end, after those read so far. -/
def members (fuel depth : Nat) (first : Bool) (before : List (String × Json)) (bs : Bytes) :
    Except Failure (List (String × Json) × Bytes) :=
  match fuel with
  | 0 => failAt .noValue bs
  | fuel + 1 =>
    let bs := skipBlanks bs
    match bs with
    | [] => failAfter .unfinishedObject []
    | b :: rest =>
      if b = 125 then .ok (before, rest)
      else if first then
        if b = 34 then member fuel depth before rest else failAfter .keyNotText bs
      else if b = 44 then
        match skipBlanks rest with
        | [] => failAfter .unfinishedValue []
        | 34 :: rest => member fuel depth before rest
        | 125 :: rest => failAt .trailingComma rest
        | _ :: rest => failAt .keyNotText rest
      else failAfter .noObjectEnd bs

/-- A member after the opening quote of its key, and those after it. -/
def member (fuel depth : Nat) (before : List (String × Json)) (bs : Bytes) :
    Except Failure (List (String × Json) × Bytes) :=
  match fuel with
  | 0 => failAt .noValue bs
  | fuel + 1 => do
    let (key, rest) ← string bs
    match skipBlanks rest with
    | [] => failAfter .unfinishedObject []
    | 58 :: rest => do
      let (v, rest) ← value fuel depth rest
      members fuel depth false (NameMap.put key v before) rest
    | _ :: rest => failAt .noColon rest

end

/-- The line and column after a part of a text. -/
def place (cause : Cause) (before : Bytes) : ReadError :=
  ⟨cause, before.count 10 + 1, (before.reverse.takeWhile (· ≠ 10)).length⟩

/-- The value a text stands for. -/
def read (bs : Bytes) : Except ReadError Json :=
  let located (e : Failure) : ReadError := place e.cause (bs.take (bs.length - e.left))
  match value (3 * bs.length + 3) maxDepth bs with
  | .error e => .error (located e)
  | .ok (v, rest) =>
    match skipBlanks rest with
    | [] => .ok v
    | _ :: rest => .error (located ⟨.trailingCharacters, rest.length⟩)

/-- The value a string stands for. -/
def readText (s : String) : Except ReadError Json := read s.toUTF8.data.toList

end CallGuard.Json
