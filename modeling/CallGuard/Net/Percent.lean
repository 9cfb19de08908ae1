import CallGuard.Text.Numeral

/-! Percent encoding: a byte as a percent sign and two hexadecimal digits. -/

namespace CallGuard.Net.Percent

open Text

/-- Two hexadecimal digits in upper case after a percent sign. -/
def encodeByte (b : UInt8) : List Char := '%' :: (Numeral.padded 2 16 b.toNat).map Char.toUpper

/-- A text whose characters are encoded but for some of ASCII. -/
def encode (plain : Char → Bool) (cs : List Char) : List Char :=
  cs.flatMap fun c =>
    if c.toNat < 128 && plain c then [c]
    else (String.singleton c).toUTF8.data.toList.flatMap encodeByte

/-- Bytes with the encoded ones decoded; a percent sign without two digits stays. -/
def decode : List UInt8 → List UInt8
  | [] => []
  | 37 :: a :: b :: rest =>
    match Numeral.digit? (Char.ofNat a.toNat), Numeral.digit? (Char.ofNat b.toNat) with
    | some m, some n => .ofNat (m * 16 + n) :: decode rest
    | _, _ => 37 :: decode (a :: b :: rest)
  | c :: rest => c :: decode rest

/-! ### What stays plain -/

/-- Neither a control character nor one of a list. -/
def besides (encoded : List Char) (c : Char) : Bool :=
  32 ≤ c.toNat && c.toNat < 127 && !encoded.contains c

def inOpaqueHost : Char → Bool := besides []

def inFragment : Char → Bool := besides [' ', '"', '<', '>', '\x60']

def inPath : Char → Bool := besides [' ', '"', '<', '>', '\x60', '#', '?', '\x7b', '\x7d']

def inUserinfo : Char → Bool :=
  besides [' ', '"', '<', '>', '\x60', '#', '?', '\x7b', '\x7d', '/', ':', ';', '=', '@', '[', '\\',
    ']', '^', '|']

/-- In the query of a special scheme the single quote is encoded too. -/
def inQuery (special : Bool) (c : Char) : Bool :=
  besides [' ', '"', '#', '<', '>'] c && !(special && c = '\'')

end CallGuard.Net.Percent
