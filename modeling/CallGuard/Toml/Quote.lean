import CallGuard.Toml.Lexis

/-! Strings and keys in their written forms. A basic string is escaped, a literal one is
not; each has a form over several lines, in which a line end straight after the opening
quotes is dropped. The writer takes the first form that shows the text as it is, and
escapes only where no form does. -/

namespace CallGuard.Toml

open Text

/-! ### Escapes -/

/-- What a letter after a backslash stands for. -/
def escaped? (c : Char) : Option Char :=
  if c = 'b' then some '\x08'
  else if c = 't' then some '\t'
  else if c = 'n' then some '\n'
  else if c = 'f' then some '\x0c'
  else if c = 'r' then some '\r'
  else if c = '"' then some '"'
  else if c = '\\' then some '\\'
  else none

/-- The character with a code point in hexadecimal digits. -/
def codePoint? (digits : List Char) : Option Char :=
  let n := Numeral.value 16 digits
  if digits.all (Numeral.isDigit 16) && (n < 0xD800 || (0xDFFF < n && n < 0x110000)) then
    some (Char.ofNat n)
  else none

/-! ### Reading -/

/-- A character in front of what a reader took. -/
def prepend (c : Char) (r : Option (List Char × Chars)) : Option (List Char × Chars) :=
  r.map fun (cs, rest) => (c :: cs, rest)

/-- Three quotes end a string over several lines; up to two more before them belong to it. -/
def closing? (quote : Char) : Chars → Option (List Char × Chars)
  | a :: b :: c :: rest =>
    if a = quote && b = quote && c = quote then
      match rest with
      | d :: e :: rest' =>
        if d = quote && e = quote then some ([quote, quote], rest')
        else if d = quote then some ([quote], e :: rest')
        else some ([], rest)
      | [d] => if d = quote then some ([quote], []) else some ([], rest)
      | [] => some ([], [])
    else none
  | _ => none

/-- Whether nothing but blanks stands before the end of the line. -/
def endsLine (cs : Chars) : Bool := (newline? (skipBlanks cs)).isSome

/-- The rest of a basic string, over several lines if so told. After a backslash at the end
of a line, blanks and line ends are skipped. -/
def basicRest (multiline skipping : Bool) : Chars → Option (List Char × Chars)
  | [] => none
  | c :: rest =>
    if skipping && (isBlankChar c || c = '\n') then basicRest multiline true rest
    else if c = '\r' && multiline && rest.head? = some '\n' then basicRest multiline skipping rest
    else if c = '"' then
      if multiline then
        match closing? '"' (c :: rest) with
        | some done => some done
        | none => prepend '"' (basicRest true false rest)
      else some ([], rest)
    else if c = '\\' then
      if multiline && endsLine rest then basicRest true true rest
      else
        match rest with
        | [] => none
        | e :: rest =>
          match escaped? e with
          | some d => prepend d (basicRest multiline false rest)
          | none =>
            if e = 'u' then
              match rest with
              | h1 :: h2 :: h3 :: h4 :: rest =>
                (codePoint? [h1, h2, h3, h4]).bind fun d =>
                  prepend d (basicRest multiline false rest)
              | _ => none
            else if e = 'U' then
              match rest with
              | h1 :: h2 :: h3 :: h4 :: h5 :: h6 :: h7 :: h8 :: rest =>
                (codePoint? [h1, h2, h3, h4, h5, h6, h7, h8]).bind fun d =>
                  prepend d (basicRest multiline false rest)
              | _ => none
            else none
    else if isPlain c || (multiline && c = '\n') then prepend c (basicRest multiline false rest)
    else none

/-- The rest of a literal string, over several lines if so told. -/
def literalRest (multiline : Bool) : Chars → Option (List Char × Chars)
  | [] => none
  | c :: rest =>
    if c = '\r' && multiline && rest.head? = some '\n' then literalRest multiline rest
    else if c = '\'' then
      if multiline then
        match closing? '\'' (c :: rest) with
        | some done => some done
        | none => prepend '\'' (literalRest true rest)
      else some ([], rest)
    else if isPlain c || (multiline && c = '\n') then prepend c (literalRest multiline rest)
    else none

/-- The text without a line end at its front. -/
def dropNewline (cs : Chars) : Chars := (newline? cs).getD cs

def ofChars (r : Option (List Char × Chars)) : Option (String × Chars) :=
  r.map fun (cs, rest) => (String.ofList cs, rest)

/-- A string on one line, from its opening quote on. -/
def lineString? (cs : Chars) : Option (String × Chars) :=
  match cs with
  | '"' :: cs => ofChars (basicRest false false cs)
  | '\'' :: cs => ofChars (literalRest false cs)
  | _ => none

/-- A string in any form, from its opening quotes on. -/
def string? (cs : Chars) : Option (String × Chars) :=
  match afterWord? ['"', '"', '"'] cs with
  | some cs => ofChars (basicRest true false (dropNewline cs))
  | none =>
    match afterWord? ['\'', '\'', '\''] cs with
    | some cs => ofChars (literalRest true (dropNewline cs))
    | none => lineString? cs

/-- One key: bare or a string on one line. -/
def key? (cs : Chars) : Option (String × Chars) :=
  match cs.takeWhile isBare with
  | [] => lineString? cs
  | bare => some (String.ofList bare, cs.dropWhile isBare)

/-! ### Writing -/

/-- Characters that only an escape can show: the controls but tab and line feed. -/
def isControl (c : Char) : Bool := !isPlain c && c ≠ '\n'

/-- The longest run of a character. -/
def longestRun (c : Char) (cs : List Char) : Nat :=
  (cs.foldl (fun (longest, run) d =>
    if d = c then (max longest (run + 1), run + 1) else (longest, 0)) (0, 0)).1

/-- The escape of a character in a basic string. -/
def escapeChar (c : Char) : List Char :=
  if c = '\x08' then ['\\', 'b']
  else if c = '\t' then ['\\', 't']
  else if c = '\n' then ['\\', 'n']
  else if c = '\x0c' then ['\\', 'f']
  else if c = '\r' then ['\\', 'r']
  else if c = '"' then ['\\', '"']
  else if c = '\\' then ['\\', '\\']
  else if isControl c then
    '\\' :: 'u' :: (Numeral.padded 4 16 c.toNat).map Char.toUpper
  else [c]

/-- A basic string on one line. -/
def basic (cs : List Char) : List Char := '"' :: cs.flatMap escapeChar ++ ['"']

/-- A literal string on one line. -/
def literal (cs : List Char) : List Char := '\'' :: cs ++ ['\'']

/-- The inside of a basic string over several lines after a run of so many quotes: line feeds
stand for themselves, and so does a quote unless it is the third of a run. -/
def escapeLines (quotes : Nat) : List Char → List Char
  | [] => []
  | c :: cs =>
    if c = '"' then
      if quotes < 2 then '"' :: escapeLines (quotes + 1) cs else '\\' :: '"' :: escapeLines 0 cs
    else if c = '\n' then '\n' :: escapeLines 0 cs
    else escapeChar c ++ escapeLines 0 cs

/-- The opening quotes of a form over several lines; a text with a line feed starts on its
own line. -/
def opening (quote : Char) (cs : List Char) : List Char :=
  [quote, quote, quote] ++ if cs.contains '\n' then ['\n'] else []

def basicLines (cs : List Char) : List Char :=
  opening '"' cs ++ escapeLines 0 cs ++ ['"', '"', '"']

def literalLines (cs : List Char) : List Char :=
  opening '\'' cs ++ cs ++ ['\'', '\'', '\'']

/-- The written form of a string. -/
def writeString (cs : List Char) : List Char :=
  let controls := cs.any isControl
  let backslash := cs.contains '\\'
  let newline := cs.contains '\n'
  if !controls && !backslash && !cs.contains '"' && !newline then basic cs
  else if !controls && !cs.contains '\'' && !newline then literal cs
  else if !controls && !backslash && longestRun '"' cs ≤ 2 then basicLines cs
  else if !controls && longestRun '\'' cs ≤ 2 then literalLines cs
  else if newline then basicLines cs
  else basic cs

/-- The written form of a key. -/
def writeKey (cs : List Char) : List Char :=
  let controls := cs.any fun c => !isPlain c
  if !cs.isEmpty && cs.all isBare then cs
  else if !controls && !cs.contains '\\' && !cs.contains '"' then basic cs
  else if !controls && !cs.contains '\'' then literal cs
  else basic cs

end CallGuard.Toml
