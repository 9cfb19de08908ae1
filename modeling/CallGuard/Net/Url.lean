import CallGuard.Net.Host

/-! Addresses of resources: a scheme, an authority, a path, and maybe a query and a
fragment. Blanks and control characters at the ends and line breaks and tabs anywhere do
not count. Six schemes are special: they need a host, take backslashes for slashes, and any
number of slashes before the host. A path of any scheme is kept without its dot segments. -/

namespace CallGuard.Net

open Text

/-- Who is addressed: credentials, host, and port if it is not that of the scheme. -/
structure Authority where
  username : String := ""
  password : Option String := none
  host : Host
  port : Option Nat := none
deriving DecidableEq

structure Url where
  scheme : String
  authority : Authority
  path : String
  query : Option String := none
  fragment : Option String := none
deriving DecidableEq

/-- An address, or one that names no host. -/
inductive Reading
  | hosted (url : Url)
  | hostless
deriving DecidableEq

namespace Url

/-! ### Schemes -/

/-- The port of a scheme. -/
def defaultPort? : String → Option Nat
  | "http" => some 80
  | "ws" => some 80
  | "https" => some 443
  | "wss" => some 443
  | "ftp" => some 21
  | _ => none

/-- The special schemes other than that of files. -/
def isSpecial (scheme : String) : Bool := (defaultPort? scheme).isSome

def isSchemeChar (c : Char) : Bool := c.isAlphanum || c = '+' || c = '-' || c = '.'

/-- A scheme and what follows its colon. -/
def scheme? (cs : List Char) : Option (String × List Char) :=
  let name := cs.takeWhile isSchemeChar
  match name, cs.dropWhile isSchemeChar with
  | c :: _, ':' :: rest =>
    if c.isAlpha then some (String.ofList (name.map Char.toLower), rest) else none
  | _, _ => none

/-! ### Authority -/

/-- Whether a character ends the authority. -/
def endsAuthority (special : Bool) (c : Char) : Bool :=
  c = '/' || c = '?' || c = '#' || (special && c = '\\')

/-- What stands before the last of a character and what after it. -/
def splitLast (c : Char) (cs : List Char) : Option (List Char × List Char) :=
  if cs.contains c then
    let after := (cs.reverse.takeWhile (· ≠ c)).reverse
    some (cs.take (cs.length - after.length - 1), after)
  else none

/-- A name and a password, after the first colon and if it is not empty. -/
def credentials (cs : List Char) : String × Option String :=
  let plain := Percent.encode Percent.inUserinfo
  let name := String.ofList (plain (cs.takeWhile (· ≠ ':')))
  match cs.dropWhile (· ≠ ':') with
  | _ :: c :: rest => (name, some (String.ofList (plain (c :: rest))))
  | _ => (name, none)

/-- The length of the host at the front: up to a colon outside brackets. -/
def hostLength (inside : Bool) : List Char → Nat
  | [] => 0
  | c :: cs =>
    if c = ':' && !inside then 0
    else hostLength (if c = '[' then true else if c = ']' then false else inside) cs + 1

/-- A port, all of a text; an empty one is that of the scheme. -/
def readPort (scheme : String) (cs : List Char) : Except UrlError (Option Nat) :=
  if !cs.all (Numeral.isDigit 10) then .error .badPort
  else
    let n := Numeral.value 10 cs
    if 65535 < n then .error .badPort
    else .ok (if cs.isEmpty || defaultPort? scheme = some n then none else some n)

/-- The authority at the front and what follows it, with no host if the host is empty. -/
def readAuthority (scheme : String) (cs : List Char) :
    Except UrlError (Option Authority × List Char) := do
  let special := isSpecial scheme
  let part := cs.takeWhile fun c => !endsAuthority special c
  let rest := cs.dropWhile fun c => !endsAuthority special c
  let (user, part) := match splitLast '@' part with
    | none => (none, part)
    | some (user, part) => (some user, part)
  if user = some [] && part.isEmpty && !rest.isEmpty then throw .emptyHost
  let (name, password) := credentials (user.getD [])
  let length := hostLength false part
  let (hostPart, after) := (part.take length, part.drop length)
  if special && hostPart.isEmpty then throw .emptyHost
  let host ← if special then Host.read hostPart else Host.readOpaque hostPart
  if host = .name "" && !after.isEmpty then throw .emptyHost
  let (digits, path) := ((after.drop 1).takeWhile (· ≠ '\\'), (after.drop 1).dropWhile (· ≠ '\\'))
  let number ← readPort scheme digits
  if host = .name "" then
    if name.isEmpty && password.isNone then return (none, rest) else throw .emptyHost
  return (some ⟨name, password, host, number⟩, path ++ rest)

/-! ### Path -/

def isSingleDot (segment : List Char) : Bool :=
  [".", "%2e"].contains (String.ofList (segment.map Char.toLower))

def isDoubleDot (segment : List Char) : Bool :=
  ["..", ".%2e", "%2e.", "%2e%2e"].contains (String.ofList (segment.map Char.toLower))

/-- Segments without those of dots, given the ones before them, last first. A dot segment
at the end leaves an empty one. -/
def resolve (before : List (List Char)) : List (List Char) → List (List Char)
  | [] => before.reverse
  | segment :: rest =>
    let close (before : List (List Char)) := if rest.isEmpty then [] :: before else before
    if isDoubleDot segment then resolve (close (before.drop 1)) rest
    else if isSingleDot segment then resolve (close before) rest
    else resolve (segment :: before) rest

/-- The segments of a path after its first slash. -/
def segments (special : Bool) (cs : List Char) : List (List Char) :=
  let slashed := if special then cs.map fun c => if c = '\\' then '/' else c else cs
  (slashed.splitOn '/').map (Percent.encode Percent.inPath)

/-- A path from its text; under a special scheme it is never empty. -/
def pathText (special : Bool) (cs : List Char) : String :=
  match cs with
  | [] => if special then "/" else ""
  | c :: rest =>
    let body := if c = '/' || (special && c = '\\') then rest else c :: rest
    String.join ((resolve [] (segments special body)).map fun s => "/" ++ String.ofList s)

/-- Path, query and fragment. -/
def withRest (scheme : String) (a : Authority) (cs : List Char) : Url :=
  let special := isSpecial scheme
  let path := cs.takeWhile fun c => c ≠ '?' && c ≠ '#'
  let rest := cs.dropWhile fun c => c ≠ '?' && c ≠ '#'
  let query := match rest with
    | '?' :: rest => some (String.ofList (Percent.encode (Percent.inQuery special)
        (rest.takeWhile (· ≠ '#'))))
    | _ => none
  let fragment := match rest.dropWhile (· ≠ '#') with
    | _ :: rest => some (String.ofList (Percent.encode Percent.inFragment rest))
    | [] => none
  ⟨scheme, a, pathText special path, query, fragment⟩

/-! ### Files -/

/-- A letter and a colon or a bar. -/
def isDrive (cs : List Char) : Bool :=
  match cs with
  | [c, d] => c.isAlpha && (d = ':' || d = '|')
  | _ => false

/-- Whether a path has a drive as its first segment at some point of resolving it. -/
def meetsDrive (before : Nat) : List (List Char) → Bool
  | [] => false
  | segment :: rest =>
    if isDoubleDot segment then meetsDrive (before - 1) rest
    else if isSingleDot segment then meetsDrive before rest
    else (before = 0 && isDrive segment) || meetsDrive (before + 1) rest

/-- An address of a file: it may have a host, unless that is the own one or the path begins
with a drive. -/
def file (cs : List Char) : Except UrlError Reading := do
  match cs with
  | a :: b :: rest =>
    if isSlash a && isSlash b then
      let part := rest.takeWhile fun c => !endsAuthority true c
      let path := (rest.dropWhile fun c => !endsAuthority true c).takeWhile fun c =>
        c ≠ '?' && c ≠ '#'
      if part.isEmpty || isDrive part then return .hostless
      let host ← Host.read part
      let drive := meetsDrive 0 (segments true (path.drop 1))
      if host = .name "localhost" || drive then return .hostless
      return .hosted (withRest "file" ⟨"", none, host, none⟩
        (rest.dropWhile fun c => !endsAuthority true c))
    else return .hostless
  | _ => return .hostless
where
  isSlash (c : Char) : Bool := c = '/' || c = '\\'

/-! ### Reading and writing -/

/-- A text without what does not count in it. -/
def cleaned (s : String) : List Char :=
  let cs := (s.toList.dropWhile (·.toNat ≤ 32)).reverse.dropWhile (·.toNat ≤ 32)
  cs.reverse.filter fun c => c ≠ '\t' && c ≠ '\n' && c ≠ '\r'

/-- The address that a text stands for. -/
def read (s : String) : Except UrlError Reading :=
  match scheme? (cleaned s) with
  | none => .error .relative
  | some ("file", rest) => file rest
  | some (scheme, rest) => do
    let hosted (rest : List Char) := do
      match ← readAuthority scheme rest with
      | (none, _) => return Reading.hostless
      | (some a, rest) => return .hosted (withRest scheme a rest)
    if isSpecial scheme then hosted (rest.dropWhile fun c => c = '/' || c = '\\')
    else
      match rest with
      | '/' :: '/' :: rest => hosted rest
      | _ => return .hostless

/-- The port in force, if there is one. -/
def effectivePort? (u : Url) : Option Nat :=
  match u.authority.port with
  | some n => some n
  | none => defaultPort? u.scheme

def text (u : Url) : String :=
  let a := u.authority
  let user := if a.username.isEmpty && a.password.isNone then ""
    else a.username ++ (a.password.elim "" (":" ++ ·)) ++ "@"
  u.scheme ++ "://" ++ user ++ a.host.text ++ (a.port.elim "" fun n => ":" ++ Numeral.decimal n)
    ++ u.path ++ (u.query.elim "" ("?" ++ ·)) ++ (u.fragment.elim "" ("#" ++ ·))

/-- The address without its credentials. -/
def anonymous (u : Url) : Url :=
  { u with authority := { u.authority with username := "", password := none } }

end Url

end CallGuard.Net
