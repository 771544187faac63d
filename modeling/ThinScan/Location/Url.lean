import ThinScan.Location.Host

set_option autoImplicit false

namespace ThinScan

structure Url where
  scheme : Text
  host : Text
  path : List Text
  query : Text
deriving DecidableEq, Repr

namespace Url

def isBlank (c : Char) : Bool := c.toNat ≤ 32

def isBreak (c : Char) : Bool := c = '\t' || c = '\n' || c = '\r'

def cleaned (text : Text) : Text :=
  ((text.dropWhile isBlank).reverse.dropWhile isBlank).reverse.filter (fun c => !isBreak c)

def isSchemeChar (c : Char) : Bool := c.isAlphanum || c = '+' || c = '-' || c = '.'

def scheme? (text : Text) : Option (Text × Text) :=
  match Text.cut ':' text with
  | (name, some rest) =>
      if (name.head?.map Char.isAlpha).getD false && name.all isSchemeChar then
        some (name.map Char.toLower, rest)
      else none
  | (_, none) => none

def endsAuthority (c : Char) : Bool := c = '/' || c = '?' || c = '#'

def splitUserinfo (authority : Text) : Option Text × Text :=
  let host := (authority.reverse.takeWhile (· ≠ '@')).reverse
  match (authority.reverse.dropWhile (· ≠ '@')).reverse with
  | [] => (none, host)
  | before => (some before.dropLast, host)

-- The host ends at the first colon that is not in brackets.
def splitHost : Bool → Text → Text × Option Text
  | _, [] => ([], none)
  | bracketed, c :: rest =>
      if c = ':' && !bracketed then ([], some rest)
      else
        let inside := if c = '[' then true else if c = ']' then false else bracketed
        let (host, number) := splitHost inside rest
        (c :: host, number)

def decimal (digits : Text) : Nat :=
  digits.foldl (fun value digit => 10 * value + (digit.toNat - '0'.toNat)) 0

def afterPort (text : Text) : Except Fault Text :=
  let rest := text.dropWhile Char.isDigit
  if 65535 < decimal (text.takeWhile Char.isDigit) then .error .badPort
  else if rest.isEmpty || rest.head? = some '\\' then .ok rest
  else .error .badPort

inductive Form where
  | web
  | file
  | other
deriving DecidableEq, Repr

def form (scheme : Text) : Form :=
  if scheme = "file".toList then .file
  else if scheme ∈ ["http".toList, "https".toList, "ws".toList, "wss".toList, "ftp".toList] then .web
  else .other

def authority (form : Form) (text : Text) (continued : Bool) : Except Fault (Text × Text) := do
  let (userinfo, hostport) := splitUserinfo text
  if userinfo = some [] && hostport.isEmpty && continued then throw .emptyHost
  let (name, rest) := splitHost false hostport
  let host ← if form = .web then Host.parseWeb name else Host.parse name
  match rest with
  | none =>
      if host.isEmpty && userinfo.any (fun info => info ≠ [] && info ≠ [':']) then throw .emptyHost
      pure (host, [])
  | some digits =>
      if host.isEmpty then throw .emptyHost
      pure (host, ← afterPort digits)

def isDriveLetter : Text → Bool
  | [letter, mark] => letter.isAlpha && (mark = ':' || mark = '|')
  | letter :: mark :: '\\' :: _ => letter.isAlpha && (mark = ':' || mark = '|')
  | _ => false

def fileHost (text : Text) : Except Fault Text :=
  if text.isEmpty || isDriveLetter text then .ok []
  else (Host.parseWeb text).map (fun host => if host = "localhost".toList then [] else host)

def isDot (c : Text) : Bool := c = ['.'] || c = ['%', '2', 'e'] || c = ['%', '2', 'E']

def isDoubleDot (segment : Text) : Bool :=
  (isDot (segment.take 1) && isDot (segment.drop 1)) || (isDot (segment.take 3) && isDot (segment.drop 3))

-- Two dots do not go back over a drive letter.
def back (kept : List Text) : List Text :=
  if kept.getLast?.any isDriveLetter then kept else kept.dropLast

def resolveDots (segments : List Text) : List Text :=
  segments.foldl
    (fun kept segment =>
      if isDoubleDot segment then back kept
      else if isDot segment then kept
      else kept ++ [segment]) []

def isPathEscaped (c : Char) : Bool :=
  Text.isControl c || c ∈ [' ', '"', '#', '<', '>', '?', '\x60', '\x7b', '\x7d']

def pathSegments (text : Text) : List Text :=
  let relative := match text with
    | '/' :: rest => rest
    | _ => text
  (resolveDots (Text.splitOn '/' relative)).map (Text.percentEncode isPathEscaped)

def isSlash (form : Form) (c : Char) : Bool := c = '/' || (c = '\\' && form ≠ .other)

def located? (form : Form) (hierarchy : Text) : Option Text :=
  if form = .web then some (hierarchy.dropWhile (isSlash form))
  else
    match hierarchy with
    | first :: second :: located => if isSlash form first && isSlash form second then some located else none
    | _ => none

def parse (text : Text) : Except Fault Url :=
  match scheme? (cleaned text) with
  | none => .error .noScheme
  | some (scheme, afterScheme) =>
      let form := form scheme
      let (relevant, _) := Text.cut '#' afterScheme
      let (hierarchy, query) := Text.cut '?' relevant
      match located? form hierarchy with
      | some located => do
          let named := located.takeWhile (fun c => !isSlash form c)
          let continued := (afterScheme.drop 2).any endsAuthority
          let (host, left) ←
            if form = .file then (fileHost named).map (fun host => (host, [])) else authority form named continued
          pure ⟨scheme, host, pathSegments (left ++ located.drop named.length), query.getD []⟩
      | none => pure ⟨scheme, [], pathSegments hierarchy, query.getD []⟩

def decodePart (text : Text) : Bytes :=
  Text.percentDecode (text.map (fun c => if c = '+' then ' ' else c))

def pairs (url : Url) : List (Bytes × Bytes) :=
  ((Text.splitOn '&' url.query).filter (fun part => !part.isEmpty)).map (fun part =>
    let (name, value) := Text.cut '=' part
    (decodePart name, decodePart (value.getD [])))

end Url

end ThinScan
