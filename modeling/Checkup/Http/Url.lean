import Checkup.Address
import Checkup.Http.Domain
import Checkup.Http.Form
import Checkup.Numeric.Power

/-!
# Addresses of the web

A URL is read as browsers read it: what can be mended is mended, so that one URL has many spellings and
one written form. A reference without a scheme is read relative to a base.
-/
namespace Checkup.Http

structure Url where
  scheme : String
  username : String
  password : String
  host : Option String
  port : Option Nat
  path : String
  query : Option String
  fragment : Option String
  deriving DecidableEq, Repr

inductive UrlError where
  | relativeWithoutBase
  | emptyHost
  | invalidName
  | invalidCharacter
  | invalidV4
  | invalidV6
  | invalidPort
  deriving DecidableEq, Repr

def UrlError.message : UrlError → String
  | relativeWithoutBase => "relative URL without a base"
  | emptyHost => "empty host"
  | invalidName => "invalid international domain name"
  | invalidCharacter => "invalid domain character"
  | invalidV4 => "invalid IPv4 address"
  | invalidV6 => "invalid IPv6 address"
  | invalidPort => "invalid port number"

namespace Url

/-! ## Characters -/

def isControl (c : Char) : Bool := c.toNat < 0x20 || c.toNat == 0x7F

/-- What is escaped in a fragment. -/
def inFragment (c : Char) : Bool := isControl c || " \"<>`".toList.contains c

/-- What is escaped in a path. -/
def inPath (c : Char) : Bool := inFragment c || "#?\x7b\x7d".toList.contains c

/-- What is escaped in the name and the password of a user. -/
def inUser (c : Char) : Bool := inPath c || "/:;=@[\\]^|".toList.contains c

/-- What is escaped in a query; more for the common schemes. -/
def inQuery (special : Bool) (c : Char) : Bool :=
  isControl c || " \"#<>".toList.contains c || (special && c == '\'')

/-- What must not occur in the name of a host. -/
def isForbidden (c : Char) : Bool := isControl c || " #/:<>?@[\\]^|%".toList.contains c

/-- The text without control characters and blanks at its ends, and without tabs and line breaks. -/
def cleaned (cs : List Char) : List Char :=
  let outer (c : Char) : Bool := c.toNat ≤ 0x20
  let inner (c : Char) : Bool := c == '\t' || c == '\n' || c == '\r'
  (((cs.dropWhile outer).reverse.dropWhile outer).reverse).filter (!inner ·)

def lower (cs : List Char) : List Char := cs.map Char.toLower

/-- The text before the first character of a class, and the text from it on. -/
def cutAt (stop : Char → Bool) (cs : List Char) : List Char × List Char :=
  (cs.takeWhile (!stop ·), cs.dropWhile (!stop ·))

/-! ## Schemes -/

/-- The port that need not be written, for the common schemes. -/
def defaultPort? (scheme : String) : Option Nat :=
  match scheme with
  | "http" => some 80
  | "https" => some 443
  | "ws" => some 80
  | "wss" => some 443
  | "ftp" => some 21
  | _ => none

/-- Whether a scheme is one of the common ones. -/
def isSpecial (scheme : String) : Bool := (defaultPort? scheme).isSome || scheme == "file"

/-- The scheme of a URL and the rest behind the colon. -/
def splitScheme? (cs : List Char) : Option (String × List Char) :=
  match cutAt (fun c => !(c.isAlphanum || "+-.".toList.contains c)) cs with
  | (c :: name, ':' :: rest) =>
    if c.isAlpha then some (String.ofList (lower (c :: name)), rest) else none
  | _ => none

/-! ## Hosts -/

/-- A number in decimal, octal or hexadecimal, as a part of an address. -/
def readNumber? (cs : List Char) : Option Nat :=
  let read (base : Nat) (digits : List Char) : Option Nat := do
    let values ← digits.mapM Text.hexValue?
    if values.all (· < base) then some (values.foldl (fun n d => n * base + d) 0) else none
  match cs with
  | [] => none
  | '0' :: 'x' :: digits => read 16 digits
  | '0' :: d :: digits => read 8 (d :: digits)
  | digits => read 10 digits

/-- The labels of a host, without an empty last one. -/
def labels (host : List Char) : List (List Char) :=
  let parts := Text.splitChars '.' host
  if 1 < parts.length ∧ parts.getLast? = some [] then parts.dropLast else parts

/-- Whether the last label of a host is a number, so that the host is an address. -/
def endsInNumber (host : List Char) : Bool :=
  match (labels host).getLast? with
  | none => false
  | some label => (!label.isEmpty && label.all Char.isDigit) || (readNumber? label).isSome

/-- An address of version 4; its last number fills all the places that are left. -/
def readAddress? (host : List Char) : Option String := do
  let numbers ← (labels host).mapM readNumber?
  let last ← numbers.getLast?
  let front := numbers.dropLast
  if numbers.length ≤ 4 ∧ front.all (· < 256) ∧ last < 256 ^ (4 - front.length) then
    let places := 4 - front.length
    let rest := (List.range places).map fun i => last / 256 ^ (places - 1 - i) % 256
    some (Address.v4Text (front ++ rest))
  else none

/-- The host of a URL with one of the common schemes. -/
def readHost (host : List Char) : Except UrlError String :=
  match host with
  | '[' :: inner =>
    match inner.getLast?, Address.readV6? inner.dropLast with
    | some ']', some groups => .ok s!"[{Address.v6Text groups}]"
    | _, _ => .error .invalidV6
  | _ =>
    match Domain.ascii? (Text.Utf8.decode (Percent.decode (Text.Utf8.encode host))) with
    | none => .error .invalidName
    | some name =>
      if name.any isForbidden then .error .invalidName
      else if name.isEmpty then .error .emptyHost
      else if endsInNumber name then
        match readAddress? name with
        | some address => .ok address
        | none => .error .invalidV4
      else .ok (String.ofList name)

/-- The host of a URL with another scheme. -/
def readOpaqueHost (host : List Char) : Except UrlError String :=
  match host with
  | '[' :: _ => readHost host
  | _ =>
    if host.any fun c => c == '\x00' || (c != '%' && !isControl c && isForbidden c) then
      .error .invalidCharacter
    else .ok (String.ofList (Percent.encode isControl host))

/-- A host with a port behind it, if there is one. -/
def splitPort (cs : List Char) : List Char × List Char :=
  match cs with
  | '[' :: _ =>
    let (address, rest) := cutAt (· == ']') cs
    (address ++ rest.take 1, rest.drop 1)
  | _ => cutAt (· == ':') cs

/-- The port behind a host; the usual one of the scheme is left out. -/
def readPort (scheme : String) : List Char → Except UrlError (Option Nat)
  | [] => .ok none
  | [':'] => .ok none
  | ':' :: digits =>
    match (Text.readDigits? digits).filter (· ≤ 65535) with
    | some n => .ok (if defaultPort? scheme = some n then none else some n)
    | none => .error .invalidPort
  | _ => .error .invalidV6

/-! ## Paths -/

/-- Whether a segment of a path stands for the directory itself. -/
def isHere (segment : List Char) : Bool :=
  let s := String.ofList (lower segment)
  s == "." || s == "%2e"

/-- Whether a segment of a path stands for the directory above. -/
def isAbove (segment : List Char) : Bool :=
  let s := String.ofList (lower segment)
  s == ".." || s == ".%2e" || s == "%2e." || s == "%2e%2e"

/-- The segments of a path below some others, with the ones that stand for directories resolved. -/
def resolve (above : List (List Char)) : List (List Char) → List (List Char)
  | [] => above
  | segment :: rest =>
    let last (segments : List (List Char)) := if rest.isEmpty then segments ++ [[]] else segments
    if isAbove segment then resolve (last above.dropLast) rest
    else if isHere segment then resolve (last above) rest
    else resolve (above ++ [Percent.encode inPath segment]) rest

/-- The segments of a path; a backslash separates them too in the common schemes. -/
def segments (special : Bool) (path : List Char) : List (List Char) :=
  Text.splitChars '/' (if special then path.map fun c => if c = '\\' then '/' else c else path)

def pathText (segments : List (List Char)) : String :=
  String.ofList ('/' :: ['/'].intercalate segments)

/-- The written form of a path that begins at the root, or of none. -/
def readPath (special : Bool) (path : List Char) : String :=
  match path with
  | [] => if special then "/" else ""
  | _ :: rest => pathText (resolve [] (segments special rest))

/-! ## Reading -/

/-- A query or a fragment behind its sign. -/
def readTail (escaped : Char → Bool) : List Char → Option String
  | [] => none
  | _ :: rest => some (String.ofList (Percent.encode escaped rest))

/-- The name and the password of a user, and the host and port behind them. -/
def splitUser (authority : List Char) : List Char × List Char × List Char :=
  let (before, host) := match Text.splitOnce? '@' authority.reverse with
    | some (host, before) => (before.reverse, host.reverse)
    | none => ([], authority)
  let (name, password) := cutAt (· == ':') before
  (name, password.drop 1, host)

/-- A URL behind its scheme and two slashes. -/
def readAuthority (scheme : String) (cs : List Char) (query fragment : Option String) :
    Except UrlError Url := do
  let special := isSpecial scheme
  let (authority, path) := cutAt (fun c => c == '/' || (special && c == '\\')) cs
  let (name, password, hostPort) := splitUser authority
  let (host, port) := splitPort hostPort
  let needsHost := (special && scheme != "file") || port.head? == some ':'
  if host.isEmpty && needsHost then throw .emptyHost
  let host ← if host.isEmpty then pure "" else if special then readHost host else readOpaqueHost host
  let port ← readPort scheme port
  let escape (cs : List Char) : String := String.ofList (Percent.encode inUser cs)
  return ⟨scheme, escape name, escape password, some host, port, readPath special path, query, fragment⟩

/-- A reference relative to a base of the same scheme. -/
def readRelative (base : Url) (cs : List Char) (query fragment : Option String) :
    Except UrlError Url :=
  let special := isSpecial base.scheme
  let isSlash (c : Char) : Bool := c == '/' || (special && c == '\\')
  match cs with
  | [] => .ok { base with query := query.orElse fun _ => base.query, fragment := fragment }
  | c :: rest =>
    if isSlash c then
      match rest with
      | d :: authority =>
        if isSlash d then readAuthority base.scheme authority query fragment
        else .ok { base with path := readPath special cs, query := query, fragment := fragment }
      | [] => .ok { base with path := "/", query := query, fragment := fragment }
    else
      let above := (Text.splitChars '/' (base.path.toList.drop 1)).dropLast
      .ok { base with
        path := pathText (resolve above (segments special cs))
        query := query
        fragment := fragment }

/-- A URL behind its scheme. -/
def readBehind (base : Option Url) (scheme : String) (cs : List Char)
    (query fragment : Option String) : Except UrlError Url :=
  if isSpecial scheme then
    match base with
    | some b =>
      if b.scheme = scheme ∧ !(['/', '/'].isPrefixOf cs) then readRelative b cs query fragment
      else readAuthority scheme (cs.dropWhile fun c => c == '/' || c == '\\') query fragment
    | none =>
      if scheme = "file" then
        match cs with
        | '/' :: '/' :: rest => readAuthority scheme rest query fragment
        | _ => .ok ⟨scheme, "", "", some "", none, readPath true ('/' :: cs.dropWhile (· == '/')),
            query, fragment⟩
      else readAuthority scheme (cs.dropWhile fun c => c == '/' || c == '\\') query fragment
  else
    match cs with
    | '/' :: '/' :: rest => readAuthority scheme rest query fragment
    | '/' :: _ => .ok ⟨scheme, "", "", none, none, readPath false cs, query, fragment⟩
    | _ => .ok ⟨scheme, "", "", none, none, String.ofList (Percent.encode isControl cs), query, fragment⟩

/-- The URL that a text spells, relative to a base if there is one. -/
def read (base : Option Url) (text : String) : Except UrlError Url :=
  let (front, fragment) := cutAt (· == '#') (cleaned text.toList)
  let (main, query) := cutAt (· == '?') front
  let fragment := readTail inFragment fragment
  match splitScheme? main with
  | some (scheme, rest) =>
    readBehind base scheme rest (readTail (inQuery (isSpecial scheme)) query) fragment
  | none =>
    match base with
    | some b => readRelative b main (readTail (inQuery (isSpecial b.scheme)) query) fragment
    | none => .error .relativeWithoutBase

def parse (text : String) : Except UrlError Url := read none text

/-! ## Writing -/

/-- The user of a URL, as far as there is one. -/
def userText (u : Url) : String :=
  if u.username.isEmpty ∧ u.password.isEmpty then ""
  else if u.password.isEmpty then u.username ++ "@"
  else u.username ++ ":" ++ u.password ++ "@"

/-- A part of a URL behind its sign, if there is one. -/
def tailText (sign : String) (part : Option String) : String :=
  match part with
  | some s => sign ++ s
  | none => ""

def text (u : Url) : String :=
  let authority := match u.host with
    | some host => "//" ++ u.userText ++ host ++ tailText ":" (u.port.map Text.natText)
    | none => ""
  u.scheme ++ ":" ++ authority ++ u.path ++ tailText "?" u.query ++ tailText "#" u.fragment

/-- The path and the query, as they are sent to the host. -/
def target (u : Url) : String := u.path ++ tailText "?" u.query

def queryPairs (u : Url) : List (String × String) := Form.decodePairs (u.query.getD "").toList

/-- The URL with pairs added to its query. -/
def withPairs (u : Url) (pairs : List (String × String)) : Url :=
  if pairs.isEmpty then u
  else
    let before := match u.query with
      | none => ""
      | some q => if q.isEmpty then "" else q ++ "&"
    { u with query := some (before ++ Form.text pairs) }

end Url
end Checkup.Http
