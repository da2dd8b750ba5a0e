import OrderReplay.Http.Host
import OrderReplay.Http.Path

/-! Addresses, read as the web reads them: what can be given a meaning is given one,
so blanks are dropped, backslashes are slashes, and missing parts are supplied. Only
addresses that stand alone are read; references relative to another one are not. -/
namespace OrderReplay.Http

structure Authority where
  username : Text
  password : Option Text
  host : Host
  port : Option Nat
  deriving DecidableEq, Repr

inductive UrlPath where
  | segments (list : List Text)
  /-- The path of an address without slashes behind its scheme. -/
  | rootless (text : Text)
  deriving DecidableEq, Repr

structure Url where
  scheme : Text
  authority : Option Authority
  path : UrlPath
  query : Option Text
  fragment : Option Text
  deriving DecidableEq, Repr

inductive SchemeKind where
  /-- Schemes of the web: a host is required, and backslashes are slashes. -/
  | web (defaultPort : Nat)
  | file
  | foreign
  deriving DecidableEq, Repr

namespace Url

def http : Text := "http".toList
def https : Text := "https".toList

def kind (scheme : Text) : SchemeKind :=
  if scheme = http ∨ scheme = "ws".toList then .web 80
  else if scheme = https ∨ scheme = "wss".toList then .web 443
  else if scheme = "ftp".toList then .web 21
  else if scheme = "file".toList then .file
  else .foreign

/-- Blanks and controls at both ends go, and tabs and line ends go everywhere. -/
def clean (text : Text) : Text :=
  let outer (c : Char) : Bool := c.toNat ≤ 0x20
  let trimmed := ((text.dropWhile outer).reverse.dropWhile outer).reverse
  trimmed.filter fun c => c ≠ '\t' && c ≠ '\n' && c ≠ '\r'

def isSchemeChar (c : Char) : Bool :=
  Path.isAlpha c || (Text.digit? c).isSome || c == '+' || c == '-' || c == '.'

def scheme? (text : Text) : Option (Text × Text) :=
  match Text.cut ':' text with
  | (scheme, some rest) =>
    if (scheme.head?.map Path.isAlpha).getD false && scheme.all isSchemeChar then
      some (Text.lower scheme, rest)
    else none
  | (_, none) => none

/-- Slashes, which backslashes are as well unless the scheme is foreign. -/
def isSlash (kind : SchemeKind) (c : Char) : Bool := c == '/' || (kind ≠ .foreign && c == '\\')

def endsAuthority (kind : SchemeKind) (c : Char) : Bool := isSlash kind c || c == '?' || c == '#'

/-- The text before the last at sign, and behind it. -/
def userinfo? : Text → Option (Text × Text)
  | [] => none
  | c :: rest =>
    match userinfo? rest with
    | some (before, after) => some (c :: before, after)
    | none => if c = '@' then some ([], rest) else none

/-- Host and port are parted by the first colon outside brackets. -/
def hostAndPort (inBrackets : Bool) : Text → Text × Option Text
  | [] => ([], none)
  | c :: rest =>
    if c = ':' ∧ inBrackets = false then ([], some rest)
    else
      let inBrackets := if c = '[' then true else if c = ']' then false else inBrackets
      let (host, port) := hostAndPort inBrackets rest
      (c :: host, port)

def defaultPort? : SchemeKind → Option Nat
  | .web port => some port
  | _ => none

/-- A port is at most 65535. None is kept where it is empty or that of the scheme. -/
def port? (kind : SchemeKind) (text : Text) : Option (Option Nat) := do
  let n ← text.foldl (fun total c => do
    let total ← total
    let digit ← Text.digit? c
    if total * 10 + digit < 65536 then some (total * 10 + digit) else none) (some 0)
  if text = [] ∨ defaultPort? kind = some n then some none else some (some n)

def host? (kind : SchemeKind) (text : Text) : Option Host :=
  match kind with
  | .foreign => Host.ofForeign? text
  | .web _ | .file => Host.ofText? text

def user (text : Text) : Text × Option Text :=
  let (username, password) := Text.cut ':' text
  let encode := Percent.encode Percent.userinfo
  (encode username, (password.map encode).filter (· ≠ []))

/-- An authority at the start of a text, and what follows it. A user and a port need a
host, and nothing may end the authority right behind an at sign that nothing precedes. A
port also ends at a backslash. -/
def authority? (kind : SchemeKind) (text : Text) : Option (Authority × Text) := do
  let front := text.takeWhile fun c => !endsAuthority kind c
  let behind := text.dropWhile fun c => !endsAuthority kind c
  let (userText, rest) := (userinfo? front).getD ([], front)
  if userText = [] ∧ rest = [] ∧ front ≠ [] ∧ behind ≠ [] then none
  let (username, password) := user userText
  let (hostText, portText) := hostAndPort false rest
  if hostText = [] ∧ (username ≠ [] ∨ password ≠ none ∨ portText.isSome) then none
  let host ← host? kind hostText
  match portText with
  | none => some (⟨username, password, host, none⟩, behind)
  | some text =>
    let port ← port? kind (text.takeWhile (· ≠ '\\'))
    some (⟨username, password, host, port⟩, text.dropWhile (· ≠ '\\') ++ behind)

def parts (text : Text) : Text × Option Text × Option Text :=
  let (front, fragment) := Text.cut '#' text
  let (path, query) := Text.cut '?' front
  (path, query, fragment)

def withPath (kind : SchemeKind) (scheme : Text) (authority : Option Authority)
    (path : UrlPath) (text : Text) : Url :=
  let (_, query, fragment) := parts text
  let queryReserved := if kind = .foreign then Percent.query else Percent.webQuery
  ⟨scheme, authority, path, query.map (Percent.encode queryReserved),
    fragment.map (Percent.encode Percent.fragment)⟩

def slashed (kind : SchemeKind) (text : Text) : Text :=
  (parts text).1.map fun c => if isSlash kind c then '/' else c

def unrooted : Text → Text
  | '/' :: rest => rest
  | text => text

/-- Path, query and fragment behind an authority, or behind a scheme where a slash
follows it. Only in foreign schemes a path may be missing. -/
def rooted (kind : SchemeKind) (scheme : Text) (authority : Option Authority) (text : Text) :
    Url :=
  let path := slashed kind text
  let segments := if kind = .foreign ∧ path = [] then [] else Path.segments false (unrooted path)
  withPath kind scheme authority (.segments segments) text

/-- The address of a file on a host, or on none, with a path from its first segment. The
name of a drive at its start leaves no host. -/
def onHost (scheme : Text) (host : Host) (path text : Text) : Url :=
  let segments := Path.segments true path
  let host := if (segments.head?.map Path.isDrive).getD false then .name [] else host
  withPath .file scheme (some ⟨[], none, host, none⟩) (.segments (Path.collapse segments)) text

/-- The address of a file behind two slashes: a host, unless it is the name of a drive,
and a path. The local host is none. -/
def withFileHost? (scheme : Text) (text : Text) : Option Url := do
  let front := text.takeWhile fun c => !endsAuthority .file c
  let behind := text.dropWhile fun c => !endsAuthority .file c
  if Path.isDrive front then some (onHost scheme (.name []) (slashed .file text) text)
  else
    let host ← if front = [] then some (.name []) else host? .file front
    if host = .name [] ∨ host = .name "localhost".toList then
      some (onHost scheme (.name []) (slashed .file behind) behind)
    else some (onHost scheme host (unrooted (slashed .file behind)) behind)

def ofText? (text : Text) : Option Url := do
  let (scheme, rest) ← scheme? (clean text)
  let kind := kind scheme
  match kind with
  | .web _ =>
    let (authority, rest) ← authority? kind (rest.dropWhile (isSlash kind))
    some (rooted kind scheme authority rest)
  | .file =>
    if (rest.take 2).length = 2 ∧ (rest.take 2).all (isSlash kind) then
      withFileHost? scheme (rest.drop 2)
    else some (onHost scheme (.name []) (unrooted (slashed kind rest)) rest)
  | .foreign =>
    match rest with
    | '/' :: '/' :: rest => do
      let (authority, rest) ← authority? kind rest
      some (rooted kind scheme authority rest)
    | '/' :: _ => some (rooted kind scheme none rest)
    | _ =>
      let path := Percent.encode Percent.control (parts rest).1
      some (withPath kind scheme none (.rootless path) rest)

def hasHost (url : Url) : Bool :=
  match url.authority with
  | some authority => authority.host ≠ .name []
  | none => false

def userinfoShown (a : Authority) : Text :=
  let password := match a.password with
    | some password => ':' :: password
    | none => []
  if a.username = [] ∧ a.password = none then [] else a.username ++ password ++ ['@']

def authorityShown (a : Authority) : Text :=
  let port := match a.port with
    | some port => ':' :: Text.ofNat port
    | none => []
  userinfoShown a ++ a.host.shown ++ port

/-- The path. Without an authority it must not look like one, so that a dot segment
precedes an empty one. -/
def pathShown (url : Url) : Text :=
  match url.path with
  | .segments list =>
    let path := Path.shown list
    if url.authority = none ∧ path.take 2 = ['/', '/'] then '/' :: '.' :: path else path
  | .rootless text => text

/-- What a request asks its server for: path and query, but no fragment. -/
def target (url : Url) : Text :=
  let query := match url.query with
    | some query => '?' :: query
    | none => []
  url.pathShown ++ query

def shown (url : Url) : Text :=
  let authority := match url.authority with
    | some authority => '/' :: '/' :: authorityShown authority
    | none => []
  let fragment := match url.fragment with
    | some fragment => '#' :: fragment
    | none => []
  url.scheme ++ ':' :: authority ++ url.target ++ fragment

def isText (octets : List UInt8) : Bool := Text.Utf8.encode (Text.Utf8.decode octets) == octets

/-- The address without its user and password, which are sent apart from it. They stay
where the user is no text, or where nothing in them is. -/
def withoutUser (url : Url) : Url :=
  match url.authority with
  | none => url
  | some a =>
    let password := a.password.any fun password => isText (Percent.decode password)
    if isText (Percent.decode a.username) && (a.username ≠ [] || password) then
      { url with authority := some { a with username := [], password := none } }
    else url

/-- Scheme, host and port: what two addresses of one server share. -/
def origin (url : Url) : Text × Option Host × Option Nat :=
  (url.scheme, url.authority.map (·.host), url.authority.bind (·.port))

end Url
end OrderReplay.Http
