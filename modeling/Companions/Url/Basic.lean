import Companions.Url.Host

/-! Absolute URLs: reading them from text, and their text. Reading is lenient where a browser is. -/
namespace Companions

namespace Url

structure Authority where
  user : String := ""
  password : Option String := none
  host : Url.Host
  port : Option Nat := none

inductive Path
  | segments (parts : List String)
  /-- What follows the colon of a scheme that has no hosts. -/
  | opaquePath (text : String)

end Url

structure Url where
  scheme : String
  authority : Option Url.Authority
  path : Url.Path
  query : Option String
  fragment : Option String

namespace Url

def defaultPort : String → Option Nat
  | "http" | "ws" => some 80
  | "https" | "wss" => some 443
  | "ftp" => some 21
  | _ => none

/-- Schemes whose URLs have a host always. -/
def isSpecial (scheme : String) : Bool := (defaultPort scheme).isSome

def isOuterBlank (c : Char) : Bool := c.toNat ≤ 0x20

/-- The text that is read: without blanks around it, tabs and line ends. -/
def cleaned (s : String) : List Char :=
  let cs := s.toList.dropWhile isOuterBlank
  ((cs.reverse.dropWhile isOuterBlank).reverse).filter fun c => c ≠ '\t' && c ≠ '\n' && c ≠ '\r'

def isSchemeChar (c : Char) : Bool := c.isAlphanum || c = '+' || c = '-' || c = '.'

/-- The scheme in small letters, and what follows its colon. -/
def readScheme (cs : List Char) : Option (String × List Char) :=
  let name := cs.takeWhile isSchemeChar
  match name, cs.dropWhile isSchemeChar with
  | c :: _, ':' :: rest =>
    if c.isAlpha then some (String.ofList (name.map Char.toLower), rest) else none
  | _, _ => none

def isSlash (special : Bool) (c : Char) : Bool := c = '/' || (special && c = '\\')

/-- Whether the character ends the part with the host. -/
def endsAuthority (special : Bool) (c : Char) : Bool := isSlash special c || c = '?' || c = '#'

/-- Divide a text at the last `@`. -/
def splitLastAt (cs : List Char) : Option (List Char × List Char) :=
  let r := cs.reverse
  match r.dropWhile fun c => c ≠ '@' with
  | _ :: before => some (before.reverse, (r.takeWhile fun c => c ≠ '@').reverse)
  | [] => none

/-- Divide a text at its first colon. -/
def splitColon : List Char → List Char × Option (List Char)
  | [] => ([], none)
  | c :: cs =>
    if c = ':' then ([], some cs)
    else
      let (a, b) := splitColon cs
      (c :: a, b)

/-- Divide host and port at the first colon outside brackets. -/
def splitPort (inside : Bool) : List Char → List Char × Option (List Char)
  | [] => ([], none)
  | c :: cs =>
    if c = ':' ∧ !inside then ([], some cs)
    else
      let (a, b) := splitPort (if c = '[' then true else if c = ']' then false else inside) cs
      (c :: a, b)

/-- A port number; the scheme's own is left out. -/
def readPort (scheme : String) (cs : List Char) : Except UrlError (Option Nat) :=
  if cs.isEmpty then .ok none
  else
    match readRadix 10 cs with
    | none => .error .invalidPort
    | some n =>
      if 65535 < n then .error .invalidPort
      else .ok (if defaultPort scheme = some n then none else some n)

def readHost (special : Bool) (cs : List Char) : Except UrlError Host :=
  if special then if cs.isEmpty then .error .emptyHost else readDomain cs else readVerbatim cs

/-- What stands between the slashes and the path. -/
def readAuthority (scheme : String) (cs : List Char) : Except UrlError Authority := do
  let special := isSpecial scheme
  let (user, rest) :=
    match splitLastAt cs with
    | some (user, rest) => (user, rest)
    | none => ([], cs)
  if cs.contains '@' ∧ rest.isEmpty then throw .emptyHost
  let (name, port) := splitPort false rest
  let host ← readHost special name
  if port.isSome ∧ name.isEmpty then throw .emptyHost
  let port ← readPort scheme (port.getD [])
  let (user, password) := splitColon user
  let encoded (cs : List Char) : String := String.ofList (encodeWith userReserved cs)
  return {
    user := encoded user
    password := (password.bind fun p => if p.isEmpty then none else some p).map encoded
    host, port }

def isDot (s : List Char) : Bool := s = ['.'] || s.map Char.toLower = ['%', '2', 'e']

def isDoubleDot (s : List Char) : Bool :=
  let s := s.map Char.toLower
  s = ['.', '.'] || s = ['.', '%', '2', 'e'] || s = ['%', '2', 'e', '.'] ||
    s = ['%', '2', 'e', '%', '2', 'e']

/-- Divide a path at its slashes. -/
def splitSlashes (special : Bool) : List Char → List (List Char)
  | [] => [[]]
  | c :: cs =>
    match splitSlashes special cs with
    | [] => [[]]
    | p :: ps => if isSlash special c then [] :: p :: ps else (c :: p) :: ps

/-- The segments without those that are dots, which stand for the same place and the one above;
`done` holds the last segment first. -/
def resolveDots (done : List String) : List (List Char) → List String
  | [] => done.reverse
  | s :: rest =>
    if isDoubleDot s then
      if rest.isEmpty then ("" :: done.tail).reverse else resolveDots done.tail rest
    else if isDot s then
      if rest.isEmpty then ("" :: done).reverse else resolveDots done rest
    else resolveDots (String.ofList (encodeWith pathReserved s) :: done) rest

/-- The segments of a path, whose first slash may be missing. -/
def readPath (special : Bool) (cs : List Char) : Path :=
  match cs with
  | [] => .segments (if special then [""] else [])
  | c :: rest =>
    .segments (resolveDots [] (splitSlashes special (if isSlash special c then rest else cs)))

/-- Path, query and fragment. -/
def divide (cs : List Char) : List Char × Option (List Char) × Option (List Char) :=
  let before := cs.takeWhile fun c => c ≠ '#'
  let fragment := (cs.dropWhile fun c => c ≠ '#').tail?
  let path := before.takeWhile fun c => c ≠ '?'
  let query := (before.dropWhile fun c => c ≠ '?').tail?
  (path, query, fragment)

def withTail (scheme : String) (authority : Option Authority) (path : List Char → Path)
    (cs : List Char) : Url :=
  let (p, query, fragment) := divide cs
  let special := isSpecial scheme || scheme = "file"
  let reserved := if special then specialQueryReserved else queryReserved
  { scheme, authority
    path := path p
    query := query.map fun q => String.ofList (encodeWith reserved q)
    fragment := fragment.map fun f => String.ofList (encodeWith fragmentReserved f) }

def withAuthority (scheme : String) (cs : List Char) : Except UrlError Url := do
  let special := isSpecial scheme
  let authority ← readAuthority scheme (cs.takeWhile fun c => !endsAuthority special c)
  return withTail scheme (some authority) (readPath special)
    (cs.dropWhile fun c => !endsAuthority special c)

/-- A URL of a local file; the host `localhost` is left out. -/
def ofFile (cs : List Char) : Except UrlError Url :=
  match cs with
  | a :: b :: rest =>
    if isSlash true a ∧ isSlash true b then do
      let name := rest.takeWhile fun c => !endsAuthority true c
      let tail := rest.dropWhile fun c => !endsAuthority true c
      if name.isEmpty then return withTail "file" none (readPath true) tail
      else
        let host ← readDomain name
        let authority : Option Authority :=
          if host = .domain "localhost" then none else some { host }
        return withTail "file" authority (readPath true) tail
    else return withTail "file" none (readPath true) cs
  | _ => return withTail "file" none (readPath true) cs

def opaqueText (cs : List Char) : Path := .opaquePath (String.ofList (encodeWith [] cs))

/-- Read an absolute URL. -/
def parse (s : String) : Except UrlError Url :=
  match readScheme (cleaned s) with
  | none => .error .relativeWithoutBase
  | some (scheme, rest) =>
    if scheme = "file" then ofFile rest
    else if isSpecial scheme then withAuthority scheme (rest.dropWhile (isSlash true))
    else
      match rest with
      | '/' :: '/' :: rest => withAuthority scheme rest
      | '/' :: _ => .ok (withTail scheme none (readPath false) rest)
      | _ => .ok (withTail scheme none opaqueText rest)

def Path.text : Path → String
  | segments parts => String.join (parts.map ("/" ++ ·))
  | opaquePath text => text

def Authority.text (a : Authority) : String :=
  let password := (a.password.map (":" ++ ·)).getD ""
  let user := a.user ++ password
  (if user = "" then "" else user ++ "@") ++ a.host.text ++
    (a.port.map fun p => ":" ++ toString p).getD ""

/-- Path and query, which is what a server is asked for. -/
def target (u : Url) : String := u.path.text ++ (u.query.map ("?" ++ ·)).getD ""

/-- Whether there is a host that could be asked. -/
def hasHost (u : Url) : Bool :=
  match u.authority with
  | some a => a.host != .verbatim ""
  | none => false

def authorityText (u : Url) : String :=
  match u.authority with
  | some a => "//" ++ a.text
  | none => if u.scheme = "file" then "//" else ""

def text (u : Url) : String :=
  u.scheme ++ ":" ++ u.authorityText ++ u.target ++ (u.fragment.map ("#" ++ ·)).getD ""

/-- The URL with more pairs in its query. -/
def addPairs (pairs : List (String × String)) (u : Url) : Url :=
  if pairs.isEmpty then u
  else
    let more := String.ofList (formText pairs)
    match u.query with
    | none => { u with query := some more }
    | some "" => { u with query := some more }
    | some q => { u with query := some (q ++ "&" ++ more) }

end Url
end Companions
