import ServiceExposure.Url.Host
import ServiceExposure.Url.Path

/-! # URLs

A URL is read into its parts, each in its one written form, so that equal URLs have equal texts. -/

namespace ServiceExposure

namespace Url

/-- Who answers: the credentials to present, the host and the port, where it is not the usual
one. -/
structure Authority where
  credentials : List Char := []
  host : Option Host
  port : Option Nat := none
deriving DecidableEq, Repr

namespace Authority

def portText (a : Authority) : List Char :=
  match a.port with
  | some port => ':' :: Nat.toDigits 10 port
  | none => []

def hostText (a : Authority) : List Char := (a.host.map Host.text).getD []

def text (a : Authority) : List Char := a.credentials ++ a.hostText ++ a.portText

end Authority

end Url

structure Url where
  scheme : List Char
  authority : Option Url.Authority
  path : List Char
  query : Option (List Char)
  fragment : Option (List Char)
deriving DecidableEq, Repr

namespace Url

/-! ## Schemes -/

/-- The special schemes but `file`, with their ports. -/
def usualPort? (scheme : List Char) : Option Nat :=
  match String.ofList scheme with
  | "http" | "ws" => some 80
  | "https" | "wss" => some 443
  | "ftp" => some 21
  | _ => none

def isSpecial (scheme : List Char) : Bool := (usualPort? scheme).isSome

def isSchemeChar (c : Char) : Bool := c.isAlphanum || c ∈ ['+', '-', '.']

/-- The scheme in lower case, and what follows its colon. -/
def scheme? (cs : List Char) : Option (List Char × List Char) :=
  match Text.cutChars? [':'] cs with
  | some (c :: scheme, rest) =>
    if c.isAlpha && scheme.all isSchemeChar then some ((c :: scheme).map Char.toLower, rest)
    else none
  | _ => none

/-! ## Authorities -/

/-- Whether a character ends the authority. -/
def endsAuthority (special : Bool) (c : Char) : Bool :=
  c = '/' || c = '?' || c = '#' || (special && c = '\\')

/-- Name and password before an `@`, encoded; a colon sets off a password that is not empty. -/
def credentialsText (cs : List Char) : List Char :=
  let encode := percentEncode escapedInCredentials
  let text :=
    match Text.cutChars? [':'] cs with
    | some (name, password) =>
      encode name ++ if password.isEmpty then [] else ':' :: encode password
    | none => encode cs
  if text.isEmpty then [] else text ++ ['@']

/-- The credentials and what follows them. -/
def readCredentials (special : Bool) (cs : List Char) : Except Error (List Char × List Char) :=
  let (authority, rest) := cs.span (!endsAuthority special ·)
  match Text.cutLastChars? '@' authority with
  | none => .ok ([], cs)
  | some ([], []) => if rest.isEmpty then .ok ([], []) else .error .emptyHost
  | some (credentials, host) => .ok (credentialsText credentials, host ++ rest)

/-- The text of a host, up to a colon outside of brackets or the end of the authority, and what
follows. -/
def spanHost (special bracketed : Bool) : List Char → List Char × List Char
  | [] => ([], [])
  | c :: rest =>
    if endsAuthority special c || (c = ':' && !bracketed) then ([], c :: rest)
    else
      let inside := if c = '[' then true else if c = ']' then false else bracketed
      let (host, after) := spanHost special inside rest
      (c :: host, after)

/-- A port after a colon, and what follows; the usual port counts as none. -/
def readPort (usual : Option Nat) (cs : List Char) : Except Error (Option Nat × List Char) :=
  let (digits, rest) := cs.span Char.isDigit
  if 0xffff < Net.ofDecimal digits then .error .badPort
  else if rest.head?.any fun c => !(endsAuthority true c) then .error .badPort
  else if digits.isEmpty || usual = some (Net.ofDecimal digits) then .ok (none, rest)
  else .ok (some (Net.ofDecimal digits), rest)

/-- The authority and what follows it. -/
def readAuthority (scheme : List Char) (cs : List Char) : Except Error (Authority × List Char) := do
  let special := isSpecial scheme
  let (credentials, afterCredentials) ← readCredentials special cs
  let (name, afterHost) := spanHost special false afterCredentials
  if special && name.isEmpty then throw .emptyHost
  let host ← if special then Host.special name else Host.other name
  let host := if host = .domain [] then none else some host
  if host.isNone && (afterHost.head? = some ':' || !credentials.isEmpty) then throw .emptyHost
  let (port, rest) ←
    match afterHost with
    | ':' :: rest => readPort (usualPort? scheme) rest
    | rest => .ok (none, rest)
  return ({ credentials, host, port }, rest)

/-! ## The parts after the authority -/

/-- Cuts a text into path, query and fragment. -/
def spanPath (cs : List Char) : List Char × Option (List Char) × Option (List Char) :=
  let (beforeFragment, fragment) :=
    match Text.cutChars? ['#'] cs with
    | some (before, after) => (before, some after)
    | none => (cs, none)
  match Text.cutChars? ['?'] beforeFragment with
  | some (path, query) => (path, some query, fragment)
  | none => (beforeFragment, none, fragment)

/-- Puts a URL together from its scheme, authority and path, and the raw query and fragment. -/
def finish (scheme : List Char) (authority : Option Authority) (path : List Char)
    (query fragment : Option (List Char)) : Url where
  scheme
  authority
  path
  query := query.map (percentEncode
    (if isSpecial scheme || scheme = "file".toList then escapedInSpecialQuery else escapedInQuery))
  fragment := fragment.map (percentEncode escapedInFragment)

/-- The path after the authority: never empty for a special scheme. -/
def pathAfterAuthority (special : Bool) (cs : List Char) : List Char :=
  match cs with
  | [] => if special then ['/'] else []
  | c :: rest =>
    if endsAuthority special c then Path.afterSlash special rest
    else Path.afterSlash special (c :: rest)

/-- A URL with an authority. -/
def readHierarchical (scheme : List Char) (cs : List Char) : Except Error Url := do
  let (authority, rest) ← readAuthority scheme cs
  let (path, query, fragment) := spanPath rest
  return finish scheme (some authority) (pathAfterAuthority (isSpecial scheme) path) query fragment

/-- A URL whose path needs no authority, or whose text after the scheme has no structure. -/
def readOther (scheme : List Char) (cs : List Char) : Except Error Url :=
  match cs with
  | '/' :: '/' :: rest => readHierarchical scheme rest
  | '/' :: rest =>
    let (path, query, fragment) := spanPath rest
    .ok (finish scheme none (Path.afterSlash false path) query fragment)
  | cs =>
    let (path, query, fragment) := spanPath cs
    .ok (finish scheme none (percentEncode isControl path) query fragment)

/-! ## Files -/

def isSlash (c : Char) : Bool := c = '/' || c = '\\'

/-- The host of a file, and its path. A path with a drive has no host. Where there is none, or it is
this machine, the path starts with an empty segment. -/
def readFileHost (cs : List Char) : Except Error (Option Host × Path.FilePath) := do
  let (text, path) := cs.span (!isSlash ·)
  let name := Path.withoutGaps text
  if Path.isDrive name then return (none, .read cs)
  if name.isEmpty then return (none, .read path)
  let host ← Host.special name
  if host = .domain "localhost".toList then return (none, .read path)
  let path := Path.FilePath.read path.tail
  return (if path.hasDrive then none else some host, path)

/-- Reads what follows the scheme of a file. Gaps still stand in it, since a drive may end at
one. -/
def readFile (cs : List Char) : Except Error Url := do
  let (text, query, fragment) := spanPath cs
  let (host, path) ←
    match text.dropWhile Path.isGap with
    | [] => .ok (none, .read [])
    | a :: rest =>
      if isSlash a then
        match rest.dropWhile Path.isGap with
        | b :: afterSlashes =>
          if isSlash b then readFileHost afterSlashes else .ok (none, .read rest)
        | [] => .ok (none, .read [])
      else .ok (none, .read text)
  return finish "file".toList (some { host }) path.write (query.map Path.withoutGaps)
    (fragment.map Path.withoutGaps)

/-! ## Reading and writing -/

def isOuterBlank (c : Char) : Bool := c.toNat ≤ 0x20

/-- Reads a URL. Blanks and controls at its ends, and gaps anywhere, do not count. -/
def read (s : String) : Except Error Url :=
  let trimmed := ((s.toList.dropWhile isOuterBlank).reverse.dropWhile isOuterBlank).reverse
  match scheme? (Path.withoutGaps trimmed) with
  | none => .error .noScheme
  | some (scheme, rest) =>
    if isSpecial scheme then readHierarchical scheme (rest.dropWhile isSlash)
    else if scheme = "file".toList then readFile (trimmed.dropWhile (· ≠ ':')).tail
    else readOther scheme rest

/-- The text in front of the path. Without an authority, a path that starts with two slashes stands
after `/.`, so that it is not taken for one. -/
def beforePath (u : Url) : List Char :=
  u.scheme ++ ':' ::
    match u.authority with
    | some a => '/' :: '/' :: a.text
    | none => if ['/', '/'].isPrefixOf u.path then ['/', '.'] else []

/-- The text behind the path. -/
def afterPath (u : Url) : List Char :=
  (u.query.map ('?' :: ·)).getD [] ++ (u.fragment.map ('#' :: ·)).getD []

def text (u : Url) : List Char := u.beforePath ++ u.path ++ u.afterPath

/-- Whether the text after the scheme has no structure. -/
def isOpaque (u : Url) : Bool := u.authority.isNone && u.path.head? ≠ some '/'

/-! ## Views of a URL's text -/

/-- The host of a URL, with its port where that is not the usual one. -/
def hostOf? (s : String) : Option String :=
  match read s with
  | .ok { authority := some a, .. } => a.host.map fun host => .ofList (host.text ++ a.portText)
  | _ => none

/-- The path of a URL, after a slash. -/
def pathOf (s : String) : Except Error String :=
  (read s).map fun u => .ofList (if u.path.head? = some '/' then u.path else '/' :: u.path)

/-- The text of a URL with `/` for its path, which is encoded where the path has no structure. -/
def rootOf (s : String) : Except Error String :=
  (read s).map fun u =>
    .ofList (u.beforePath ++ (if u.isOpaque then "%2F".toList else ['/']) ++ u.afterPath)

end Url

end ServiceExposure
