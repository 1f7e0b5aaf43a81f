import LangServer.Uri.Host
import LangServer.Uri.Percent

/-!
# Parts of a URI

A URI is read as `scheme://authority/path;params?query#fragment`, any part of which may be missing.
`Parts.split` takes a URI apart, `Parts.join` puts parts together; `Parts.parse` and `Parts.render`
do so with the parts decoded.

Reading is lenient: blanks in front, tabs and line ends are dropped, and text that has no scheme is
all path.
-/

namespace LangServer.Uri

/-- The six parts of a URI. -/
structure Parts where
  scheme : List Char := []
  authority : List Char := []
  path : List Char := []
  params : List Char := []
  query : List Char := []
  fragment : List Char := []
deriving DecidableEq, Repr

/-! ### Taking apart -/

/-- Splits at the first occurrence of a character, which is dropped. -/
def cut (sep : Char) (s : List Char) : List Char × List Char :=
  (s.takeWhile (· != sep), (s.dropWhile (· != sep)).drop 1)

/-- Drops what may not stand in a URI: controls and blanks in front, tabs and line ends. -/
def clean (s : List Char) : List Char :=
  (s.dropWhile fun c => c.toNat ≤ 0x20).filter fun c => c != '\t' && c != '\r' && c != '\n'

def isSchemeChar (c : Char) : Bool :=
  c.isAlphanum || c == '+' || c == '-' || c == '.'

def isScheme (s : List Char) : Bool :=
  (s.head?.any Char.isAlpha) && s.all isSchemeChar

/-- The scheme in lower case, and the rest. -/
def splitScheme (s : List Char) : List Char × List Char :=
  if s.contains ':' && isScheme (cut ':' s).1 then
    ((cut ':' s).1.map Char.toLower, (cut ':' s).2)
  else ([], s)

def endsAuthority (c : Char) : Bool :=
  c == '/' || c == '?' || c == '#'

/-- The authority after two slashes, and the rest. -/
def splitAuthority (s : List Char) : List Char × List Char :=
  match s with
  | '/' :: '/' :: rest =>
    (rest.takeWhile (!endsAuthority ·), rest.dropWhile (!endsAuthority ·))
  | _ => ([], s)

/-- Square brackets come in pairs, around an address. -/
def checkBrackets (authority : List Char) : Outcome Unit :=
  if authority.contains '[' != authority.contains ']' then
    .error (.badValue "Invalid IPv6 URL")
  else if authority.contains '[' then
    Host.check (cut ']' (cut '[' authority).2).1
  else .ok ()

/-- The characters whose compatibility form holds a mark that divides the parts of a URI. -/
def disguised : List Nat :=
  [0x2047, 0x2048, 0x2049, 0x2100, 0x2101, 0x2105, 0x2106, 0x2A74, 0xFE13, 0xFE16, 0xFE55, 0xFE56,
    0xFE5F, 0xFE6B, 0xFF03, 0xFF0F, 0xFF1A, 0xFF1F, 0xFF20]

def checkDisguise (authority : List Char) : Outcome Unit :=
  if authority.any fun c => disguised.contains c.toNat then
    .error (.badValue ("netloc '" ++ String.ofList authority ++
      "' contains invalid characters under NFKC normalization"))
  else .ok ()

/-- The schemes whose paths end in parameters. -/
def paramSchemes : List String :=
  ["", "ftp", "hdl", "prospero", "http", "imap", "https", "shttp", "rtsp", "rtsps", "rtspu", "sip",
    "sips", "mms", "sftp", "tel"]

/-- The path up to its last slash, and its last segment. -/
def splitLastSegment (path : List Char) : List Char × List Char :=
  let last := (path.reverse.takeWhile (· != '/')).reverse
  (path.take (path.length - last.length), last)

/-- The path, and the parameters after the first semicolon of its last segment. -/
def splitParams (path : List Char) : List Char × List Char :=
  let (front, last) := splitLastSegment path
  (front ++ (cut ';' last).1, (cut ';' last).2)

namespace Parts

/-- Takes a URI apart, leaving its parts coded. -/
def split (uri : List Char) : Outcome Parts := do
  let (scheme, rest) := splitScheme (clean uri)
  let (authority, rest) := splitAuthority rest
  checkBrackets authority
  let (rest, fragment) := cut '#' rest
  let (path, query) := cut '?' rest
  checkDisguise authority
  let (path, params) :=
    if paramSchemes.contains (String.ofList scheme) then splitParams path else (path, [])
  return { scheme, authority, path, params, query, fragment }

/-- Applies a function to every part. -/
def map (f : List Char → List Char) (p : Parts) : Parts where
  scheme := f p.scheme
  authority := f p.authority
  path := f p.path
  params := f p.params
  query := f p.query
  fragment := f p.fragment

/-- Takes a URI apart and decodes its parts. -/
def parse (uri : List Char) : Outcome Parts := do
  return (← split uri).map Percent.decode

/-! ### Putting together -/

/-- The schemes whose URIs are written with an authority, even an empty one. -/
def authoritySchemes : List String :=
  ["ftp", "http", "gopher", "nntp", "telnet", "imap", "wais", "file", "mms", "https", "shttp",
    "snews", "prospero", "rtsp", "rtsps", "rtspu", "rsync", "svn", "svn+ssh", "sftp", "nfs", "git",
    "git+ssh", "ws", "wss"]

/-- A mark and a part, or nothing where the part is empty. -/
def marked (mark : Char) (part : List Char) : List Char :=
  if part.isEmpty then [] else mark :: part

/-- Whether the authority is written. -/
def writesAuthority (p : Parts) : Bool :=
  !p.authority.isEmpty ||
    (authoritySchemes.contains (String.ofList p.scheme) && p.path.take 2 != ['/', '/'])

/-- Puts coded parts together. -/
def join (p : Parts) : List Char :=
  let path := p.path ++ marked ';' p.params
  let hier :=
    if writesAuthority { p with path } then
      let path := if path.isEmpty || path.head? == some '/' then path else '/' :: path
      '/' :: '/' :: p.authority ++ path
    else path
  let front := if p.scheme.isEmpty then [] else p.scheme ++ [':']
  front ++ hier ++ marked '?' p.query ++ marked '#' p.fragment

end Parts

/-! ### Drive letters -/

/-- A path that begins with a slash, an ASCII letter and a colon. -/
def hasDrive (path : List Char) : Bool :=
  match path with
  | '/' :: letter :: ':' :: _ => letter.isAlpha
  | _ => false

/-- Codes a path; the colon after a drive letter stays. -/
def encodePath (path : List Char) : List Char :=
  if hasDrive path then path.take 3 ++ Percent.encode (path.drop 3) else Percent.encode path

/-- Codes parts and puts them together. -/
def Parts.render (p : Parts) : List Char :=
  join { p.map Percent.encode with path := encodePath p.path }

end LangServer.Uri
