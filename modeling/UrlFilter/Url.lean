import UrlFilter.Url.Host

/-!
# URLs

`Url.parse` reads an absolute URL by the rules of the web, as far as its scheme and its host go.
Characters that are not in print are cut off its ends, and tabs and line breaks are disregarded
anywhere.  What follows the scheme depends on its kind.

* The schemes of the *web* have a host for certain.  It stands behind any number of slashes and
  backslashes.
* A *file* has a host behind two slashes or backslashes.  It has none if it would be the local
  machine, or the drive of a path.  The path is read as it is written, because a tab or a line break
  behind a drive cuts it off from the rest of its segment.
* Any *other* scheme has a host behind two slashes.

In front of the host a user may be named, up to the last `@`.  Behind it a port may follow.  Path,
query and fragment can hold anything.

A query is a URL that rules are asked about.  `Url.trimQuery` accepts a text with a host, and gives
it back without the blanks at its ends, otherwise unchanged.
-/

namespace UrlFilter

/-- What a URL says first: its scheme and its host. -/
structure Url where
  /-- The scheme, in lower case. -/
  scheme : Text
  /-- The host, if there is one. -/
  host : Option Url.Host
  deriving DecidableEq, Repr

namespace Url

/-! ## Ignored characters -/

/-- Whether a character is disregarded wherever it stands. -/
def isIgnored (c : Char) : Bool := c == '\t' || c == '\n' || c == '\r'

/-- A text without the characters that are disregarded. -/
def significant (t : Text) : Text := t.filter fun c => !isIgnored c

/-- What is left of a text without the first so many characters that count. -/
def dropSignificant : Nat → Text → Text
  | 0, t => t
  | _ + 1, [] => []
  | n + 1, c :: r => if isIgnored c then dropSignificant (n + 1) r else dropSignificant n r

/-! ## The scheme -/

/-- How the text behind a scheme is read. -/
inductive SchemeKind where
  /-- A scheme of the web, which needs a host. -/
  | web
  /-- The scheme of files. -/
  | file
  /-- Any other scheme. -/
  | other
  deriving DecidableEq, Repr

/-- The schemes of the web. -/
def webSchemes : List Text :=
  ["http".toList, "https".toList, "ws".toList, "wss".toList, "ftp".toList]

/-- The kind of a scheme. -/
def SchemeKind.of (scheme : Text) : SchemeKind :=
  if webSchemes.contains scheme then .web
  else if scheme = "file".toList then .file
  else .other

/-- Whether backslashes count as slashes. -/
def SchemeKind.hasBackslash : SchemeKind → Bool
  | .web | .file => true
  | .other => false

/-- Whether a character may stand in a scheme. -/
def isSchemeChar (c : Char) : Bool := c.isAlphanum || c == '+' || c == '-' || c == '.'

/-- The scheme in front of a text, in lower case, and the text behind its colon. -/
def cutScheme (t : Text) : Option (Text × Text) :=
  match t.dropWhile isSchemeChar with
  | ':' :: rest =>
    if t.head?.any Char.isAlpha then some ((t.takeWhile isSchemeChar).map Text.asciiLower, rest)
    else none
  | _ => none

/-! ## The authority -/

/-- Whether a character is a slash or, where they count, a backslash. -/
def isSlash (kind : SchemeKind) (c : Char) : Bool := c == '/' || (kind.hasBackslash && c == '\\')

/-- Whether a character ends the part of a URL that names user, host and port. -/
def endsAuthority (kind : SchemeKind) (c : Char) : Bool := isSlash kind c || c == '?' || c == '#'

/-- Whether the part in front of the `@` names a user. -/
def namesUser (user : Text) : Bool := user != [] && user != [':']

/-- The text up to the colon in front of the port, and the rest; a colon in brackets does not
count. -/
def cutPort (inBrackets : Bool) : Text → Text × Text
  | [] => ([], [])
  | c :: r =>
    if c = ':' ∧ !inBrackets then ([], c :: r)
    else
      let (host, rest) := cutPort (c == '[' || (inBrackets && c != ']')) r
      (c :: host, rest)

/-- The greatest port. -/
def maxPort : Nat := 65535

/-- Whether a text is a port: digits of a number that is not too large. -/
def isPort (t : Text) : Bool :=
  t.all (fun c => '0' ≤ c && c ≤ '9') &&
    t.foldl (fun n c => 10 * n + (c.toNat - '0'.toNat)) 0 ≤ maxPort

/-- Whether a text is nothing, or a colon with a port.  A backslash ends the port in any scheme. -/
def isPortPart (t : Text) : Bool := isPort ((t.drop 1).takeWhile (· != '\\'))

/-- The text of a host as a host. -/
def parseHost (kind : SchemeKind) (host : Text) : Except Fault (Option Host) :=
  match kind with
  | .other => Host.parsePlain host
  | _ => if host.isEmpty then .error .emptyHost else (Host.parseDomain host).map some

/-- The host of a text that names host and port, in front of which a user is named or not. -/
def parseHostAndPort (kind : SchemeKind) (hasUser : Bool) (t : Text) :
    Except Fault (Option Host) := do
  let (text, rest) := cutPort false t
  let host ← parseHost kind text
  if host.isNone && !rest.isEmpty then throw .emptyHost
  if !isPortPart rest then throw .invalidPort
  if host.isNone && hasUser then throw .emptyHost
  return host

/-- The host of the text behind the slashes. -/
def parseAuthority (kind : SchemeKind) (t : Text) : Except Fault (Option Host) :=
  let authority := t.takeWhile fun c => !endsAuthority kind c
  match Text.splitAtLast '@' authority with
  | none => parseHostAndPort kind false authority
  | some (user, rest) =>
    if user.isEmpty && rest.isEmpty && authority.length < t.length then .error .emptyHost
    else parseHostAndPort kind (namesUser user) rest

/-! ## Files -/

/-- Whether a text names a drive: a letter with a colon or a bar. -/
def isDrive : Text → Bool
  | [c, d] => c.isAlpha && (d == ':' || d == '|')
  | _ => false

/-- The ways to write a path segment that stands for the folder it is in. -/
def isSingleDot (segment : Text) : Bool :=
  [".".toList, "%2e".toList].contains (segment.map Text.asciiLower)

/-- The ways to write a path segment that stands for the folder above. -/
def isDoubleDot (segment : Text) : Bool :=
  ["..".toList, ".%2e".toList, "%2e.".toList, "%2e%2e".toList].contains
    (segment.map Text.asciiLower)

/-- The segments that are left of some, latest first, where one stands for the folder above.  It
takes no drive away. -/
def stepUp : List Text → List Text
  | [] => []
  | last :: before => if isDrive last then last :: before else before

/-- Whether a segment, as it is written, starts with a letter and a colon that an ignored character
cuts off from the rest of the segment. -/
def cutsOffDrive (written : Text) : Bool :=
  match significant written with
  | c :: ':' :: _ :: _ => c.isAlpha && (dropSignificant 2 written).head?.any isIgnored
  | _ => false

/-- Whether a path comes to name a drive at its root, given by the segments that are left, latest
first, and by those to come, as they are written.  A drive that is cut off from the rest of its
segment becomes a segment of its own, and does not count. -/
def namesDrive (before : List Text) : List Text → Bool
  | [] => false
  | written :: rest =>
    let segment := significant written
    if before.isEmpty && cutsOffDrive written then
      namesDrive [segment.drop 2, segment.take 2] rest
    else if isDoubleDot segment then namesDrive (stepUp before) rest
    else if isSingleDot segment then namesDrive before rest
    else (before.isEmpty && isDrive segment) || namesDrive (segment :: before) rest

/-- The segments of the path that follows a host, as they are written. -/
def pathSegments (written : Text) : List Text :=
  match written.dropWhile isIgnored with
  | [] => []
  | c :: r =>
    if isSlash .file c then
      (r.takeWhile fun c => c != '?' && c != '#').splitOnP (isSlash .file)
    else []

/-- The host of a text behind the slashes of a file.  The URL that it ends is given as it is
written. -/
def parseFileHost (written t : Text) : Except Fault (Option Host) :=
  let text := t.takeWhile fun c => !endsAuthority .file c
  let path := t.dropWhile fun c => !endsAuthority .file c
  if text.isEmpty || isDrive text then .ok none
  else
    match Host.parseDomain text with
    | .error fault => .error fault
    | .ok host =>
      let path := dropSignificant ((significant written).length - path.length) written
      if host = .domain "localhost".toList || namesDrive [] (pathSegments path) then .ok none
      else .ok (some host)

/-! ## The whole URL -/

/-- The host of a text behind the colon of a scheme.  The URL that it ends is given as it is
written. -/
def parseRest (kind : SchemeKind) (written t : Text) : Except Fault (Option Host) :=
  match kind with
  | .web => parseAuthority .web (t.dropWhile (isSlash .web))
  | .file =>
    match t with
    | c :: d :: r =>
      if isSlash .file c && isSlash .file d then parseFileHost written r else .ok none
    | _ => .ok none
  | .other =>
    match t with
    | '/' :: '/' :: r => parseAuthority .other r
    | _ => .ok none

/-- Whether a character is cut off the ends of a URL. -/
def isOutside (c : Char) : Bool := c ≤ ' '

/-- A text without what is cut off its ends. -/
def cutEnds (t : Text) : Text := ((t.dropWhile isOutside).reverse.dropWhile isOutside).reverse

/-- Reads an absolute URL. -/
def parse (t : Text) : Except Fault Url :=
  let written := cutEnds t
  match cutScheme (significant written) with
  | none => .error .noScheme
  | some (scheme, rest) =>
    match parseRest (SchemeKind.of scheme) written rest with
    | .error fault => .error fault
    | .ok host => .ok ⟨scheme, host⟩

/-! ## Queries -/

/-- Why a URL cannot be asked about. -/
inductive QueryFault where
  /-- The text is no URL. -/
  | url (fault : Fault)
  /-- The URL has no host. -/
  | missingHost
  deriving DecidableEq, Repr

/-- The words for a fault of a query. -/
def QueryFault.message : QueryFault → String
  | url fault => fault.message
  | missingHost => "missing host"

end Url

/-- A URL that cannot be asked about. -/
structure InvalidUrl where
  /-- The URL, without the blanks at its ends. -/
  url : Text
  /-- What is wrong with it. -/
  why : Url.QueryFault
  deriving DecidableEq, Repr

/-- The words for a URL that cannot be asked about. -/
def InvalidUrl.message (e : InvalidUrl) : String :=
  "Invalid URL: " ++ String.ofList e.url ++ ": " ++ e.why.message

namespace Url

/-- The URL that a text asks about. -/
def trimQuery (t : Text) : Except InvalidUrl Text :=
  match parse t.trim with
  | .error fault => .error ⟨t.trim, .url fault⟩
  | .ok url => if url.host.isSome then .ok t.trim else .error ⟨t.trim, .missingHost⟩

/-- Whether a text is a URL that is loaded over the web. -/
def isRemote (t : Text) : Bool :=
  match parse t.trim with
  | .error _ => false
  | .ok url => url.scheme == "http".toList || url.scheme == "https".toList

end Url

end UrlFilter
