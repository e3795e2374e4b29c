import UrlFilter.Files

/-!
# The network

Lists are loaded over the web.  What comes of a request for a URL is up to the world outside, and so
is the time that it takes.  A `Network` may answer every URL in any way that a client can meet: with
a failure, which may have a status, or with bytes behind which the connection may break off.

A loader makes one request at a time.  So a load may have to wait for its turn, and what it finds
then need not be what it found before.

*Servers.*  `Network.serving` is one network, given by the replies that servers have for URLs.  A
server is reached at the port of the web alone.  There it answers every request at once, if with
nothing else then with the status that says that nothing was found.

A request to a server is read from its URL by stricter rules than those for URLs in general: the
scheme is followed by two slashes, and characters that would have to be escaped are refused.  Case
in scheme and host does not count, nor does what follows a number sign.

A reply may announce another length than that of its bytes.  Of more bytes only those announced
count.  Where bytes are missing the connection breaks off behind those that came.
-/

namespace UrlFilter

/-! ## Networks -/

/-- The bytes that come for a request. -/
structure Delivery where
  /-- The bytes. -/
  bytes : Bytes
  /-- Why no more bytes came, where more were to come. -/
  fault : Option IoFault
  deriving DecidableEq, Repr

/-- The web as a load meets it. -/
structure Network where
  /-- What comes of the request for a URL; a failure may have a status. -/
  download : Text → Except (Option Nat) Delivery
  /-- How many ticks it takes until it is the turn of a request. -/
  wait : Text → Nat
  /-- How many ticks it takes from then on until what comes has been written. -/
  span : Text → Nat

/-- No server can be reached. -/
def Network.unreachable : Network := ⟨fun _ => .error none, fun _ => 0, fun _ => 0⟩

/-- The same comes at once for every request. -/
def Network.delivering (delivery : Delivery) : Network :=
  ⟨fun _ => .ok delivery, fun _ => 0, fun _ => 0⟩

/-! ## Requests -/

/-- What a server is asked for. -/
structure Request where
  /-- The host, in lower case. -/
  host : Text
  /-- The path with the query. -/
  target : Text
  deriving DecidableEq, Repr

namespace Request

/-- The scheme of requests, in lower case, with what follows it. -/
def schemeStart : Text := "http://".toList

/-- The port that servers are reached at. -/
def webPort : Text := "80".toList

/-- Whether a character may stand in the part with user, host and port. -/
def isAuthorityChar (c : Char) : Bool :=
  c.isAlphanum || "!$&'()*+,-.:;=@[]_~".toList.contains c

/-- Whether a character may stand in the part with the user. -/
def isUserChar (c : Char) : Bool := isAuthorityChar c || c == '%'

/-- The printable ASCII characters that a path may not hold. -/
def refusedInPath : Text := ['<', '>', '`']

/-- The printable ASCII characters that a query may not hold. -/
def refusedInQuery : Text := ['"', '<', '>']

/-- Whether a path may hold a character. -/
def isPathChar (c : Char) : Bool := '!' ≤ c && !refusedInPath.contains c

/-- Whether a query may hold a character. -/
def isQueryChar (c : Char) : Bool := '!' ≤ c && !refusedInQuery.contains c

/-- The path and the query of what follows the host; an empty path stands for the root. -/
def target? (t : Text) : Option Text :=
  let t := t.takeWhile (· != '#')
  let path := t.takeWhile (· != '?')
  let query := t.dropWhile (· != '?')
  if path.all isPathChar && query.all isQueryChar then
    some ((if path.isEmpty then ['/'] else path) ++ query)
  else none

/-- A part with host and port cut at its last colon; a colon in brackets does not count. -/
def cutPort (t : Text) : Text × Text :=
  match Text.splitAtLast ':' t with
  | some (host, port) => if port.contains ']' then (t, []) else (host, port)
  | none => (t, [])

/-- The host of a part with host and port, if the port is that of the web. -/
def hostAtWebPort? (t : Text) : Option Text :=
  let (host, port) := cutPort t
  if host.isEmpty || !t.all isAuthorityChar then none
  else if port.isEmpty || port = webPort then some (host.map Text.asciiLower)
  else none

/-- The host of a part with user, host and port. -/
def host? (t : Text) : Option Text :=
  match Text.splitAtLast '@' t with
  | some (user, rest) => if user.all isUserChar then hostAtWebPort? rest else none
  | none => hostAtWebPort? t

/-- Whether a character ends the part with user, host and port. -/
def endsAuthority (c : Char) : Bool := c == '/' || c == '?' || c == '#'

/-- The request that a URL makes, if a server can be reached with it. -/
def ofUrl? (url : Text) : Option Request :=
  if !Text.eqIgnoringAsciiCase (url.take schemeStart.length) schemeStart then none
  else
    let rest := url.drop schemeStart.length
    match host? (rest.takeWhile fun c => !endsAuthority c),
      target? (rest.dropWhile fun c => !endsAuthority c) with
    | some host, some target => some ⟨host, target⟩
    | _, _ => none

end Request

/-! ## Replies -/

/-- What a server answers. -/
structure Reply where
  /-- The status. -/
  status : Nat
  /-- The bytes that the server has. -/
  bytes : Bytes
  /-- The length that the server announces, where it is not that of the bytes. -/
  declaredLength : Option Nat
  deriving DecidableEq, Repr

namespace Reply

/-- The status of success. -/
def success : Nat := 200

/-- The least status of a failure. -/
def leastFailure : Nat := 400

/-- The statuses that lead to another URL, which a reply here never names. -/
def redirections : List Nat := [301, 302, 303, 307, 308]

/-- Whether no bytes come with a status. -/
def isBodiless (status : Nat) : Bool := status < success || status == 204 || status == 304

/-- The answer to a request for something that the server does not have. -/
def notFound : Reply := ⟨404, [], none⟩

/-- The bytes that come of a reply. -/
def delivery (r : Reply) : Delivery :=
  match r.declaredLength with
  | some n => ⟨r.bytes.take n, if n ≤ r.bytes.length then none else some .disconnected⟩
  | none => ⟨r.bytes, none⟩

/-- What comes of a reply. -/
def outcome (r : Reply) : Except (Option Nat) Delivery :=
  if leastFailure ≤ r.status then .error (some r.status)
  else if redirections.contains r.status then .error none
  else if isBodiless r.status then .ok ⟨[], none⟩
  else .ok r.delivery

end Reply

namespace Network

/-- The reply to a request, which the servers have for the first URL that makes it. -/
def reply (replies : List (Text × Reply)) (request : Request) : Reply :=
  match replies.find? fun e => Request.ofUrl? e.1 == some request with
  | some e => e.2
  | none => .notFound

/-- The network whose servers have replies for URLs, and have them at once. -/
def serving (replies : List (Text × Reply)) : Network where
  download url :=
    match Request.ofUrl? url with
    | some request => (reply replies request).outcome
    | none => .error none
  wait _ := 0
  span _ := 0

end Network

end UrlFilter
