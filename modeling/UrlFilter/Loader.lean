import UrlFilter.Network
import UrlFilter.Text.Lines

/-!
# Loading lists

A loader turns a source into the lines of a list.  Where it looks depends on its kind: nowhere, in
texts that it holds itself, among the files, or among the files and on the web.

What a loader works on is the *world*: the files, the network, and the time.  Loading leaves the
network as it is and may change files.  The time goes on while a load waits for its turn on the
network, and while it writes what comes.  What it does besides takes no time.
-/

namespace UrlFilter

/-! ## Faults -/

/-- Why a list cannot be loaded. -/
inductive LoadFault where
  /-- The file at a path cannot be read. -/
  | unreadable (path : Text) (cause : IoFault)
  /-- The file at a path is no text. -/
  | fileNotText (path : Text) (fault : Utf8.Fault)
  /-- The loader does not hold the source. -/
  | unknownSource (source : Text)
  /-- No reply came for a URL, or one with the status of a failure. -/
  | downloadFailed (url : Text) (status : Option Nat)
  /-- The reply for a URL cannot be read. -/
  | replyUnreadable (url : Text) (cause : IoFault)
  /-- The reply that was to be kept has no bytes. -/
  | emptyDownload
  /-- The reply that was to be kept is no text. -/
  | downloadNotText (fault : Utf8.Fault)
  /-- The reply cannot be kept. -/
  | io (cause : IoFault)
  deriving DecidableEq, Repr

namespace LoadFault

/-- The kinds of faults. -/
inductive Kind where
  /-- A source cannot be found or read. -/
  | file
  /-- A list does not come over the web. -/
  | download
  /-- A list is not what a list should be. -/
  | data
  /-- A list cannot be kept. -/
  | io
  deriving DecidableEq, Repr

/-- The kind of a fault. -/
def kind : LoadFault → Kind
  | unreadable _ _ | unknownSource _ => .file
  | downloadFailed _ _ => .download
  | fileNotText _ _ | replyUnreadable _ _ | emptyDownload | downloadNotText _ => .data
  | io _ => .io

/-- The words for a status. -/
def statusMessage : Option Nat → String
  | some status => ": http status: " ++ toString status
  | none => ""

/-- The words for the cause of a fault. -/
def detail : LoadFault → String
  | unreadable path cause =>
    "Failed to read filter list '" ++ String.ofList path ++ "': " ++ cause.message
  | fileNotText path fault =>
    "Filter list '" ++ String.ofList path ++ "' is not valid UTF-8: " ++ fault.message
  | unknownSource source => "Unknown filter list source: " ++ String.ofList source
  | downloadFailed url status =>
    "Download of " ++ String.ofList url ++ " failed" ++ statusMessage status
  | replyUnreadable url cause => "Failed to read " ++ String.ofList url ++ ": " ++ cause.message
  | emptyDownload => "downloaded filter list is empty"
  | downloadNotText fault => "downloaded filter list is not valid UTF-8: " ++ fault.message
  | io cause => cause.message

/-- The words for a fault. -/
def message (fault : LoadFault) : String :=
  match fault with
  | io _ => "IO error: " ++ fault.detail
  | _ => "List load error: " ++ fault.detail

end LoadFault

/-! ## The world -/

/-- What lists are loaded from. -/
structure World where
  /-- The files. -/
  files : Files
  /-- The network. -/
  network : Network
  /-- The time. -/
  now : Time

namespace World

/-- The ticks in a second. -/
def ticksPerSecond : Nat := 1000000000

/-- The world with other files. -/
def withFiles (w : World) (files : Files) : World := ⟨files, w.network, w.now⟩

/-- The world some ticks later. -/
def later (w : World) (ticks : Nat) : World := ⟨w.files, w.network, w.now + ticks⟩

/-- The world when it is the turn of the request for a URL. -/
def turn (w : World) (url : Text) : World := w.later (w.network.wait url)

/-- The time at which all that comes for a URL has been written, if it is its turn. -/
def arrival (w : World) (url : Text) : Time := w.now + w.network.span url

end World

/-- A length of time. -/
structure Duration where
  /-- How many ticks it lasts. -/
  ticks : Nat
  deriving DecidableEq, Repr

/-- So many seconds. -/
def Duration.ofSeconds (seconds : Nat) : Duration := ⟨seconds * World.ticksPerSecond⟩

/-- Where a length of time is needed, a number stands for so many seconds. -/
instance : Coe Nat Duration := ⟨Duration.ofSeconds⟩

/-! ## Lists in files -/

/-- The lines of the list in the file at a path. -/
def Files.readList (fs : Files) (p : Path) : Except LoadFault (List Text) :=
  match fs.read p with
  | .error cause => .error (.unreadable p.toText cause)
  | .ok bytes =>
    match Utf8.decode bytes with
    | .error fault => .error (.fileNotText p.toText fault)
    | .ok t => .ok (Text.splitLines t)

end UrlFilter
