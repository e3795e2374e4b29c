import UrlFilter.Digest
import UrlFilter.Loader

/-!
# Lists from the web

A list from the web is either read straight from the reply, or kept in a file and read from there.

The file of a URL lies in the folder of the lists.  Its name is made of the end of the URL and the
digest of all of it.  The file is *fresh* for a time after it was written, and then nothing is asked
of the network.  Otherwise the list is downloaded.  The reply is written to a file beside it first,
and takes its place only if it is complete, is a text, and has at least one byte.  If the download
fails the old file is read, however old it is.

A load may have to wait for its turn to download.  When it comes it looks at the file once more, and
downloads nothing if the file is fresh by now.
-/

namespace UrlFilter

/-- Where lists from the web are kept, and for how long they are fresh. -/
structure ListCache where
  /-- The folder of the lists. -/
  folder : Path
  /-- How long a list is fresh. -/
  interval : Duration
  deriving DecidableEq, Repr

namespace ListCache

/-! ## Names -/

/-- How many characters of the end of a URL go into a name. -/
def maxBasename : Nat := 64

/-- Whether a character goes into a name as it is. -/
def isNameChar (c : Char) : Bool := c.isAlphanum || c == '.' || c == '-' || c == '_'

/-- A text without the slashes at its end. -/
def trimSlashes (t : Text) : Text := (t.reverse.dropWhile (· == '/')).reverse

/-- The text behind the last slash. -/
def lastSegment (t : Text) : Text :=
  match Text.splitAtLast '/' t with
  | some (_, last) => last
  | none => t

/-- The end of a URL as it goes into a name. -/
def basename (url : Text) : Text :=
  ((lastSegment (trimSlashes url)).take maxBasename).map fun c => if isNameChar c then c else '_'

/-- The name of the file in which the list of a URL is kept. -/
def fileName (url : Text) : Text := basename url ++ (Digest.ofText url).toHex

/-- The end of the name of a file that is being written. -/
def temporarySuffix : Text := ".tmp".toList

/-- The name of the file that is written first. -/
def temporaryName (url : Text) : Text := fileName url ++ temporarySuffix

/-- The path of the file in which the list of a URL is kept. -/
def path (c : ListCache) (url : Text) : Path := c.folder.child (fileName url)

/-! ## Freshness -/

/-- Whether something is new enough at some time: it has bytes, and is neither from the future nor
older than the interval. -/
def isFresh (c : ListCache) (now : Time) (node : Node) : Bool :=
  !node.isEmpty && node.modified ≤ now && now - node.modified ≤ c.interval.ticks

/-- Whether the list of a URL has to be downloaded. -/
def needsDownload (c : ListCache) (w : World) (url : Text) : Bool :=
  match w.files.stat (c.path url) with
  | .ok node => !c.isFresh w.now node
  | .error _ => true

/-! ## Downloading -/

/-- What is wrong with the bytes of a list that is to be kept. -/
def verify (bytes : Bytes) : Except LoadFault Unit :=
  if bytes.isEmpty then .error .emptyDownload
  else
    match Utf8.decode bytes with
    | .error fault => .error (.downloadNotText fault)
    | .ok _ => .ok ()

/-- Takes a file that has been written in the place of the list of a URL. -/
def accept (c : ListCache) (fs : Files) (url : Text) (bytes : Bytes) :
    Except LoadFault Unit × Files :=
  match verify bytes with
  | .error fault => (.error fault, fs.remove c.folder (temporaryName url))
  | .ok () =>
    match fs.rename c.folder (temporaryName url) (fileName url) with
    | .error cause => (.error (.io cause), fs)
    | .ok fs => (.ok (), fs)

/-- Keeps what was delivered for a URL. -/
def store (c : ListCache) (fs : Files) (now : Time) (url : Text) (delivery : Delivery) :
    Except LoadFault Unit × Files :=
  match fs.write now c.folder (temporaryName url) delivery.bytes with
  | .error cause => (.error (.io cause), fs)
  | .ok fs =>
    match delivery.fault with
    | some cause => (.error (.io cause), fs)
    | none => c.accept fs url delivery.bytes

/-- Replaces the list of a URL by what the network delivers. -/
def refresh (c : ListCache) (w : World) (url : Text) : Except LoadFault Unit × Files :=
  match w.files.makeFolders w.now c.folder with
  | (.error cause, fs) => (.error (.io cause), fs)
  | (.ok (), fs) =>
    match w.network.download url with
    | .error status => (.error (.downloadFailed url status), fs)
    | .ok delivery => c.store fs (w.arrival url) url delivery

/-- Downloads the list of a URL into its file, unless the file is fresh by now. -/
def download (c : ListCache) (w : World) (url : Text) : Except LoadFault Unit × Files :=
  if c.needsDownload w url then c.refresh w url else (.ok (), w.files)

/-- Loads the list of a URL. -/
def load (c : ListCache) (w : World) (url : Text) : Except LoadFault (List Text) × Files :=
  if c.needsDownload w url then
    match c.download (w.turn url) url with
    | (.error fault, fs) =>
      if fs.has (c.path url) then (fs.readList (c.path url), fs) else (.error fault, fs)
    | (.ok (), fs) => (fs.readList (c.path url), fs)
  else (w.files.readList (c.path url), w.files)

end ListCache

/-! ## Without a folder -/

/-- The lines of what was delivered for a URL. -/
def Delivery.lines (d : Delivery) (url : Text) : Except LoadFault (List Text) :=
  match d.fault with
  | some cause => .error (.replyUnreadable url cause)
  | none =>
    match Utf8.decode d.bytes with
    | .error _ => .error (.replyUnreadable url .notText)
    | .ok t => .ok (Text.splitLines t)

/-- Loads the list of a URL without keeping it. -/
def Network.loadList (network : Network) (url : Text) : Except LoadFault (List Text) :=
  match network.download url with
  | .error status => .error (.downloadFailed url status)
  | .ok delivery => delivery.lines url

end UrlFilter
