import UrlFilter.Loader.Download
import UrlFilter.Options

/-!
# Sources of lists

A `Loader` is one of four ways to load lists.  `Loader.load` is the one function that all of them
share: from a world and a source to lines, with the files afterwards.
-/

namespace UrlFilter

/-- A way to load lists. -/
inductive Loader where
  /-- Every list is empty. -/
  | nil
  /-- Lists are held under names; of two with the same name the later one counts. -/
  | memory (lists : List (Text × Text))
  /-- Sources are paths of files. -/
  | file
  /-- Sources are paths of files, or URLs of lists on the web that may be kept. -/
  | auto (cache : Option ListCache)
  deriving DecidableEq, Repr

namespace Loader

/-- The list that is held under a name. -/
def find? (lists : List (Text × Text)) (name : Text) : Option Text := lists.reverse.lookup name

/-- Loads a list from files and from the web. -/
def loadAuto (cache : Option ListCache) (w : World) (source : Text) :
    Except LoadFault (List Text) × Files :=
  if Url.isRemote source then
    match cache with
    | some c => c.load w source
    | none => (w.network.loadList source, w.files)
  else (w.files.readList (Path.ofText source), w.files)

/-- The lines of a source, and the files afterwards. -/
def load (loader : Loader) (w : World) (source : Text) : Except LoadFault (List Text) × Files :=
  match loader with
  | nil => (.ok [], w.files)
  | memory lists =>
    match find? lists source with
    | some t => (.ok (Text.splitLines t), w.files)
    | none => (.error (.unknownSource source), w.files)
  | file => (w.files.readList (Path.ofText source.trim), w.files)
  | auto cache => loadAuto cache w source.trim

end Loader

/-- The loader of an engine that is not told otherwise. -/
def Options.loader (o : Options) : Loader :=
  .auto (o.listCacheDir.map fun dir => ⟨Path.ofText dir, o.updateInterval.toNat⟩)

end UrlFilter
