import UrlFilter.Json.Reader
import UrlFilter.Options

/-!
# Options in JSON

Options are written as an object with one member for each.  They are read from such an object, in
which members may be missing and may stand in any order, or from an array of their values in order,
which may end early.  What is missing takes its value by default.  An unknown key is a fault, and so
is a key that stands twice.
-/

namespace UrlFilter.Options

/-! ## Fields -/

/-- The options by name. -/
inductive Field where
  /-- How many decisions are remembered. -/
  | cacheSize
  /-- How many batches are kept. -/
  | resultCacheSize
  /-- The folder for lists. -/
  | listCacheDir
  /-- The seconds between loads. -/
  | updateInterval
  deriving DecidableEq, Repr

namespace Field

/-- The fields in order. -/
def all : List Field := [cacheSize, resultCacheSize, listCacheDir, updateInterval]

/-- The key of a field. -/
def name : Field → Text
  | cacheSize => "cache_size".toList
  | resultCacheSize => "result_cache_size".toList
  | listCacheDir => "list_cache_dir".toList
  | updateInterval => "update_interval_secs".toList

/-- The field with a key. -/
def ofName? (name : Text) : Option Field := all.find? fun f => f.name == name

end Field

/-! ## Writing -/

/-- The value of a field. -/
def fieldJson (o : Options) : Field → Text
  | .cacheSize => Nat.toDigits 10 o.cacheSize.toNat
  | .resultCacheSize => Nat.toDigits 10 o.resultCacheSize.toNat
  | .listCacheDir =>
    match o.listCacheDir with
    | some dir => Json.quote dir
    | none => "null".toList
  | .updateInterval => Nat.toDigits 10 o.updateInterval.toNat

/-- A field as a member of an object. -/
def memberJson (o : Options) (f : Field) : Text := Json.quote f.name ++ ':' :: o.fieldJson f

/-- Options as an object, without blanks. -/
def toJson (o : Options) : Text :=
  '\x7B' :: [','].intercalate (Field.all.map o.memberJson) ++ ['\x7D']

/-! ## Reading -/

/-- The fields that were given, with their values. -/
structure Given where
  /-- How many decisions are remembered. -/
  cacheSize : Option UInt64
  /-- How many batches are kept. -/
  resultCacheSize : Option UInt64
  /-- The folder for lists. -/
  listCacheDir : Option (Option Text)
  /-- The seconds between loads. -/
  updateInterval : Option UInt64
  deriving DecidableEq, Repr

namespace Given

/-- No fields. -/
def none : Given := ⟨.none, .none, .none, .none⟩

/-- Whether a field was given. -/
def has (g : Given) : Field → Bool
  | .cacheSize => g.cacheSize.isSome
  | .resultCacheSize => g.resultCacheSize.isSome
  | .listCacheDir => g.listCacheDir.isSome
  | .updateInterval => g.updateInterval.isSome

/-- The options with the given fields, and the others by default. -/
def options (g : Given) : Options where
  cacheSize := g.cacheSize.getD default.cacheSize
  resultCacheSize := g.resultCacheSize.getD default.resultCacheSize
  listCacheDir := g.listCacheDir.getD default.listCacheDir
  updateInterval := g.updateInterval.getD default.updateInterval

/-- Reads the value of a field. -/
def readField (g : Given) (f : Field) (t : Text) : Except Json.Fault (Given × Text) :=
  match f with
  | .cacheSize =>
    (Json.readNatural "usize" t).map fun v => ({ g with cacheSize := some v.1 }, v.2)
  | .resultCacheSize =>
    (Json.readNatural "usize" t).map fun v => ({ g with resultCacheSize := some v.1 }, v.2)
  | .listCacheDir =>
    (Json.readOptional "path string" t).map fun v => ({ g with listCacheDir := some v.1 }, v.2)
  | .updateInterval =>
    (Json.readNatural "u64" t).map fun v => ({ g with updateInterval := some v.1 }, v.2)

/-- Reads a member behind its key. -/
def readMember (g : Given) (key t : Text) : Except Json.Fault (Given × Text) :=
  match Field.ofName? key with
  | .none => .error (.unknownField key (Field.all.map Field.name))
  | some f =>
    if g.has f then .error (.duplicateField f.name)
    else
      match Json.readColon t with
      | .error fault => .error fault
      | .ok t => g.readField f t

/-- Reads the next member of an object, of which some were read; the flag says whether it is the
first. -/
def memberStep (state : Bool × Given) (t : Text) :
    Except Json.Fault (Text.Progress (Bool × Given) Given) := do
  match ← Json.nextKey state.1 t with
  | .none => return .done state.2 ((Json.skipSpaces t).drop 1)
  | some t =>
    let (key, rest) ← Json.readQuoted t
    let (given, rest) ← state.2.readMember key rest
    return .more (false, given) rest

/-- Reads the members of an object behind its brace. -/
def readMembers (t : Text) : Except Json.Fault (Given × Text) :=
  Text.loop .endInObject memberStep (true, none) t

/-- Reads the elements of an array as fields in order, and the end of the array. -/
def readElements (isFirst : Bool) (g : Given) : List Field → Text → Except Json.Fault (Given × Text)
  | [], t => (Json.readArrayEnd t).map fun rest => (g, rest)
  | f :: fs, t => do
    match ← Json.nextElement isFirst t with
    | .none => return (g, (Json.skipSpaces t).drop 1)
    | some t =>
      let (g, rest) ← g.readField f t
      readElements false g fs rest

/-- Reads the fields that a text gives, and the rest of it. -/
def read (t : Text) : Except Json.Fault (Given × Text) :=
  match Json.skipSpaces t with
  | '\x7B' :: r => readMembers r
  | '[' :: r => readElements true none Field.all r
  | t => .error (Json.typeFault "struct EngineOptions" t)

end Given

/-- Reads options from a JSON text. -/
def ofJson (t : Text) : Except Json.Fault Options := do
  let (given, rest) ← Given.read t
  Json.readEnd rest
  return given.options

/-- The words for a JSON text that gives no options. -/
def faultMessage (fault : Json.Fault) : String :=
  "Config error: Invalid engine options: " ++ fault.message

end UrlFilter.Options
