import Mathlib.Data.List.Nodup
import UrlFilter.Options.Json
import UrlFilter.Proofs.Json.Reader

/-!
# Options in JSON

Which objects are options, and what they say.  A member that may stand in such an object is a
`Setting`: a field with a value of its type.  An object is options where all its members are
settings, with no field twice, and it says that these fields have these values and that the others
have theirs by default (`ofJson_eq_ok_iff`).  Keys and strings may be spelled in any way.  A number
with a fraction or an exponent is no setting, even if it is a whole number.

*Reading a member.*  The value of a field is taken by the reader for its type, so a member is read
as a setting or not at all (`toOption_readField`), and one that was given before is not read again
(`Given.member?`).

*Reading members.*  The members are read one after the other, and each puts its setting to what the
ones in front of it gave (`toOption_loop_members`).

*Writing.*  `toJson` writes an object of all four settings, so reading gives the same options
(`ofJson_toJson`).
-/

namespace UrlFilter.Options

variable {f : Field} {g g' : Given} {m : Text × Json.Value} {ms : List (Text × Json.Value)}
  {t w rest : Text} {v : Json.Value}

/-! ## Settings -/

/-- A field with a value of its type. -/
inductive Setting where
  /-- How many decisions are remembered. -/
  | cacheSize (size : UInt64)
  /-- How many batches are kept. -/
  | resultCacheSize (size : UInt64)
  /-- The folder for lists, if there is one. -/
  | listCacheDir (dir : Option Text)
  /-- The seconds between loads. -/
  | updateInterval (seconds : UInt64)
  deriving DecidableEq, Repr

namespace Setting

/-- The field of a setting. -/
def field : Setting → Field
  | cacheSize _ => .cacheSize
  | resultCacheSize _ => .resultCacheSize
  | listCacheDir _ => .listCacheDir
  | updateInterval _ => .updateInterval

/-- The value of a setting in JSON. -/
def value : Setting → Json.Value
  | cacheSize size => .natural size.toNat
  | resultCacheSize size => .natural size.toNat
  | listCacheDir none => .null
  | listCacheDir (some dir) => .string dir
  | updateInterval seconds => .natural seconds.toNat

/-- A setting as a member of an object. -/
def member (s : Setting) : Text × Json.Value := (s.field.name, s.value)

end Setting

/-- Options with the field of a setting replaced. -/
def put (o : Options) : Setting → Options
  | .cacheSize size => { o with cacheSize := size }
  | .resultCacheSize size => { o with resultCacheSize := size }
  | .listCacheDir dir => { o with listCacheDir := dir }
  | .updateInterval seconds => { o with updateInterval := seconds }

/-- The fields that were given, with the one of a setting. -/
def Given.put (g : Given) : Setting → Given
  | .cacheSize size => { g with cacheSize := some size }
  | .resultCacheSize size => { g with resultCacheSize := some size }
  | .listCacheDir dir => { g with listCacheDir := some dir }
  | .updateInterval seconds => { g with updateInterval := some seconds }

@[simp] theorem Given.options_put (g : Given) (s : Setting) :
    (g.put s).options = Options.put g.options s := by
  cases s <;> rfl

@[simp] theorem Given.has_put (g : Given) (s : Setting) :
    (g.put s).has f = (decide (s.field = f) || g.has f) := by
  cases s <;> cases f <;> rfl

theorem Given.options_foldl_put (ss : List Setting) (g : Given) :
    (ss.foldl Given.put g).options = ss.foldl Options.put g.options := by
  induction ss generalizing g with
  | nil => rfl
  | cons s ss ih => rw [List.foldl_cons, List.foldl_cons, ih, Given.options_put]

/-! ## Members as settings -/

theorem Field.mem_all (f : Field) : f ∈ Field.all := by
  cases f <;> decide

theorem Field.name_injective : Function.Injective Field.name := by
  intro f f' h
  cases f <;> cases f' <;> first | rfl | exact absurd h (by decide)

theorem Field.ofName?_eq_some_iff {key : Text} : Field.ofName? key = some f ↔ f.name = key := by
  constructor
  · intro h
    rw [Field.ofName?] at h
    simpa using List.find?_some h
  · rintro rfl
    cases f <;> decide

/-- A value as the setting of a field. -/
def Field.setting? : Field → Json.Value → Option Setting
  | .cacheSize, v => v.natural?.map .cacheSize
  | .resultCacheSize, v => v.natural?.map .resultCacheSize
  | .listCacheDir, v => v.optional?.map .listCacheDir
  | .updateInterval, v => v.natural?.map .updateInterval

theorem Field.setting?_eq_some_iff {s : Setting} :
    f.setting? v = some s ↔ s.field = f ∧ s.value = v := by
  constructor
  · intro h
    cases f with
    | listCacheDir =>
      obtain ⟨dir, hdir, rfl⟩ := Option.map_eq_some_iff.mp h
      cases v <;> cases hdir <;> exact ⟨rfl, rfl⟩
    | _ =>
      obtain ⟨n, hn, rfl⟩ := Option.map_eq_some_iff.mp h
      exact ⟨rfl, (Json.Value.natural?_eq_some_iff.mp hn).symm⟩
  · rintro ⟨rfl, rfl⟩
    cases s with
    | listCacheDir dir => cases dir <;> rfl
    | _ n => exact Option.map_eq_some_iff.mpr ⟨n, Json.Value.natural?_eq_some_iff.mpr rfl, rfl⟩

/-- What members read so far give with the next one, if it is a setting of a new field. -/
def Given.member? (g : Given) (m : Text × Json.Value) : Option Given :=
  (Field.ofName? m.1).bind fun f => if g.has f then .none else (f.setting? m.2).map g.put

theorem Given.member?_eq_some_iff :
    g.member? m = some g' ↔ ∃ s : Setting, m = s.member ∧ g.has s.field = false ∧ g' = g.put s := by
  rw [Given.member?, Option.bind_eq_some_iff]
  constructor
  · rintro ⟨f, hname, h⟩
    split_ifs at h with hnew
    obtain ⟨s, hs, rfl⟩ := Option.map_eq_some_iff.mp h
    obtain ⟨rfl, hvalue⟩ := Field.setting?_eq_some_iff.mp hs
    have hm : m = s.member := Prod.ext (Field.ofName?_eq_some_iff.mp hname).symm hvalue.symm
    exact ⟨s, hm, Bool.eq_false_iff.mpr hnew, rfl⟩
  · rintro ⟨s, rfl, hnew, rfl⟩
    refine ⟨s.field, Field.ofName?_eq_some_iff.mpr rfl, ?_⟩
    rw [hnew, if_neg Bool.false_ne_true]
    exact Option.map_eq_some_iff.mpr ⟨s, Field.setting?_eq_some_iff.mpr ⟨rfl, rfl⟩, rfl⟩

/-- Settings are new behind another one if they are of other fields and were new in front of it. -/
theorem Given.forall_has_put_iff {s : Setting} {ss : List Setting} :
    (∀ s' ∈ ss, (g.put s).has s'.field = false) ↔
      s.field ∉ ss.map Setting.field ∧ ∀ s' ∈ ss, g.has s'.field = false := by
  simp only [Given.has_put, Bool.or_eq_false_iff, decide_eq_false_iff_not, List.mem_map, not_exists,
    not_and]
  constructor
  · intro h
    exact ⟨fun s' hs' hfield => (h s' hs').1 hfield.symm, fun s' hs' => (h s' hs').2⟩
  · rintro ⟨hother, hnew⟩ s' hs'
    exact ⟨fun hfield => hother s' hs' hfield.symm, hnew s' hs'⟩

/-- Members are taken together where they are settings of different fields. -/
theorem Given.foldlM_member?_eq_some_iff :
    ms.foldlM Given.member? g = some g' ↔
      ∃ ss : List Setting, ms = ss.map Setting.member ∧ (ss.map Setting.field).Nodup ∧
        (∀ s ∈ ss, g.has s.field = false) ∧ g' = ss.foldl Given.put g := by
  induction ms generalizing g with
  | nil =>
    constructor
    · intro h
      cases h
      exact ⟨[], rfl, List.nodup_nil, List.forall_mem_nil _, rfl⟩
    · rintro ⟨ss, hms, -, -, rfl⟩
      rw [List.map_eq_nil_iff.mp hms.symm]
      rfl
  | cons m ms ih =>
    rw [List.foldlM_cons, Option.bind_eq_bind, Option.bind_eq_some_iff]
    constructor
    · rintro ⟨g₁, hm, hms⟩
      obtain ⟨s, rfl, hnew, rfl⟩ := Given.member?_eq_some_iff.mp hm
      obtain ⟨ss, rfl, hss, hnews, rfl⟩ := ih.mp hms
      obtain ⟨hother, hnews⟩ := Given.forall_has_put_iff.mp hnews
      exact ⟨s :: ss, rfl, List.nodup_cons.mpr ⟨hother, hss⟩,
        List.forall_mem_cons.mpr ⟨hnew, hnews⟩, rfl⟩
    · rintro ⟨ss, hms, hss, hnews, rfl⟩
      obtain ⟨s, ss, rfl, rfl, rfl⟩ := List.map_eq_cons_iff.mp hms.symm
      obtain ⟨hother, hss⟩ := List.nodup_cons.mp hss
      obtain ⟨hnew, hnews⟩ := List.forall_mem_cons.mp hnews
      refine ⟨g.put s, Given.member?_eq_some_iff.mpr ⟨s, rfl, hnew, rfl⟩, ?_⟩
      exact ih.mpr ⟨ss, rfl, hss, Given.forall_has_put_iff.mpr ⟨hother, hnews⟩, rfl⟩

/-! ## Reading a member -/

theorem Given.toOption_readField (g : Given) (f : Field) (hw : Json.Spaces w)
    (h : Json.Writes v t) (hrest : Json.Number.Ends rest) :
    (g.readField f (w ++ (t ++ rest))).toOption =
      (f.setting? v).map fun s => (g.put s, rest) := by
  cases f <;>
    simp only [Given.readField, Json.toOption_map, Json.toOption_readNatural _ hw h hrest,
      Json.toOption_readOptional _ hw h, Field.setting?, Option.map_map] <;> rfl

theorem Given.toOption_readMember {x : Text} (g : Given) (key : Text) (hx : Json.Spaces x)
    (h : Json.IsText v t) (hrest : Json.Number.Ends rest) :
    ∃ y, Json.Spaces y ∧ y.length ≤ t.length ∧
      (g.readMember key (x ++ ':' :: (t ++ rest))).toOption =
        (g.member? (key, v)).map fun g' => (g', y ++ rest) := by
  cases h with
  | @mk _ w u y hw hu hy =>
    refine ⟨y, hy, by simp only [List.length_append]; omega, ?_⟩
    have hfield := fun f => g.toOption_readField f hw hu (hrest.append hy)
    have htext : (w ++ (u ++ y)) ++ rest = w ++ (u ++ (y ++ rest)) := by simp
    rw [Given.readMember, Given.member?, Json.readColon_append hx, htext]
    cases Field.ofName? key with
    | none => rfl
    | some f =>
      simp only [Option.bind_some]
      split_ifs with hhas
      · rfl
      · rw [hfield, Option.map_map]
        rfl

/-! ## Reading members -/

theorem Given.memberStep_of_key {isFirst : Bool} {u key r : Text}
    (hnext : Json.nextKey isFirst t = .ok (some u)) (hkey : Json.readQuoted u = .ok (key, r)) :
    memberStep (isFirst, g) t = (g.readMember key r).map fun p => .more (false, p.1) p.2 := by
  simp only [memberStep, hnext, bind, Except.bind, hkey]
  cases g.readMember key r <;> rfl

theorem Given.memberStep_of_end {isFirst : Bool} (hw : Json.Spaces w) (rest : Text) :
    memberStep (isFirst, g) (w ++ '\x7D' :: rest) = .ok (.done g rest) := by
  have hskip : Json.skipSpaces (w ++ '\x7D' :: rest) = '\x7D' :: rest := by
    rw [Json.skipSpaces_append hw]
    rfl
  simp only [memberStep, Json.nextKey_end isFirst hw, hskip]
  rfl

/-- A step reads one member, where one follows. -/
theorem Given.toOption_memberStep {isFirst : Bool} {l : Text} (g : Given)
    (hl : Json.Leads isFirst l) (h : Json.WritesMember m t) (hrest : Json.Number.Ends rest) :
    ∃ y, Json.Spaces y ∧ y.length < t.length ∧
      (memberStep (isFirst, g) (l ++ (t ++ rest))).toOption =
        (g.member? m).map fun g' => .more (false, g') (y ++ rest) := by
  cases h with
  | @mk key v w k x t hw hk hx ht =>
    obtain ⟨u, hnext, hkey⟩ := Json.exists_nextKey hl hw hk (x ++ ':' :: (t ++ rest))
    obtain ⟨y, hy, hlength, hmember⟩ := g.toOption_readMember key hx ht hrest
    refine ⟨y, hy, by simp; omega, ?_⟩
    have htext : l ++ ((w ++ (k ++ (x ++ ':' :: t))) ++ rest) =
        l ++ (w ++ (k ++ (x ++ ':' :: (t ++ rest)))) := by simp
    rw [htext, memberStep_of_key hnext hkey, Json.toOption_map, hmember, Option.map_map]
    rfl

/-- Reading a member is one step of reading them all. -/
theorem Given.toOption_loop_member {isFirst : Bool} {l : Text} (g : Given)
    (hl : Json.Leads isFirst l) (h : Json.WritesMember m t) (hrest : Json.Number.Ends rest) :
    ∃ y, Json.Spaces y ∧
      (Text.loop .endInObject memberStep (isFirst, g) (l ++ (t ++ rest))).toOption =
        (g.member? m).bind fun g' =>
          (Text.loop .endInObject memberStep (false, g') (y ++ rest)).toOption := by
  obtain ⟨y, hy, hlength, hstep⟩ := g.toOption_memberStep hl h hrest
  refine ⟨y, hy, ?_⟩
  cases hm : g.member? m with
  | none =>
    rw [hm, Option.map_none, Json.toOption_eq_none_iff] at hstep
    obtain ⟨fault, hfault⟩ := hstep
    rw [Text.loop_of_error hfault]
    rfl
  | some g' =>
    rw [hm, Option.map_some, Json.toOption_eq_some_iff] at hstep
    have hshorter : (y ++ rest).length < (l ++ (t ++ rest)).length := by
      simp only [List.length_append]
      omega
    rw [Text.loop_of_more hstep hshorter, Option.bind_some]

/-- The members behind the first, with the end of their object. -/
def tail (ts : List Text) (rest : Text) : Text := ts.flatMap (',' :: ·) ++ '\x7D' :: rest

theorem ends_tail (ts : List Text) (rest : Text) : Json.Number.Ends (tail ts rest) := by
  cases ts <;> (rintro c hc; cases hc; decide)

theorem intercalate_append (t : Text) (ts : List Text) (rest : Text) :
    [','].intercalate (t :: ts) ++ '\x7D' :: rest = t ++ tail ts rest := by
  induction ts generalizing t with
  | nil => simp [tail]
  | cons u ts ih =>
    rw [List.intercalate_cons_cons, List.append_assoc, ih]
    simp [tail]

theorem Given.toOption_loop_members {ts : List Text} {y : Text} (g : Given)
    (h : List.Forall₂ Json.WritesMember ms ts) (hy : Json.Spaces y) (rest : Text) :
    (Text.loop .endInObject memberStep (false, g) (y ++ tail ts rest)).toOption =
      (ms.foldlM Given.member? g).map fun g' => (g', rest) := by
  induction h generalizing g y with
  | nil =>
    rw [tail, List.flatMap_nil, List.nil_append, Text.loop_of_done (memberStep_of_end hy rest)]
    rfl
  | @cons m t ms ts hm hms ih =>
    have htext : y ++ tail (t :: ts) rest = (y ++ [',']) ++ (t ++ tail ts rest) := by simp [tail]
    obtain ⟨y', hy', hloop⟩ := g.toOption_loop_member (.comma hy) hm (ends_tail ts rest)
    rw [htext, hloop, List.foldlM_cons, Option.bind_eq_bind, Option.map_bind]
    congr 1
    funext g'
    exact ih g' hy'

/-- The members of an object are read one after the other. -/
theorem Given.toOption_readMembers (h : Json.Writes (.object ms) t) (rest : Text) :
    ∃ r, t ++ rest = '\x7B' :: r ∧
      (Given.readMembers r).toOption =
        (ms.foldlM Given.member? Given.none).map fun g => (g, rest) := by
  cases h with
  | @noMembers w hw =>
    refine ⟨w ++ '\x7D' :: rest, by simp, ?_⟩
    rw [Given.readMembers, Text.loop_of_done (memberStep_of_end hw rest)]
    rfl
  | @object m ms u ts hm hms =>
    refine ⟨u ++ tail ts rest, ?_, ?_⟩
    · rw [← intercalate_append]
      simp
    · obtain ⟨y, hy, hloop⟩ := Given.none.toOption_loop_member .first hm (ends_tail ts rest)
      rw [List.nil_append] at hloop
      rw [Given.readMembers, hloop, List.foldlM_cons, Option.bind_eq_bind, Option.map_bind]
      congr 1
      funext g
      exact g.toOption_loop_members hms hy rest

/-! ## Objects as options -/

/-- Reading an object gives what its members say, if they are settings of different fields. -/
theorem toOption_ofJson (h : Json.IsText (.object ms) t) :
    (ofJson t).toOption = (ms.foldlM Given.member? Given.none).map Given.options := by
  cases h with
  | @mk _ w u y hw hu hy =>
    obtain ⟨r, hr, hmembers⟩ := Given.toOption_readMembers hu y
    have hskip : Json.skipSpaces (w ++ (u ++ y)) = '\x7B' :: r := by
      rw [Json.skipSpaces_append hw, hr]
      rfl
    have hread : Given.read (w ++ (u ++ y)) = Given.readMembers r := by
      simp only [Given.read, hskip]
    rw [ofJson, Json.toOption_bind, hread, hmembers]
    cases ms.foldlM Given.member? Given.none with
    | none => rfl
    | some g =>
      simp only [Option.map_some, Option.bind_some, Json.readEnd_of_spaces hy]
      rfl

/-- An object is options where its members are settings of different fields, and the options are
those by default with these fields replaced. -/
theorem ofJson_eq_ok_iff {o : Options} (h : Json.IsText (.object ms) t) :
    ofJson t = .ok o ↔
      ∃ ss : List Setting, ms = ss.map Setting.member ∧ (ss.map Setting.field).Nodup ∧
        o = ss.foldl put default := by
  rw [← Json.toOption_eq_some_iff, toOption_ofJson h, Option.map_eq_some_iff]
  constructor
  · rintro ⟨g, hg, rfl⟩
    obtain ⟨ss, hms, hss, -, rfl⟩ := Given.foldlM_member?_eq_some_iff.mp hg
    exact ⟨ss, hms, hss, Given.options_foldl_put ss Given.none⟩
  · rintro ⟨ss, hms, hss, rfl⟩
    have hnew : ∀ s ∈ ss, Given.none.has s.field = false := by
      intro s _
      cases s <;> rfl
    exact ⟨_, Given.foldlM_member?_eq_some_iff.mpr ⟨ss, hms, hss, hnew, rfl⟩,
      Given.options_foldl_put ss Given.none⟩

/-- Settings of different fields have the keys of fields, each once. -/
theorem Setting.keys_of_nodup {ss : List Setting} (h : (ss.map Setting.field).Nodup) :
    (∀ m ∈ ss.map Setting.member, m.1 ∈ Field.all.map Field.name) ∧
      ((ss.map Setting.member).map Prod.fst).Nodup := by
  constructor
  · intro m hm
    obtain ⟨s, -, rfl⟩ := List.mem_map.mp hm
    exact List.mem_map_of_mem (Field.mem_all s.field)
  · have hkeys : (ss.map Setting.member).map Prod.fst = (ss.map Setting.field).map Field.name := by
      simp [Setting.member, Function.comp_def]
    rw [hkeys]
    exact h.map Field.name_injective

/-! ## Writing -/

/-- The settings that options are made of. -/
def settings (o : Options) : List Setting :=
  [.cacheSize o.cacheSize, .resultCacheSize o.resultCacheSize, .listCacheDir o.listCacheDir,
    .updateInterval o.updateInterval]

theorem isText_of_writes (h : Json.Writes v t) : Json.IsText v t := by
  simpa using Json.IsText.mk Json.spaces_nil h Json.spaces_nil

theorem writesMember_quote (key : Text) (h : Json.Writes v t) :
    Json.WritesMember (key, v) (Json.quote key ++ ':' :: t) := by
  simpa using Json.WritesMember.mk Json.spaces_nil (Json.quotes_quote key) Json.spaces_nil
    (isText_of_writes h)

/-- What is written is an object of all settings. -/
theorem isText_toJson (o : Options) :
    Json.IsText (.object (o.settings.map Setting.member)) o.toJson := by
  have hdir : Json.Writes (Setting.listCacheDir o.listCacheDir).value
      (o.fieldJson .listCacheDir) := by
    cases h : o.listCacheDir with
    | none =>
      rw [fieldJson, h]
      exact .null
    | some dir =>
      rw [fieldJson, h]
      exact .string (Json.quotes_quote dir)
  refine isText_of_writes (.object (writesMember_quote _ .natural) ?_)
  exact .cons (writesMember_quote _ .natural) (.cons (writesMember_quote _ hdir)
    (.cons (writesMember_quote _ .natural) .nil))

/-- Options that were written are read as they are. -/
theorem ofJson_toJson (o : Options) : ofJson o.toJson = .ok o := by
  have hfields : Field.all.Nodup := by decide
  exact (ofJson_eq_ok_iff (isText_toJson o)).mpr ⟨o.settings, rfl, hfields, rfl⟩

/-! ## Options survive JSON -/

/-- Options that are written are read as they are.  An object with settings of different fields, in
any order and spelled in any way, is read as the options by default with exactly these fields
replaced.  And an object that has a key besides the four, or one of the four twice, is no options,
whatever its values are. -/
theorem ofJson_object :
    (∀ o : Options, ofJson o.toJson = .ok o) ∧
      (∀ (ss : List Setting) (t : Text), (ss.map Setting.field).Nodup →
        Json.IsText (.object (ss.map Setting.member)) t → ofJson t = .ok (ss.foldl put default)) ∧
      ∀ (ms : List (Text × Json.Value)) (t : Text), Json.IsText (.object ms) t →
        ((∃ m ∈ ms, m.1 ∉ Field.all.map Field.name) ∨
          ∃ f : Field, 1 < (ms.map Prod.fst).count f.name) →
        ∃ fault, ofJson t = .error fault := by
  refine ⟨ofJson_toJson, fun ss t hss h => (ofJson_eq_ok_iff h).mpr ⟨ss, rfl, hss, rfl⟩, ?_⟩
  intro ms t h hkeys
  rw [← Json.toOption_eq_none_iff]
  refine Json.toOption_eq_none_of_ne_ok fun o ho => ?_
  obtain ⟨ss, rfl, hss, -⟩ := (ofJson_eq_ok_iff h).mp ho
  obtain ⟨hknown, honce⟩ := Setting.keys_of_nodup hss
  rcases hkeys with ⟨m, hm, hunknown⟩ | ⟨f, htwice⟩
  · exact hunknown (hknown m hm)
  · exact Nat.not_lt.mpr (List.nodup_iff_count_le_one.mp honce f.name) htwice

/-- Two fields in another order, with blanks and an escape, and a field that stands twice. -/
theorem ofJson_object_escaped :
    ofJson "\x7B\"update_interval_secs\" : 3600,\"list_cache_dir\":\"a\\u002Fb\"\x7D".toList =
        .ok ((default.put (.updateInterval 3600)).put (.listCacheDir (some "a/b".toList))) ∧
      ∃ fault, ofJson "\x7B\"cache_size\":1,\"cache_size\":2\x7D".toList = .error fault := by
  have hblank : Json.Spaces [' '] := by decide
  have hslash : Json.SpellsChar '/' "\\u002F".toList :=
    .unit (.digits (.lower (n := 0) (by decide)) (.lower (n := 0) (by decide))
      (.lower (n := 2) (by decide)) (.upper (n := 15) (by decide)))
  have hdir : Json.Spells "a/b".toList "a\\u002Fb".toList :=
    .cons (.plain (by decide) (by decide) (by decide))
      (.cons hslash (.cons (.plain (by decide) (by decide) (by decide)) .nil))
  have hseconds : Json.WritesMember (Setting.updateInterval 3600).member
      "\"update_interval_secs\" : 3600".toList :=
    .mk Json.spaces_nil (Json.quotes_quote _) hblank (.mk hblank .natural Json.spaces_nil)
  have hfolder : Json.WritesMember (Setting.listCacheDir (some "a/b".toList)).member
      "\"list_cache_dir\":\"a\\u002Fb\"".toList :=
    writesMember_quote _ (.string (.mk hdir))
  have hsize : ∀ n : UInt64, Json.WritesMember (Setting.cacheSize n).member
      (Json.quote "cache_size".toList ++ ':' :: Nat.toDigits 10 n.toNat) :=
    fun n => writesMember_quote _ .natural
  exact ⟨ofJson_object.2.1 [.updateInterval 3600, .listCacheDir (some "a/b".toList)] _ (by decide)
      (isText_of_writes (.object hseconds (.cons hfolder .nil))),
    ofJson_object.2.2 [(Setting.cacheSize 1).member, (Setting.cacheSize 2).member] _
      (isText_of_writes (.object (hsize 1) (.cons (hsize 2) .nil)))
      (.inr ⟨.cacheSize, by decide⟩)⟩

end UrlFilter.Options
