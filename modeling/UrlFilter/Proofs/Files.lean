import UrlFilter.Files

/-!
# What operations on files change

Most of what is proved about files says that an operation leaves alone what it is not about.  Two
relations between the tree before and the tree after an operation carry such statements.

*Growing.*  A tree grows if no folder is lost (`Grows`).  No operation here ever takes a folder
away, so a path through folders leads where it did (`Grows.walk`).

*Adding folders.*  Making folders changes nothing that was there (`AddsFolders`).  Where it does not
fail, the path leads to a folder afterwards (`makeFolders_leads`).

*Places.*  Without links between folders a path leads to one place at most, whatever the tree holds.
`place` reads it off the parts of the path.  Following a path finds this place or fails
(`walk_eq_foldl`), so two paths that lead to different places never meet.
-/

namespace UrlFilter

/-- Where one part of a path leads. -/
def Path.move (here : Location) (part : Text) : Location :=
  if isStay part then here else if isUp part then here.dropLast else here ++ [part]

/-- A part that leads into the folder that it stands in. -/
def Path.IsName (part : Text) : Prop := isStay part = false ∧ isUp part = false

namespace Files

/-- Where a path leads, if all of its folders are there. -/
def place (fs : Files) (p : Path) : Location := p.foldl Path.move (fs.start p)

/-- The bytes of the file at a location. -/
def fileAt? (fs : Files) (here : Location) : Option Bytes :=
  match fs.get? here with
  | some (.file bytes _) => some bytes
  | _ => none

variable {fs fs' fs'' : Files} {here here' : Location} {node : Node}

/-! ## Putting and erasing -/

theorem lookup_filter_ne {nodes : List (Location × Node)} :
    (nodes.filter fun e => e.1 ≠ here).lookup here' =
      if here' = here then none else nodes.lookup here' := by
  induction nodes with
  | nil => simp
  | cons e nodes ih =>
      obtain ⟨k, v⟩ := e
      by_cases hk : k = here
      · rw [List.filter_cons_of_neg (by simpa using hk), ih]
        by_cases hh : here' = here
        · rw [if_pos hh, if_pos hh]
        · rw [if_neg hh, if_neg hh, List.lookup_cons, hk, beq_eq_false_iff_ne.mpr hh]
      · rw [List.filter_cons_of_pos (by simpa using hk), List.lookup_cons, List.lookup_cons, ih]
        by_cases hh : here' = here
        · rw [if_pos hh, hh, beq_eq_false_iff_ne.mpr (Ne.symm hk), if_pos rfl]
        · rw [if_neg hh, if_neg hh]

@[simp] theorem get?_erase :
    (fs.erase here).get? here' = if here' = here then none else fs.get? here' := lookup_filter_ne

@[simp] theorem get?_put :
    (fs.put here node).get? here' = if here' = here then some node else fs.get? here' := by
  rw [get?, put, List.lookup_cons, lookup_filter_ne]
  by_cases hh : here' = here
  · simp [hh]
  · rw [if_neg hh, if_neg hh, beq_eq_false_iff_ne.mpr hh]
    rfl

theorem fileAt?_eq_of_get? (h : fs'.get? here = fs.get? here) :
    fs'.fileAt? here = fs.fileAt? here := by
  rw [fileAt?, fileAt?, h]

theorem isFolderAt_eq_of_get? (hhome : fs'.home = fs.home) (h : fs'.get? here = fs.get? here) :
    fs'.isFolderAt here = fs.isFolderAt here := by
  rw [isFolderAt, isFolderAt, hhome, h]

/-! ## Growing -/

/-- No folder is lost. -/
structure Grows (fs fs' : Files) : Prop where
  /-- The home folder is the same. -/
  home_eq : fs'.home = fs.home
  /-- What is a folder stays one. -/
  isFolderAt : ∀ here, fs.isFolderAt here = true → fs'.isFolderAt here = true

theorem Grows.refl (fs : Files) : Grows fs fs := ⟨rfl, fun _ h => h⟩

theorem Grows.trans (h : Grows fs fs') (h' : Grows fs' fs'') : Grows fs fs'' :=
  ⟨h'.home_eq.trans h.home_eq, fun here hh => h'.isFolderAt here (h.isFolderAt here hh)⟩

/-- A change elsewhere than at a folder loses none. -/
theorem grows_of_get? (hhome : fs'.home = fs.home) (hat : fs.isFolderAt here = false)
    (h : ∀ here', here' ≠ here → fs'.get? here' = fs.get? here') : Grows fs fs' := by
  refine ⟨hhome, fun here' hh => ?_⟩
  by_cases heq : here' = here
  · rw [heq, hat] at hh
    cases hh
  · rw [isFolderAt_eq_of_get? hhome (h here' heq)]
    exact hh

theorem grows_put (hat : fs.isFolderAt here = false) : Grows fs (fs.put here node) :=
  grows_of_get? rfl hat fun here' hne => by rw [get?_put, if_neg hne]

theorem grows_erase (hat : fs.isFolderAt here = false) : Grows fs (fs.erase here) :=
  grows_of_get? rfl hat fun here' hne => by rw [get?_erase, if_neg hne]

theorem hasAt_of_isFolderAt (h : fs.isFolderAt here = true) : fs.hasAt here = true := by
  rw [isFolderAt, Bool.or_eq_true] at h
  rw [hasAt, Bool.or_eq_true]
  refine h.imp_right fun h => ?_
  obtain ⟨node, hnode, -⟩ := (Option.any_eq_true ..).mp h
  rw [hnode]
  rfl

/-! ## Following paths -/

/-- A part of a path leads on from a folder. -/
def LeadsOn (fs : Files) (here : Location) (part : Text) : Prop :=
  Path.isStay part = true ∨ Path.isUp part = true ∨
    (Path.isLongPart part = false ∧ fs.hasAt (here ++ [part]) = true)

/-- A path can be followed if its first part leads on and the others can be followed from there. -/
theorem walk_cons_iff {part : Text} {parts : List Text} :
    fs.walk here (part :: parts) = .ok here' ↔
      fs.isFolderAt here = true ∧ fs.LeadsOn here part ∧
        fs.walk (Path.move here part) parts = .ok here' := by
  rw [walk, Path.move, LeadsOn]
  cases fs.isFolderAt here with
  | false => simp
  | true =>
      cases Path.isStay part with
      | true => simp
      | false =>
          cases Path.isUp part with
          | true => simp
          | false =>
              cases Path.isLongPart part with
              | true => simp
              | false => cases fs.hasAt (here ++ [part]) <;> simp

theorem walk_cons_of_leadsOn {part : Text} {parts : List Text} (hhere : fs.isFolderAt here = true)
    (hpart : fs.LeadsOn here part) :
    fs.walk here (part :: parts) = fs.walk (Path.move here part) parts := by
  rw [walk, Path.move, hhere]
  by_cases hstay : Path.isStay part = true
  · simp [hstay]
  by_cases hup : Path.isUp part = true
  · simp [hstay, hup]
  obtain hstay' | hup' | ⟨hlong, hhas⟩ := hpart
  · exact absurd hstay' hstay
  · exact absurd hup' hup
  · simp [hstay, hup, hlong, hhas]

/-- What is behind a location that was reached does not depend on the way there. -/
theorem walk_append_of_ok {a b : List Text} {mid : Location} (h : fs.walk here a = .ok mid) :
    fs.walk here (a ++ b) = fs.walk mid b := by
  induction a generalizing here with
  | nil =>
      cases h
      rfl
  | cons part a ih =>
      obtain ⟨hhere, hpart, hrest⟩ := walk_cons_iff.mp h
      rw [List.cons_append, walk_cons_of_leadsOn hhere hpart, ih hrest]

theorem walk_append_iff {a b : List Text} :
    fs.walk here (a ++ b) = .ok here' ↔
      ∃ mid, fs.walk here a = .ok mid ∧ fs.walk mid b = .ok here' := by
  induction a generalizing here with
  | nil =>
      constructor
      · intro h
        exact ⟨here, rfl, h⟩
      · rintro ⟨mid, hmid, h⟩
        cases hmid
        exact h
  | cons part a ih =>
      rw [List.cons_append, walk_cons_iff, ih]
      constructor
      · rintro ⟨hhere, hpart, mid, ha, hb⟩
        exact ⟨mid, walk_cons_iff.mpr ⟨hhere, hpart, ha⟩, hb⟩
      · rintro ⟨mid, ha, hb⟩
        obtain ⟨hhere, hpart, hrest⟩ := walk_cons_iff.mp ha
        exact ⟨hhere, hpart, mid, hrest, hb⟩

/-- A path that can be followed leads to its place. -/
theorem walk_eq_foldl {parts : List Text} (h : fs.walk here parts = .ok here') :
    here' = parts.foldl Path.move here := by
  induction parts generalizing here with
  | nil =>
      cases h
      rfl
  | cons part parts ih =>
      obtain ⟨-, -, hrest⟩ := walk_cons_iff.mp h
      exact ih hrest

theorem isFolderAt_of_walk {parts : List Text} (h : fs.walk here parts = .ok here')
    (hfolder : fs.isFolderAt here' = true) : fs.isFolderAt here = true := by
  cases parts with
  | nil =>
      cases h
      exact hfolder
  | cons part parts => exact (walk_cons_iff.mp h).1

/-- A path to a folder leads there as long as no folder is lost. -/
theorem Grows.walk (hg : Grows fs fs') {parts : List Text} (h : fs.walk here parts = .ok here')
    (hfolder : fs.isFolderAt here' = true) : fs'.walk here parts = .ok here' := by
  induction parts generalizing here with
  | nil => exact h
  | cons part parts ih =>
      obtain ⟨hhere, hpart, hrest⟩ := walk_cons_iff.mp h
      refine walk_cons_iff.mpr ⟨hg.isFolderAt here hhere, ?_, ih hrest⟩
      by_cases hstay : Path.isStay part = true
      · exact .inl hstay
      by_cases hup : Path.isUp part = true
      · exact .inr (.inl hup)
      obtain hstay' | hup' | ⟨hlong, -⟩ := hpart
      · exact absurd hstay' hstay
      · exact absurd hup' hup
      rw [Path.move, if_neg hstay, if_neg hup] at hrest
      have hnext := hg.isFolderAt _ (isFolderAt_of_walk hrest hfolder)
      exact .inr (.inr ⟨hlong, hasAt_of_isFolderAt hnext⟩)

/-! ## Inside a folder -/

/-- A name has a place in a folder if the folder can be reached and nothing is too long. -/
theorem locateChild_eq_ok_iff {folder : Path} {name : Text} :
    fs.locateChild folder name = .ok here ↔ pathFault? (folder.child name) = none ∧
      ∃ above, fs.walk (fs.start folder) folder = .ok above ∧ fs.isFolderAt above = true ∧
        Path.isLongPart name = false ∧ here = above ++ [name] := by
  rw [locateChild]
  cases pathFault? (folder.child name) with
  | some fault => simp
  | none =>
      cases fs.walk (fs.start folder) folder with
      | error fault => simp
      | ok above =>
          simp only [true_and, Except.ok.injEq, exists_eq_left']
          cases fs.isFolderAt above with
          | false => simp
          | true =>
              cases Path.isLongPart name with
              | true => simp
              | false => simp only [Bool.not_true, Bool.false_eq_true, if_false, Except.ok.injEq,
                  true_and, eq_comm]

theorem start_eq_of_home_eq (h : fs'.home = fs.home) (p : Path) : fs'.start p = fs.start p := by
  rw [start, start, h]

/-- A name keeps its place as long as no folder is lost. -/
theorem Grows.locateChild (hg : Grows fs fs') {folder : Path} {name : Text}
    (h : fs.locateChild folder name = .ok here) : fs'.locateChild folder name = .ok here := by
  obtain ⟨hfault, above, hwalk, hfolder, hlong, hhere⟩ := locateChild_eq_ok_iff.mp h
  rw [← start_eq_of_home_eq hg.home_eq] at hwalk
  exact locateChild_eq_ok_iff.mpr
    ⟨hfault, above, hg.walk hwalk hfolder, hg.isFolderAt above hfolder, hlong, hhere⟩

/-- A path is its own beginning, or has an empty part behind that. -/
theorem withoutEnd_cases (p : Path) :
    (p.withoutEnd = p ∧ p.getLast? ≠ some []) ∨ p = p.withoutEnd ++ [[]] := by
  rw [Path.withoutEnd]
  by_cases h : p.getLast? = some []
  · rw [if_pos h]
    obtain ⟨q, rfl⟩ := List.getLast?_eq_some_iff.mp h
    rw [List.dropLast_concat]
    exact .inr rfl
  · rw [if_neg h]
    exact .inl ⟨rfl, h⟩

theorem isAbsolute_append_singleton (q : Path) (part part' : Text) :
    Path.isAbsolute (q ++ [part]) = Path.isAbsolute (q ++ [part']) := by
  cases q with
  | nil => simp [Path.isAbsolute]
  | cons first q =>
      cases q with
      | nil => cases first <;> rfl
      | cons second q => cases first <;> rfl

theorem isAbsolute_child (p : Path) (name : Text) :
    Path.isAbsolute (p.child name) = Path.isAbsolute p := by
  rw [Path.child]
  rcases withoutEnd_cases p with ⟨hsame, hlast⟩ | hend
  · rw [hsame]
    cases p with
    | nil => simp [Path.isAbsolute]
    | cons first p =>
        cases p with
        | nil =>
            cases first with
            | nil => exact absurd rfl hlast
            | cons c first => rfl
        | cons second p => cases first <;> rfl
  · exact (isAbsolute_append_singleton _ name []).trans (congrArg Path.isAbsolute hend.symm)

theorem start_child (p : Path) (name : Text) : fs.start (p.child name) = fs.start p := by
  rw [start, start, isAbsolute_child]

theorem foldl_move_withoutEnd (p : Path) (here : Location) :
    p.withoutEnd.foldl Path.move here = p.foldl Path.move here := by
  rcases withoutEnd_cases p with ⟨hsame, -⟩ | hend
  · rw [hsame]
  · rw [congrArg (List.foldl Path.move here) hend, List.foldl_append]
    rfl

theorem move_of_isName {name : Text} (hname : Path.IsName name) (here : Location) :
    Path.move here name = here ++ [name] := by
  rw [Path.move, hname.1, hname.2, if_neg Bool.false_ne_true, if_neg Bool.false_ne_true]

/-- The place of a name is in the place of its folder. -/
theorem place_child {p : Path} {name : Text} (hname : Path.IsName name) :
    fs.place (p.child name) = fs.place p ++ [name] := by
  rw [place, start_child, Path.child, List.foldl_append, foldl_move_withoutEnd, place]
  exact move_of_isName hname _

theorem place_of_locateChild {folder : Path} {name : Text} (hname : Path.IsName name)
    (h : fs.locateChild folder name = .ok here) : here = fs.place (folder.child name) := by
  obtain ⟨-, above, hwalk, -, -, rfl⟩ := locateChild_eq_ok_iff.mp h
  rw [place_child hname, walk_eq_foldl hwalk, place]

/-- A path to a folder leads there with or without an empty part behind it. -/
theorem walk_withoutEnd_iff {p : Path} :
    fs.walk here p.withoutEnd = .ok here' ∧ fs.isFolderAt here' = true ↔
      fs.walk here p = .ok here' ∧ fs.isFolderAt here' = true := by
  rcases withoutEnd_cases p with ⟨hsame, -⟩ | hend
  · rw [hsame]
  · refine and_congr_left fun hfolder => ?_
    rw [congrArg (fs.walk here) hend, walk_append_iff]
    constructor
    · intro h
      exact ⟨here', h, walk_cons_iff.mpr ⟨hfolder, .inl rfl, rfl⟩⟩
    · rintro ⟨mid, hmid, h⟩
      obtain ⟨-, -, hlast⟩ := walk_cons_iff.mp h
      cases hlast
      exact hmid

theorem resolve_eq_ok_iff {p : Path} :
    fs.resolve p = .ok here ↔ pathFault? p = none ∧ fs.walk (fs.start p) p = .ok here := by
  rw [resolve]
  cases pathFault? p with
  | some fault => simp
  | none => simp

/-- What is at a name in a folder is what is at the place of the name. -/
theorem resolve_child_eq_ok_iff {folder : Path} {name : Text} (hname : Path.IsName name) :
    fs.resolve (folder.child name) = .ok here ↔
      fs.locateChild folder name = .ok here ∧ fs.hasAt here = true := by
  rw [resolve_eq_ok_iff, locateChild_eq_ok_iff, start_child, and_assoc]
  refine and_congr_right fun _ => ?_
  rw [Path.child, walk_append_iff]
  constructor
  · rintro ⟨above, habove, h⟩
    obtain ⟨hfolder, hleads, hlast⟩ := walk_cons_iff.mp h
    rw [move_of_isName hname] at hlast
    cases hlast
    obtain ⟨hwalk, -⟩ := walk_withoutEnd_iff.mp ⟨habove, hfolder⟩
    rw [LeadsOn, hname.1, hname.2] at hleads
    simp only [Bool.false_eq_true, false_or] at hleads
    exact ⟨⟨above, hwalk, hfolder, hleads.1, rfl⟩, hleads.2⟩
  · rintro ⟨⟨above, hwalk, hfolder, hlong, rfl⟩, hhas⟩
    obtain ⟨habove, -⟩ := walk_withoutEnd_iff.mpr ⟨hwalk, hfolder⟩
    refine ⟨above, habove, walk_cons_iff.mpr ⟨hfolder, .inr (.inr ⟨hlong, hhas⟩), ?_⟩⟩
    rw [move_of_isName hname]
    rfl

/-- Where a name has a place, a path to it fails only if there is nothing. -/
theorem resolve_child_of_locate {folder : Path} {name : Text} (hname : Path.IsName name)
    (h : fs.locateChild folder name = .ok here) :
    fs.resolve (folder.child name) = if fs.hasAt here then .ok here else .error .notFound := by
  obtain ⟨hfault, above, hwalk, hfolder, hlong, rfl⟩ := locateChild_eq_ok_iff.mp h
  obtain ⟨habove, -⟩ := walk_withoutEnd_iff.mpr ⟨hwalk, hfolder⟩
  have hstart : fs.walk (fs.start folder) (folder.child name) = fs.walk above [name] :=
    walk_append_of_ok habove
  rw [resolve, hfault, start_child]
  simp only [hstart, walk, hfolder, hname.1, hname.2, hlong, Bool.not_true, Bool.false_eq_true,
    if_false]

/-! ## Reading -/

/-- The bytes that are read are those of a file at the place of the path. -/
theorem read_eq_ok_iff {p : Path} {bytes : Bytes} :
    fs.read p = .ok bytes ↔ ∃ here, fs.resolve p = .ok here ∧ fs.fileAt? here = some bytes := by
  rw [read, stat]
  cases fs.resolve p with
  | error fault => simp
  | ok here =>
      simp only [Except.ok.injEq, exists_eq_left', fileAt?]
      cases fs.get? here with
      | none => simp
      | some node => cases node <;> simp

/-! ## Making folders -/

/-- A path passes a location if one of its beginnings leads there. -/
def Passes (start : Location) (parts : List Text) (here : Location) : Prop :=
  ∃ front, front <+: parts ∧ here = front.foldl Path.move start

theorem Passes.mono {start : Location} {parts parts' : List Text} (h : Passes start parts here)
    (hparts : parts <+: parts') : Passes start parts' here := by
  obtain ⟨front, hfront, hhere⟩ := h
  exact ⟨front, hfront.trans hparts, hhere⟩

/-- Parts that stay do not matter for where a path passes. -/
theorem passes_of_moves {start : Location} {p : Path} (h : Passes start p.moves here) :
    Passes start p here := by
  obtain ⟨front, hfront, rfl⟩ := h
  induction p generalizing start front with
  | nil =>
      obtain rfl : front = [] := List.prefix_nil.mp hfront
      exact ⟨[], List.nil_prefix, rfl⟩
  | cons part p ih =>
      rw [Path.moves] at hfront
      by_cases hstay : Path.isStay part = true
      · rw [List.filter_cons_of_neg (by simp [hstay]), ← Path.moves] at hfront
        obtain ⟨front', hfront', hhere⟩ := ih _ hfront
        refine ⟨part :: front', List.cons_prefix_cons.mpr ⟨rfl, hfront'⟩, ?_⟩
        rw [hhere, List.foldl_cons, Path.move, if_pos hstay]
      · rw [List.filter_cons_of_pos (by simpa using hstay), ← Path.moves] at hfront
        cases front with
        | nil => exact ⟨[], List.nil_prefix, rfl⟩
        | cons first front =>
            obtain ⟨rfl, hrest⟩ := List.cons_prefix_cons.mp hfront
            obtain ⟨front', hfront', hhere⟩ := ih _ hrest
            exact ⟨first :: front', List.cons_prefix_cons.mpr ⟨rfl, hfront'⟩, hhere⟩

/-- A location is left as it is, or a missing folder is made there on some way. -/
inductive KeptAt (way : Location → Prop) (fs fs' : Files) (here : Location) : Prop where
  /-- It holds what it held. -/
  | same : fs'.get? here = fs.get? here → KeptAt way fs fs' here
  /-- There was nothing, and now there is a folder. -/
  | made {time : Time} : way here → fs.hasAt here = false →
      fs'.get? here = some (.folder time) → KeptAt way fs fs' here

section

variable {way : Location → Prop}

theorem get?_of_hasAt_eq_false (h : fs.hasAt here = false) : fs.get? here = none := by
  rw [hasAt, Bool.or_eq_false_iff] at h
  exact Option.not_isSome_iff_eq_none.mp (by simp [h.2])

theorem hasAt_eq_of_get? (hhome : fs'.home = fs.home) (h : fs'.get? here = fs.get? here) :
    fs'.hasAt here = fs.hasAt here := by
  rw [hasAt, hasAt, hhome, h]

theorem KeptAt.trans (h : KeptAt way fs fs' here) (hhome : fs'.home = fs.home)
    (h' : KeptAt way fs' fs'' here) : KeptAt way fs fs'' here := by
  cases h with
  | same heq =>
      cases h' with
      | same heq' => exact .same (heq'.trans heq)
      | made hway hfree hfolder =>
          rw [hasAt_eq_of_get? hhome heq] at hfree
          exact .made hway hfree hfolder
  | made hway hfree hfolder =>
      cases h' with
      | same heq' => exact .made hway hfree (heq'.trans hfolder)
      | made _ hfree' _ =>
          rw [get?_of_hasAt_eq_false hfree'] at hfolder
          cases hfolder

/-- No file is made or changed where a location is kept. -/
theorem KeptAt.fileAt?_eq (h : KeptAt way fs fs' here) : fs'.fileAt? here = fs.fileAt? here := by
  cases h with
  | same heq => exact fileAt?_eq_of_get? heq
  | made _ hfree hfolder => rw [fileAt?, fileAt?, get?_of_hasAt_eq_false hfree, hfolder]

/-- What is there stays where a location is kept. -/
theorem KeptAt.get?_eq (h : KeptAt way fs fs' here) (hget : fs.get? here = some node) :
    fs'.get? here = some node := by
  cases h with
  | same heq => exact heq.trans hget
  | made _ hfree _ =>
      rw [get?_of_hasAt_eq_false hfree] at hget
      cases hget

end

/-- Missing folders were made on the way of a path, and nothing else happened. -/
structure AddsFolders (start : Location) (parts : List Text) (fs fs' : Files) : Prop where
  /-- The home folder is the same. -/
  home_eq : fs'.home = fs.home
  /-- What is new is a folder on the way. -/
  keptAt : ∀ here, KeptAt (Passes start parts) fs fs' here

section

variable {start : Location} {parts parts' : List Text}

theorem AddsFolders.refl (fs : Files) : AddsFolders start parts fs fs := ⟨rfl, fun _ => .same rfl⟩

theorem AddsFolders.trans (h : AddsFolders start parts fs fs')
    (h' : AddsFolders start parts fs' fs'') : AddsFolders start parts fs fs'' :=
  ⟨h'.home_eq.trans h.home_eq, fun here => (h.keptAt here).trans h.home_eq (h'.keptAt here)⟩

theorem AddsFolders.mono (h : AddsFolders start parts fs fs')
    (hway : ∀ here, Passes start parts here → Passes start parts' here) :
    AddsFolders start parts' fs fs' := by
  refine ⟨h.home_eq, fun here => ?_⟩
  cases h.keptAt here with
  | same heq => exact .same heq
  | made hpasses hfree hfolder => exact .made (hway here hpasses) hfree hfolder

theorem AddsFolders.grows (h : AddsFolders start parts fs fs') : Grows fs fs' := by
  refine ⟨h.home_eq, fun here hfolder => ?_⟩
  rw [isFolderAt, h.home_eq]
  cases h.keptAt here with
  | same heq =>
      rw [heq]
      exact hfolder
  | made _ _ hnew =>
      rw [hnew]
      exact Bool.or_true _

/-- Making folders makes and changes no file. -/
theorem AddsFolders.fileAt?_eq (h : AddsFolders start parts fs fs') (here : Location) :
    fs'.fileAt? here = fs.fileAt? here := (h.keptAt here).fileAt?_eq

theorem addsFolders_put {now : Time} (h : fs.hasAt here = false) (hway : Passes start parts here) :
    AddsFolders start parts fs (fs.put here (.folder now)) := by
  refine ⟨rfl, fun here' => ?_⟩
  by_cases heq : here' = here
  · rw [heq]
    exact .made hway h (by rw [get?_put, if_pos rfl])
  · exact .same (by rw [get?_put, if_neg heq])

theorem makeFolderIn_addsFolders {now : Time} {above : List Text} {name : Text}
    (hstay : Path.isStay name = false) (h : fs.makeFolderIn now start above name = .ok fs') :
    AddsFolders start (above ++ [name]) fs fs' := by
  unfold makeFolderIn at h
  split at h
  · cases h
  · next place hwalk =>
      split at h
      · cases h
      · split at h
        · cases h
        · next hup =>
            split at h
            · cases h
            · split at h
              · cases h
              · next hhas =>
                  cases h
                  refine addsFolders_put (by simpa using hhas) ⟨_, List.prefix_rfl, ?_⟩
                  rw [List.foldl_append, ← walk_eq_foldl hwalk]
                  exact (move_of_isName ⟨hstay, by simpa using hup⟩ place).symm

theorem ensureFolder_addsFolders {now : Time} {above : List Text} {name : Text}
    (hstay : Path.isStay name = false) (h : fs.ensureFolder now start above name = .ok fs') :
    AddsFolders start (above ++ [name]) fs fs' := by
  unfold ensureFolder at h
  split at h
  · next hmake =>
      cases h
      exact makeFolderIn_addsFolders hstay hmake
  · split at h
    · cases h
      exact .refl fs
    · cases h

/-- The parts are those of a path, the last of them first. -/
theorem makeFoldersFrom_addsFolders {now : Time}
    (hstay : ∀ part ∈ parts, Path.isStay part = false) :
    AddsFolders start parts.reverse fs (fs.makeFoldersFrom now start parts).2 := by
  induction parts generalizing fs with
  | nil => exact .refl fs
  | cons name above ih =>
      obtain ⟨hname, habove⟩ := List.forall_mem_cons.mp hstay
      rw [List.reverse_cons]
      unfold makeFoldersFrom
      split
      · next hmade => exact ensureFolder_addsFolders hname hmade
      · have hrest : AddsFolders start (above.reverse ++ [name]) fs
            (fs.makeFoldersFrom now start above).2 :=
          (ih habove).mono fun here hpasses => hpasses.mono (List.prefix_append _ _)
        split
        · next hmake =>
            rw [hmake] at hrest
            exact hrest
        · next hmake =>
            rw [hmake] at hrest
            split
            · next hmade => exact hrest.trans (ensureFolder_addsFolders hname hmade)
            · exact hrest
      · exact .refl fs

end

theorem isStay_of_mem_moves {p : Path} {part : Text} (h : part ∈ p.moves) :
    Path.isStay part = false := by
  simpa using (List.mem_filter.mp h).2

theorem makeFolders_addsFolders {now : Time} {p : Path} :
    AddsFolders (fs.start p) p fs (fs.makeFolders now p).2 := by
  unfold makeFolders
  split
  · exact .refl fs
  · split
    · exact .refl fs
    · split
      · exact .refl fs
      · have hmade : AddsFolders (fs.start p) p.moves.reverse.reverse fs
            (fs.makeFoldersFrom now (fs.start p) p.moves.reverse).2 :=
          makeFoldersFrom_addsFolders fun part hpart =>
            isStay_of_mem_moves (List.mem_reverse.mp hpart)
        rw [List.reverse_reverse] at hmade
        exact hmade.mono fun here hpasses => passes_of_moves hpasses

/-- A path starts at a folder. -/
theorem isFolderAt_start (fs : Files) (p : Path) : fs.isFolderAt (fs.start p) = true := by
  rw [isFolderAt, start, Bool.or_eq_true]
  left
  split
  · rfl
  · exact List.isPrefixOf_iff_prefix.mpr (List.prefix_refl _)

theorem leadToFolder_iff {parts : List Text} :
    fs.leadToFolder here parts = true ↔
      ∃ here', fs.walk here parts = .ok here' ∧ fs.isFolderAt here' = true := by
  rw [leadToFolder]
  cases fs.walk here parts with
  | error fault => simp
  | ok here' => simp

/-- Parts that stay do not matter on the way to a folder. -/
theorem leadToFolder_moves_iff {p : Path} :
    fs.leadToFolder here p.moves = true ↔ fs.leadToFolder here p = true := by
  induction p generalizing here with
  | nil => rfl
  | cons part p ih =>
      rw [Path.moves]
      by_cases hstay : Path.isStay part = true
      · rw [List.filter_cons_of_neg (by simp [hstay]), ← Path.moves, ih, leadToFolder_iff,
          leadToFolder_iff]
        have hmove : Path.move here part = here := by rw [Path.move, if_pos hstay]
        refine exists_congr fun here' => and_congr_left fun hfolder => ?_
        rw [walk_cons_iff, hmove]
        constructor
        · intro hwalk
          exact ⟨isFolderAt_of_walk hwalk hfolder, .inl hstay, hwalk⟩
        · rintro ⟨-, -, hwalk⟩
          exact hwalk
      · rw [List.filter_cons_of_pos (by simpa using hstay), ← Path.moves, leadToFolder_iff,
          leadToFolder_iff]
        simp only [walk_cons_iff, and_assoc, exists_and_left]
        rw [← leadToFolder_iff, ih, leadToFolder_iff]

theorem isFolderAt_put_folder {time : Time} :
    (fs.put here (.folder time)).isFolderAt here = true := by
  rw [isFolderAt, get?_put, if_pos rfl]
  exact Bool.or_true _

theorem makeFolderIn_leads {now : Time} {above : List Text} {name : Text}
    (hstay : Path.isStay name = false) (h : fs.makeFolderIn now here above name = .ok fs') :
    fs'.leadToFolder here (above ++ [name]) = true := by
  have hgrows := (makeFolderIn_addsFolders hstay h).grows
  unfold makeFolderIn at h
  split at h
  · cases h
  · next place hwalk =>
      split at h
      · cases h
      · next hfolder =>
          split at h
          · cases h
          · next hup =>
              split at h
              · cases h
              · next hlong =>
                  split at h
                  · cases h
                  · cases h
                    have hfolder' : fs.isFolderAt place = true := by simpa using hfolder
                    have hmove : Path.move place name = place ++ [name] :=
                      move_of_isName ⟨hstay, by simpa using hup⟩ place
                    refine leadToFolder_iff.mpr ⟨place ++ [name], walk_append_iff.mpr
                      ⟨place, hgrows.walk hwalk hfolder', walk_cons_iff.mpr
                        ⟨hgrows.isFolderAt _ hfolder', .inr (.inr ⟨by simpa using hlong, ?_⟩), ?_⟩⟩,
                      isFolderAt_put_folder⟩
                    · exact hasAt_of_isFolderAt isFolderAt_put_folder
                    · rw [hmove]
                      rfl

theorem ensureFolder_leads {now : Time} {above : List Text} {name : Text}
    (hstay : Path.isStay name = false) (h : fs.ensureFolder now here above name = .ok fs') :
    fs'.leadToFolder here (above ++ [name]) = true := by
  unfold ensureFolder at h
  split at h
  · next hmade =>
      cases h
      exact makeFolderIn_leads hstay hmade
  · split at h
    · next hleads =>
        cases h
        exact hleads
    · cases h

/-- Where the folder of some parts could be made, they lead to it. -/
theorem makeFoldersFrom_leads {now : Time} {parts : List Text}
    (hhere : fs.isFolderAt here = true) (hstay : ∀ part ∈ parts, Path.isStay part = false)
    (h : (fs.makeFoldersFrom now here parts).1 = .ok ()) :
    (fs.makeFoldersFrom now here parts).2.leadToFolder here parts.reverse = true := by
  cases parts with
  | nil => exact leadToFolder_iff.mpr ⟨here, rfl, hhere⟩
  | cons name above =>
      have hname := hstay name List.mem_cons_self
      rw [List.reverse_cons]
      unfold makeFoldersFrom at h ⊢
      split
      · next hmade => exact ensureFolder_leads hname hmade
      · next hmissing =>
          rw [hmissing] at h
          split
          · next hrest => simp [hrest] at h
          · next hrest =>
              simp only [hrest] at h
              split
              · next hmade => exact ensureFolder_leads hname hmade
              · next hmade => simp [hmade] at h
      · next hmade => simp [hmade] at h

/-- Where the folder of a path could be made, the path can be followed to it. -/
theorem makeFolders_leads {now : Time} {p : Path} (h : (fs.makeFolders now p).1 = .ok ()) :
    (fs.makeFolders now p).2.leadToFolder (fs.start p) p = true := by
  apply leadToFolder_moves_iff.mp
  unfold makeFolders at h ⊢
  split
  · next hmoves =>
      rw [List.isEmpty_iff.mp hmoves]
      exact leadToFolder_iff.mpr ⟨_, rfl, isFolderAt_start fs p⟩
  · next hmoves =>
      rw [if_neg hmoves] at h
      split
      · next hzero => simp [hzero] at h
      · next hzero =>
          rw [if_neg hzero] at h
          split
          · next hlong => simp [hlong] at h
          · next hlong =>
              rw [if_neg hlong] at h
              have hleads := makeFoldersFrom_leads (isFolderAt_start fs p) ?_ h
              · rwa [List.reverse_reverse] at hleads
              · exact fun part hpart => isStay_of_mem_moves (List.mem_reverse.mp hpart)

/-- There is nothing to make where a name leads to a folder. -/
theorem ensureFolder_of_leads {now : Time} {above : List Text} {name : Text}
    (hstay : Path.isStay name = false) (h : fs.leadToFolder here (above ++ [name]) = true) :
    fs.ensureFolder now here above name = .ok fs := by
  obtain ⟨here', hwalk, -⟩ := leadToFolder_iff.mp h
  obtain ⟨mid, hmid, hlast⟩ := walk_append_iff.mp hwalk
  obtain ⟨hfolder, hpart, -⟩ := walk_cons_iff.mp hlast
  have hthere : fs.makeFolderIn now here above name = .error .alreadyExists := by
    rw [makeFolderIn, hmid]
    obtain hstay' | hup | ⟨hlong, hhas⟩ := hpart
    · rw [hstay] at hstay'
      cases hstay'
    · simp [hfolder, hup]
    · simp [hfolder, hlong, hhas]
  rw [ensureFolder, hthere]
  exact if_pos h

/-- There is nothing to make where a path leads to a folder. -/
theorem makeFolders_of_leads {now : Time} {p : Path} (hzero : p.holdsZero = false)
    (hlong : p.isLong = false) (h : fs.leadToFolder (fs.start p) p = true) :
    fs.makeFolders now p = (.ok (), fs) := by
  rw [makeFolders, hzero, hlong]
  cases hmoves : p.moves.reverse with
  | nil => simp [List.reverse_eq_nil_iff.mp hmoves]
  | cons name above =>
      have hparts : p.moves = above.reverse ++ [name] := by
        rw [← List.reverse_reverse p.moves, hmoves, List.reverse_cons]
      have hname : Path.isStay name = false :=
        isStay_of_mem_moves (p := p) (by rw [hparts]; simp)
      rw [← leadToFolder_moves_iff, hparts] at h
      simp [hparts, makeFoldersFrom, ensureFolder_of_leads hname h]

/-- No folder is made whose path holds the number zero. -/
theorem holdsZero_of_makeFolders {now : Time} {p : Path}
    (h : (fs.makeFolders now p).1 = .ok ()) : p.holdsZero = false := by
  unfold makeFolders at h
  split at h
  · next hmoves =>
      rw [Path.holdsZero, List.any_eq_false]
      intro part hpart
      have hstay : Path.isStay part = true := by
        simpa using List.filter_eq_nil_iff.mp (List.isEmpty_iff.mp hmoves) part hpart
      rw [Path.isStay, Bool.or_eq_true, beq_iff_eq, beq_iff_eq] at hstay
      rcases hstay with rfl | rfl <;> decide
  · split at h
    · cases h
    · next hzero => simpa using hzero

/-! ## Files in a folder -/

/-- A file among other nodes is no folder, unless the home folder lies behind it. -/
theorem isFolderAt_of_fileAt? {bytes : Bytes} (h : fs.fileAt? here = some bytes) :
    fs.isFolderAt here = here.isPrefixOf fs.home := by
  rw [fileAt?] at h
  rw [isFolderAt]
  split at h
  · next hget =>
      rw [hget]
      exact Bool.or_false _
  · cases h

theorem hasAt_of_fileAt? {bytes : Bytes} (h : fs.fileAt? here = some bytes) :
    fs.hasAt here = true := by
  rw [fileAt?] at h
  rw [hasAt]
  split at h
  · next hget =>
      rw [hget]
      exact Bool.or_true _
  · cases h

theorem write_eq_ok_iff {now : Time} {folder : Path} {name : Text} {bytes : Bytes} :
    fs.write now folder name bytes = .ok fs' ↔
      ∃ here, fs.locateChild folder name = .ok here ∧ fs.isFolderAt here = false ∧
        fs' = fs.put here (.file bytes now) := by
  rw [write]
  cases fs.locateChild folder name with
  | error fault => simp
  | ok here =>
      simp only [Except.ok.injEq, exists_eq_left']
      cases fs.isFolderAt here with
      | true => simp
      | false => simp [eq_comm]

theorem fileAt?_put_file {bytes : Bytes} {time : Time} :
    (fs.put here (.file bytes time)).fileAt? here = some bytes := by
  rw [fileAt?, get?_put, if_pos rfl]

/-- A file that was put where no folder is does not make one. -/
theorem isFolderAt_put_file {bytes : Bytes} {time : Time} (hat : fs.isFolderAt here = false) :
    (fs.put here (.file bytes time)).isFolderAt here = false := by
  rw [isFolderAt, Bool.or_eq_false_iff] at hat
  rw [isFolderAt_of_fileAt? fileAt?_put_file]
  exact hat.1

theorem remove_eq_erase {folder : Path} {name : Text} (h : fs.locateChild folder name = .ok here)
    (hat : fs.isFolderAt here = false) : fs.remove folder name = fs.erase here := by
  rw [remove, h]
  simp only [hat, Bool.false_eq_true, if_false]

theorem rename_eq {folder : Path} {source target : Text}
    (hsource : fs.locateChild folder source = .ok here)
    (htarget : fs.locateChild folder target = .ok here') (hget : fs.get? here = some node) :
    fs.rename folder source target =
      if fs.isFolderAt here' then .error .isFolder else .ok ((fs.erase here).put here' node) := by
  rw [rename, hsource, htarget]
  simp only [hget]

end Files

end UrlFilter
