import UrlFilter.Proofs.Files

/-!
# Trees that show the same

A tree of files is a list of locations with what they hold.  The same tree can be written as more
than one list.  No operation tells such lists apart: it fails with the same fault on both, or leaves
trees behind that show the same again (`Alike`).

*One spot.*  Trees may also differ at one location only.  While there is no folder, no path leads
through it, so a path that ends elsewhere leads where it did (`walk_of_differ_at`).
-/

namespace UrlFilter.Files

variable {fs fs' : Files} {here here' : Location}

/-- Two trees show the same at every location. -/
structure Alike (fs fs' : Files) : Prop where
  /-- The home folder is the same. -/
  home_eq : fs'.home = fs.home
  /-- Every location holds the same. -/
  get?_eq : ∀ here, fs'.get? here = fs.get? here

/-- Two attempts to change trees fail with the same fault, or leave trees that show the same. -/
inductive AlikeAttempts : Except IoFault Files → Except IoFault Files → Prop where
  /-- Both fail. -/
  | error (fault : IoFault) : AlikeAttempts (.error fault) (.error fault)
  /-- None fails. -/
  | ok {fs fs' : Files} : Alike fs fs' → AlikeAttempts (.ok fs) (.ok fs')

theorem AlikeAttempts.cases {attempt attempt' : Except IoFault Files}
    (h : AlikeAttempts attempt attempt') :
    (∃ fault, attempt = .error fault ∧ attempt' = .error fault) ∨
      ∃ fs fs', attempt = .ok fs ∧ attempt' = .ok fs' ∧ Alike fs fs' := by
  cases h with
  | error fault => exact .inl ⟨fault, rfl, rfl⟩
  | ok halike => exact .inr ⟨_, _, rfl, rfl, halike⟩

/-- Two steps give the same result, and leave trees that show the same. -/
structure AlikeSteps {α : Type} (step step' : α × Files) : Prop where
  /-- The results are the same. -/
  result_eq : step'.1 = step.1
  /-- The trees show the same. -/
  files : Alike step.2 step'.2

/-! ## Reading -/

theorem Alike.isFolderAt (h : Alike fs fs') (here : Location) :
    fs'.isFolderAt here = fs.isFolderAt here := isFolderAt_eq_of_get? h.home_eq (h.get?_eq here)

theorem Alike.hasAt (h : Alike fs fs') (here : Location) : fs'.hasAt here = fs.hasAt here :=
  hasAt_eq_of_get? h.home_eq (h.get?_eq here)

theorem Alike.start (h : Alike fs fs') (p : Path) : fs'.start p = fs.start p :=
  start_eq_of_home_eq h.home_eq p

theorem Alike.walk (h : Alike fs fs') (here : Location) (parts : List Text) :
    fs'.walk here parts = fs.walk here parts := by
  induction parts generalizing here with
  | nil => rfl
  | cons part parts ih => simp only [Files.walk, h.isFolderAt, h.hasAt, ih]

theorem Alike.resolve (h : Alike fs fs') (p : Path) : fs'.resolve p = fs.resolve p := by
  rw [Files.resolve, Files.resolve, h.start, h.walk]

theorem Alike.has (h : Alike fs fs') (p : Path) : fs'.has p = fs.has p := by
  rw [Files.has, Files.has, h.resolve]

theorem Alike.stat (h : Alike fs fs') (p : Path) : fs'.stat p = fs.stat p := by
  rw [Files.stat, Files.stat, h.resolve]
  cases fs.resolve p with
  | error fault => rfl
  | ok here => simp only [h.get?_eq]

theorem Alike.locateChild (h : Alike fs fs') (folder : Path) (name : Text) :
    fs'.locateChild folder name = fs.locateChild folder name := by
  rw [Files.locateChild, Files.locateChild, h.start, h.walk]
  simp only [h.isFolderAt]

theorem Alike.leadToFolder (h : Alike fs fs') (start : Location) (parts : List Text) :
    fs'.leadToFolder start parts = fs.leadToFolder start parts := by
  rw [Files.leadToFolder, Files.leadToFolder, h.walk]
  cases fs.walk start parts with
  | error fault => rfl
  | ok place => exact h.isFolderAt place

/-! ## Changing -/

theorem Alike.put (h : Alike fs fs') (here : Location) (node : Node) :
    Alike (fs.put here node) (fs'.put here node) :=
  ⟨h.home_eq, fun here' => by rw [get?_put, get?_put, h.get?_eq]⟩

theorem Alike.erase (h : Alike fs fs') (here : Location) : Alike (fs.erase here) (fs'.erase here) :=
  ⟨h.home_eq, fun here' => by rw [get?_erase, get?_erase, h.get?_eq]⟩

theorem Alike.makeFolderIn (h : Alike fs fs') (now : Time) (start : Location) (above : List Text)
    (name : Text) : AlikeAttempts (fs.makeFolderIn now start above name)
      (fs'.makeFolderIn now start above name) := by
  rw [Files.makeFolderIn, Files.makeFolderIn, h.walk]
  cases fs.walk start above with
  | error fault => exact .error fault
  | ok place =>
      simp only [h.isFolderAt, h.hasAt]
      split
      · exact .error _
      · split
        · exact .error _
        · split
          · exact .error _
          · split
            · exact .error _
            · exact .ok (h.put _ _)

theorem Alike.ensureFolder (h : Alike fs fs') (now : Time) (start : Location) (above : List Text)
    (name : Text) : AlikeAttempts (fs.ensureFolder now start above name)
      (fs'.ensureFolder now start above name) := by
  rw [Files.ensureFolder, Files.ensureFolder]
  rcases (h.makeFolderIn now start above name).cases with
    ⟨fault, hfails, hfails'⟩ | ⟨made, made', hmade, hmade', halike⟩
  · simp only [hfails, hfails', h.leadToFolder]
    split
    · exact .ok h
    · exact .error fault
  · rw [hmade, hmade']
    exact .ok halike

theorem Alike.makeFoldersFrom (h : Alike fs fs') (now : Time) (start : Location)
    (parts : List Text) :
    AlikeSteps (fs.makeFoldersFrom now start parts) (fs'.makeFoldersFrom now start parts) := by
  induction parts generalizing fs fs' with
  | nil => exact ⟨rfl, h⟩
  | cons name above ih =>
      rw [Files.makeFoldersFrom, Files.makeFoldersFrom]
      rcases (h.ensureFolder now start above.reverse name).cases with
        ⟨fault, hfails, hfails'⟩ | ⟨made, made', hmade, hmade', halike⟩
      · rw [hfails, hfails']
        cases fault with
        | notFound =>
            -- The folders above are made, and the last one is tried once more.
            obtain ⟨hresult, hfiles⟩ := ih h
            cases habove : fs.makeFoldersFrom now start above with
            | mk result rest =>
                cases habove' : fs'.makeFoldersFrom now start above with
                | mk result' rest' =>
                    rw [habove, habove'] at hresult hfiles
                    obtain rfl : result' = result := hresult
                    cases result' with
                    | error fault => exact ⟨rfl, hfiles⟩
                    | ok u =>
                        rcases (hfiles.ensureFolder now start above.reverse name).cases with
                          ⟨fault, hlast, hlast'⟩ | ⟨last, last', hlast, hlast', halike⟩
                        · simp only [hlast, hlast']
                          exact ⟨rfl, hfiles⟩
                        · simp only [hlast, hlast']
                          exact ⟨rfl, halike⟩
        | _ => exact ⟨rfl, h⟩
      · rw [hmade, hmade']
        exact ⟨rfl, halike⟩

theorem Alike.makeFolders (h : Alike fs fs') (now : Time) (p : Path) :
    AlikeSteps (fs.makeFolders now p) (fs'.makeFolders now p) := by
  rw [Files.makeFolders, Files.makeFolders, h.start]
  split
  · exact ⟨rfl, h⟩
  · split
    · exact ⟨rfl, h⟩
    · split
      · exact ⟨rfl, h⟩
      · exact h.makeFoldersFrom now _ _

theorem Alike.write (h : Alike fs fs') (now : Time) (folder : Path) (name : Text) (bytes : Bytes) :
    AlikeAttempts (fs.write now folder name bytes) (fs'.write now folder name bytes) := by
  rw [Files.write, Files.write, h.locateChild]
  cases fs.locateChild folder name with
  | error fault => exact .error fault
  | ok place =>
      simp only [h.isFolderAt]
      split
      · exact .error _
      · exact .ok (h.put _ _)

theorem Alike.remove (h : Alike fs fs') (folder : Path) (name : Text) :
    Alike (fs.remove folder name) (fs'.remove folder name) := by
  rw [Files.remove, Files.remove, h.locateChild]
  cases fs.locateChild folder name with
  | error fault => exact h
  | ok place =>
      simp only [h.isFolderAt]
      split
      · exact h
      · exact h.erase place

theorem Alike.rename (h : Alike fs fs') (folder : Path) (source target : Text) :
    AlikeAttempts (fs.rename folder source target) (fs'.rename folder source target) := by
  rw [Files.rename, Files.rename, h.locateChild, h.locateChild]
  cases fs.locateChild folder source with
  | error fault => exact .error fault
  | ok old =>
      cases fs.locateChild folder target with
      | error fault => exact .error fault
      | ok new =>
          simp only [h.get?_eq, h.isFolderAt]
          cases fs.get? old with
          | none => exact .error _
          | some node =>
              simp only
              split
              · exact .error _
              · exact .ok ((h.erase old).put new node)

/-! ## One spot -/

/-- A path that leads elsewhere does not lead through a spot where there is no folder. -/
theorem walk_of_differ_at {spot : Location} (hhome : fs'.home = fs.home)
    (hget : ∀ here, here ≠ spot → fs'.get? here = fs.get? here)
    (hspot : fs.isFolderAt spot = false) {parts : List Text}
    (h : fs.walk here parts = .ok here') (hne : here' ≠ spot) :
    fs'.walk here parts = .ok here' := by
  induction parts generalizing here with
  | nil => exact h
  | cons part parts ih =>
      obtain ⟨hhere, hpart, hrest⟩ := walk_cons_iff.mp h
      have hne_here : here ≠ spot := by
        rintro rfl
        rw [hspot] at hhere
        cases hhere
      refine walk_cons_iff.mpr ⟨?_, ?_, ih hrest⟩
      · rw [isFolderAt_eq_of_get? hhome (hget here hne_here)]
        exact hhere
      · by_cases hstay : Path.isStay part = true
        · exact .inl hstay
        by_cases hup : Path.isUp part = true
        · exact .inr (.inl hup)
        obtain hstay' | hup' | ⟨hlong, hhas⟩ := hpart
        · exact absurd hstay' hstay
        · exact absurd hup' hup
        rw [Path.move, if_neg hstay, if_neg hup] at hrest
        have hne_next : here ++ [part] ≠ spot := by
          rintro rfl
          cases parts with
          | nil =>
              cases hrest
              exact hne rfl
          | cons next parts =>
              rw [(walk_cons_iff.mp hrest).1] at hspot
              cases hspot
        rw [← hasAt_eq_of_get? hhome (hget _ hne_next)] at hhas
        exact .inr (.inr ⟨hlong, hhas⟩)

end UrlFilter.Files
