import UrlFilter.Loader.Source
import UrlFilter.Proofs.Loader.Names

/-!
# What a load leaves behind

A load writes to two places at most, that of the list and that of the file that is written first.
Elsewhere it only makes folders that are missing on the way to them, and no folder is lost
(`Touches`).

*The list.*  A load asks the network only if the list is not fresh, neither at first nor when it is
its turn (`asks`).  To refresh a list can fail in many ways, and all of them leave the list as it
was.  If it does not fail, the list is replaced as a whole by what was delivered.  `verifiedBody` is
what was delivered where it was complete and found to be a list.  The file holds that afterwards
(`Effect.replaced`), or what it held before (`Effect.kept`).

*What can be read.*  A list that was verified can be read as long as no folder is lost (`Readable`).
The invariant of loads is that the list of a URL is missing or readable (`Holds`).  A load of the
URL keeps it, and so does a load of any other URL with another path.
-/

namespace UrlFilter.ListCache

variable {c : ListCache} {fs fs' fs'' : Files} {url url' : Text}

/-! ## Places -/

/-- Where the list of a URL is kept. -/
def place (c : ListCache) (fs : Files) (url : Text) : Location := fs.place (c.path url)

/-- The bytes of the list that is kept for a URL. -/
def kept? (c : ListCache) (fs : Files) (url : Text) : Option Bytes := fs.fileAt? (c.place fs url)

/-- Where the list of a URL is written first. -/
def temporaryPlace (c : ListCache) (fs : Files) (url : Text) : Location :=
  fs.place (c.folder.child (temporaryName url))

theorem place_eq (c : ListCache) (fs : Files) (url : Text) :
    c.place fs url = fs.place c.folder ++ [fileName url] := Files.place_child (isName_fileName url)

theorem temporaryPlace_eq (c : ListCache) (fs : Files) (url : Text) :
    c.temporaryPlace fs url = fs.place c.folder ++ [temporaryName url] :=
  Files.place_child (isName_temporaryName url)

/-- A list is never written where another one is kept. -/
theorem place_ne_temporaryPlace : c.place fs url ≠ c.temporaryPlace fs url' := by
  rw [place_eq, temporaryPlace_eq]
  intro h
  have hname := List.append_cancel_left h
  exact temporaryName_ne_fileName url' url (List.cons.inj hname).1.symm

theorem place_eq_of_home_eq (h : fs'.home = fs.home) : c.place fs' url = c.place fs url := by
  rw [place, place, Files.place, Files.place, Files.start_eq_of_home_eq h]

theorem temporaryPlace_eq_of_home_eq (h : fs'.home = fs.home) :
    c.temporaryPlace fs' url = c.temporaryPlace fs url := by
  rw [temporaryPlace, temporaryPlace, Files.place, Files.place, Files.start_eq_of_home_eq h]

/-- A list is the same if its place is the same and the file there. -/
theorem kept?_eq_of_fileAt?_eq (hhome : fs'.home = fs.home)
    (hfile : fs'.fileAt? (c.place fs url) = fs.fileAt? (c.place fs url)) :
    c.kept? fs' url = c.kept? fs url := by
  rw [kept?, kept?, place_eq_of_home_eq hhome, hfile]

theorem path_eq_of_place_eq (h : c.place fs url = c.place fs url') : c.path url = c.path url' := by
  rw [place_eq, place_eq] at h
  have hname := List.append_cancel_left h
  rw [path, path, (List.cons.inj hname).1]

/-! ## Two places at most -/

/-- The way to the folder of the lists. -/
def Way (c : ListCache) (fs : Files) : Location → Prop := Files.Passes (fs.start c.folder) c.folder

theorem way_eq_of_home_eq (h : fs'.home = fs.home) : c.Way fs' = c.Way fs := by
  rw [Way, Way, Files.start_eq_of_home_eq h]

/-- No folder is lost, and nothing changes but the list, the file that is written first, and folders
that were missing on the way to them. -/
structure Touches (c : ListCache) (url : Text) (fs fs' : Files) : Prop where
  /-- No folder is lost. -/
  grows : fs.Grows fs'
  /-- Other locations are kept. -/
  keptAt : ∀ here, here ≠ c.place fs url → here ≠ c.temporaryPlace fs url →
    Files.KeptAt (c.Way fs) fs fs' here

theorem Touches.refl (fs : Files) : Touches c url fs fs := ⟨.refl fs, fun _ _ _ => .same rfl⟩

theorem Touches.trans (h : Touches c url fs fs') (h' : Touches c url fs' fs'') :
    Touches c url fs fs'' := by
  refine ⟨h.grows.trans h'.grows, fun here hplace htemporary => ?_⟩
  have hkept := h.keptAt here hplace htemporary
  rw [← place_eq_of_home_eq h.grows.home_eq] at hplace
  rw [← temporaryPlace_eq_of_home_eq h.grows.home_eq] at htemporary
  have hkept' := h'.keptAt here hplace htemporary
  rw [way_eq_of_home_eq h.grows.home_eq] at hkept'
  exact hkept.trans h.grows.home_eq hkept'

/-- Other files stay as they are. -/
theorem Touches.fileAt?_eq (h : Touches c url fs fs') (here : Location)
    (hplace : here ≠ c.place fs url) (htemporary : here ≠ c.temporaryPlace fs url) :
    fs'.fileAt? here = fs.fileAt? here := (h.keptAt here hplace htemporary).fileAt?_eq

theorem touches_of_addsFolders (h : Files.AddsFolders (fs.start c.folder) c.folder fs fs') :
    Touches c url fs fs' := ⟨h.grows, fun here _ _ => h.keptAt here⟩

theorem touches_put {here : Location} {node : Node} (hat : fs.isFolderAt here = false)
    (hhere : here = c.place fs url ∨ here = c.temporaryPlace fs url) :
    Touches c url fs (fs.put here node) := by
  refine ⟨Files.grows_put hat, fun here' hplace htemporary => .same ?_⟩
  rw [Files.get?_put, if_neg]
  rintro rfl
  rcases hhere with rfl | rfl
  · exact hplace rfl
  · exact htemporary rfl

theorem touches_erase_temporary (hat : fs.isFolderAt (c.temporaryPlace fs url) = false) :
    Touches c url fs (fs.erase (c.temporaryPlace fs url)) := by
  refine ⟨Files.grows_erase hat, fun here _ htemporary => .same ?_⟩
  rw [Files.get?_erase, if_neg htemporary]

/-! ## What passes -/

/-- The bytes of a delivery that was written, complete, and found to be a list. -/
def storedBody (c : ListCache) (fs : Files) (now : Time) (url : Text) (delivery : Delivery) :
    Option Bytes :=
  if (fs.write now c.folder (temporaryName url) delivery.bytes).isOk && delivery.fault.isNone &&
      (verify delivery.bytes).isOk then
    some delivery.bytes
  else none

/-- The bytes that a list is replaced by, if they come complete and are found to be a list. -/
def refreshedBody (c : ListCache) (w : World) (url : Text) : Option Bytes :=
  match w.files.makeFolders w.now c.folder with
  | (.error _, _) => none
  | (.ok (), fs) =>
    match w.network.download url with
    | .error _ => none
    | .ok delivery => c.storedBody fs (w.arrival url) url delivery

/-- Whether a load asks the network: the list is fresh neither at first nor when it is its turn. -/
def asks (c : ListCache) (w : World) (url : Text) : Bool :=
  c.needsDownload w url && c.needsDownload (w.turn url) url

/-- The bytes that a load downloads, if they come complete and are found to be a list. -/
def verifiedBody (c : ListCache) (w : World) (url : Text) : Option Bytes :=
  if c.asks w url then c.refreshedBody (w.turn url) url else none

/-- Verified bytes are kept for a URL and can be read there. -/
structure Readable (c : ListCache) (fs : Files) (url : Text) (bytes : Bytes) : Prop where
  /-- They were verified. -/
  verify_eq : verify bytes = .ok ()
  /-- The path leads to the list. -/
  locate : fs.locateChild c.folder (fileName url) = .ok (c.place fs url)
  /-- No folder hides them. -/
  isFolderAt : fs.isFolderAt (c.place fs url) = false
  /-- They are the bytes of the list. -/
  kept?_eq : c.kept? fs url = some bytes

/-- What becomes of a list where some bytes were verified or none. -/
inductive Effect (c : ListCache) (url : Text) (fs fs' : Files) (body : Option Bytes) : Prop where
  /-- It stays as it was.  Verified bytes are turned away by a folder in its place only. -/
  | kept : c.kept? fs' url = c.kept? fs url →
      (body = none ∨ fs'.isFolderAt (c.place fs' url) = true) → Effect c url fs fs' body
  /-- It is replaced as a whole. -/
  | replaced {bytes : Bytes} : body = some bytes → Readable c fs' url bytes →
      Effect c url fs fs' body

/-- What happened before to other files does not matter. -/
theorem Effect.of_kept?_eq {body : Option Bytes} (hkept : c.kept? fs' url = c.kept? fs url)
    (h : Effect c url fs' fs'' body) : Effect c url fs fs'' body := by
  cases h with
  | kept hkept' hbody => exact .kept (hkept'.trans hkept) hbody
  | replaced hbody hreadable => exact .replaced hbody hreadable

/-! ## Accepting -/

section

variable {now : Time} {bytes : Bytes}

/-- The file that is written first is there. -/
structure Written (c : ListCache) (fs : Files) (now : Time) (url : Text) (bytes : Bytes) :
    Prop where
  /-- Its name has a place. -/
  locate : fs.locateChild c.folder (temporaryName url) = .ok (c.temporaryPlace fs url)
  /-- There is no folder. -/
  isFolderAt : fs.isFolderAt (c.temporaryPlace fs url) = false
  /-- It holds what was delivered. -/
  get? : fs.get? (c.temporaryPlace fs url) = some (.file bytes now)

theorem accept_of_error {fault : LoadFault} (h : Written c fs now url bytes)
    (hverify : verify bytes = .error fault) :
    c.accept fs url bytes = (.error fault, fs.erase (c.temporaryPlace fs url)) := by
  rw [accept, hverify, Files.remove_eq_erase h.locate h.isFolderAt]

theorem accept_of_ok (h : Written c fs now url bytes) (hverify : verify bytes = .ok ()) :
    c.accept fs url bytes =
      if fs.isFolderAt (c.place fs url) then (.error (.io .isFolder), fs)
      else
        (.ok (), (fs.erase (c.temporaryPlace fs url)).put (c.place fs url) (.file bytes now)) := by
  have hlocate : fs.locateChild c.folder (fileName url) = .ok (c.place fs url) :=
    locateChild_fileName h.locate
  rw [accept, hverify]
  simp only [Files.rename_eq h.locate hlocate h.get?]
  cases fs.isFolderAt (c.place fs url) with
  | true => rfl
  | false => rfl

/-- A file that takes the place of a list can be read there. -/
theorem readable_of_accept (h : Written c fs now url bytes) (hverify : verify bytes = .ok ())
    (hat : fs.isFolderAt (c.place fs url) = false) :
    Touches c url fs
        ((fs.erase (c.temporaryPlace fs url)).put (c.place fs url) (.file bytes now)) ∧
      Readable c ((fs.erase (c.temporaryPlace fs url)).put (c.place fs url) (.file bytes now)) url
        bytes := by
  have herase : Touches c url fs (fs.erase (c.temporaryPlace fs url)) :=
    touches_erase_temporary h.isFolderAt
  have hget : (fs.erase (c.temporaryPlace fs url)).get? (c.place fs url) =
      fs.get? (c.place fs url) := by
    rw [Files.get?_erase, if_neg place_ne_temporaryPlace]
  have hfree : (fs.erase (c.temporaryPlace fs url)).isFolderAt (c.place fs url) =
      fs.isFolderAt (c.place fs url) := Files.isFolderAt_eq_of_get? rfl hget
  rw [hat] at hfree
  have hput : Touches c url (fs.erase (c.temporaryPlace fs url))
      ((fs.erase (c.temporaryPlace fs url)).put (c.place fs url) (.file bytes now)) :=
    touches_put hfree (.inl rfl)
  have htouches := herase.trans hput
  exact ⟨htouches, hverify, htouches.grows.locateChild (locateChild_fileName h.locate),
    Files.isFolderAt_put_file hfree, Files.fileAt?_put_file⟩

/-- Only verified bytes take the place of a list, and a failure leaves it alone. -/
theorem accept_effect (h : Written c fs now url bytes) :
    Touches c url fs (c.accept fs url bytes).2 ∧
      Effect c url fs (c.accept fs url bytes).2
        (if (verify bytes).isOk then some bytes else none) := by
  cases hverify : verify bytes with
  | error fault =>
      rw [accept_of_error h hverify]
      refine ⟨touches_erase_temporary h.isFolderAt, .kept ?_ (.inl rfl)⟩
      refine kept?_eq_of_fileAt?_eq rfl (Files.fileAt?_eq_of_get? ?_)
      rw [Files.get?_erase, if_neg place_ne_temporaryPlace]
  | ok u =>
      rw [accept_of_ok h hverify]
      by_cases hat : fs.isFolderAt (c.place fs url) = true
      · rw [if_pos hat]
        exact ⟨.refl fs, .kept rfl (.inr hat)⟩
      · rw [if_neg hat]
        obtain ⟨htouches, hreadable⟩ := readable_of_accept h hverify (by simpa using hat)
        exact ⟨htouches, .replaced rfl hreadable⟩

/-- The file that is written first is no list, so the list stays as it was. -/
theorem written_of_write (h : fs.write now c.folder (temporaryName url) bytes = .ok fs') :
    Written c fs' now url bytes ∧ Touches c url fs fs' ∧
      c.kept? fs' url = c.kept? fs url := by
  obtain ⟨here, hlocate, hat, rfl⟩ := Files.write_eq_ok_iff.mp h
  obtain rfl : here = c.temporaryPlace fs url :=
    Files.place_of_locateChild (isName_temporaryName url) hlocate
  have htouches : Touches c url fs (fs.put (c.temporaryPlace fs url) (.file bytes now)) :=
    touches_put hat (.inr rfl)
  have hget : (fs.put (c.temporaryPlace fs url) (.file bytes now)).get? (c.temporaryPlace fs url) =
      some (.file bytes now) := by rw [Files.get?_put, if_pos rfl]
  refine ⟨⟨htouches.grows.locateChild hlocate, Files.isFolderAt_put_file hat, hget⟩, htouches,
    kept?_eq_of_fileAt?_eq rfl (Files.fileAt?_eq_of_get? ?_)⟩
  rw [Files.get?_put, if_neg place_ne_temporaryPlace]

/-- Storing a delivery replaces the list by it where it passes, and leaves it alone otherwise. -/
theorem store_effect (c : ListCache) (fs : Files) (now : Time) (url : Text) (delivery : Delivery) :
    Touches c url fs (c.store fs now url delivery).2 ∧
      Effect c url fs (c.store fs now url delivery).2 (c.storedBody fs now url delivery) := by
  rw [store, storedBody]
  cases hwrite : fs.write now c.folder (temporaryName url) delivery.bytes with
  | error cause => exact ⟨.refl fs, .kept rfl (.inl rfl)⟩
  | ok fs' =>
      obtain ⟨hwritten, htouches, hkept⟩ := written_of_write hwrite
      cases delivery.fault with
      | some cause => exact ⟨htouches, .kept hkept (.inl rfl)⟩
      | none =>
          obtain ⟨htouches', heffect⟩ := accept_effect hwritten
          exact ⟨htouches.trans htouches', heffect.of_kept?_eq hkept⟩

end

/-! ## Loading -/

variable {w : World}

/-- To refresh a list replaces it by what was verified, or leaves it alone. -/
theorem refresh_effect (c : ListCache) (w : World) (url : Text) :
    Touches c url w.files (c.refresh w url).2 ∧
      Effect c url w.files (c.refresh w url).2 (c.refreshedBody w url) := by
  rw [refresh, refreshedBody]
  have hadds : Files.AddsFolders (w.files.start c.folder) c.folder w.files
      (w.files.makeFolders w.now c.folder).2 := Files.makeFolders_addsFolders
  cases hmake : w.files.makeFolders w.now c.folder with
  | mk outcome fs =>
      rw [hmake] at hadds
      have htouches : Touches c url w.files fs := touches_of_addsFolders hadds
      have hkept : c.kept? fs url = c.kept? w.files url :=
        kept?_eq_of_fileAt?_eq hadds.home_eq (hadds.fileAt?_eq _)
      cases outcome with
      | error cause => exact ⟨htouches, .kept hkept (.inl rfl)⟩
      | ok u =>
          cases hdelivery : w.network.download url with
          | error status => exact ⟨htouches, .kept hkept (.inl rfl)⟩
          | ok delivery =>
              obtain ⟨htouches', heffect⟩ := store_effect c fs (w.arrival url) url delivery
              exact ⟨htouches.trans htouches', heffect.of_kept?_eq hkept⟩

/-- A load that does not ask the network reads the list that is there. -/
theorem load_of_not_asks (h : c.asks w url = false) :
    c.load w url = (w.files.readList (c.path url), w.files) := by
  rw [load]
  by_cases hfirst : c.needsDownload w url = true
  · -- The list became fresh while the load waited.
    rw [asks, hfirst, Bool.true_and] at h
    rw [if_pos hfirst, download, h]
    rfl
  · rw [if_neg hfirst]

theorem download_of_asks (h : c.asks w url = true) :
    c.needsDownload w url = true ∧ c.download (w.turn url) url = c.refresh (w.turn url) url := by
  obtain ⟨hfirst, hturn⟩ := Bool.and_eq_true_iff.mp h
  exact ⟨hfirst, if_pos hturn⟩

/-- A load that asks the network refreshes the list and reads it. -/
theorem load_of_refreshed (hasks : c.asks w url = true)
    (h : c.refresh (w.turn url) url = (.ok (), fs)) :
    c.load w url = (fs.readList (c.path url), fs) := by
  obtain ⟨hfirst, hdownload⟩ := download_of_asks hasks
  rw [load, if_pos hfirst, hdownload, h]

/-- If this fails the load reads the list that is there, or fails as well. -/
theorem load_of_not_refreshed {fault : LoadFault} (hasks : c.asks w url = true)
    (h : c.refresh (w.turn url) url = (.error fault, fs)) :
    c.load w url =
      if fs.has (c.path url) then (fs.readList (c.path url), fs) else (.error fault, fs) := by
  obtain ⟨hfirst, hdownload⟩ := download_of_asks hasks
  rw [load, if_pos hfirst, hdownload, h]

theorem load_snd (c : ListCache) (w : World) (url : Text) :
    (c.load w url).2 = if c.asks w url then (c.refresh (w.turn url) url).2 else w.files := by
  cases hasks : c.asks w url with
  | false => rw [load_of_not_asks hasks, if_neg Bool.false_ne_true]
  | true =>
      rw [if_pos rfl]
      cases hrefresh : c.refresh (w.turn url) url with
      | mk outcome fs =>
          cases outcome with
          | error fault =>
              rw [load_of_not_refreshed hasks hrefresh]
              split
              · rfl
              · rfl
          | ok u => rw [load_of_refreshed hasks hrefresh]

/-- A load replaces a list by what was verified, and leaves it alone otherwise. -/
theorem load_effect (c : ListCache) (w : World) (url : Text) :
    Touches c url w.files (c.load w url).2 ∧
      Effect c url w.files (c.load w url).2 (c.verifiedBody w url) := by
  rw [load_snd, verifiedBody]
  cases c.asks w url with
  | false => exact ⟨.refl _, .kept rfl (.inl rfl)⟩
  | true => exact refresh_effect c (w.turn url) url

/-- A load reads the list that is there afterwards, or fails where there is none. -/
theorem load_fst (c : ListCache) (w : World) (url : Text) :
    (c.load w url).1 = (c.load w url).2.readList (c.path url) ∨
      ((c.load w url).2.has (c.path url) = false ∧
        ∃ fault, (c.load w url).1 = .error fault) := by
  cases hasks : c.asks w url with
  | false =>
      rw [load_of_not_asks hasks]
      exact .inl rfl
  | true =>
      cases hrefresh : c.refresh (w.turn url) url with
      | mk outcome fs =>
          cases outcome with
          | ok u =>
              rw [load_of_refreshed hasks hrefresh]
              exact .inl rfl
          | error fault =>
              rw [load_of_not_refreshed hasks hrefresh]
              cases hhas : fs.has (c.path url) with
              | true => exact .inl rfl
              | false => exact .inr ⟨hhas, fault, rfl⟩

theorem isOk_iff_exists {α ε : Type} {r : Except ε α} : r.isOk = true ↔ ∃ a, r = .ok a := by
  cases r with
  | error fault => simp [Except.isOk, Except.toBool]
  | ok a => simp [Except.isOk, Except.toBool]

/-- What passes was written, came complete, and was verified. -/
theorem storedBody_eq_some_iff {now : Time} {delivery : Delivery} {bytes : Bytes} :
    c.storedBody fs now url delivery = some bytes ↔
      (∃ fs', fs.write now c.folder (temporaryName url) bytes = .ok fs') ∧
        verify bytes = .ok () ∧ delivery = ⟨bytes, none⟩ := by
  have hok : verify bytes = .ok () ↔ (verify bytes).isOk = true := by
    rw [isOk_iff_exists]
    exact ⟨fun h => ⟨(), h⟩, fun ⟨_, h⟩ => h⟩
  rw [storedBody, ← isOk_iff_exists, hok]
  constructor
  · intro h
    split at h
    · next hpasses =>
        obtain ⟨⟨hwrite, hcomplete⟩, hverify⟩ := by
          simpa only [Bool.and_eq_true] using hpasses
        obtain ⟨delivered, fault⟩ := delivery
        cases h
        cases Option.isNone_iff_eq_none.mp hcomplete
        exact ⟨hwrite, hverify, rfl⟩
    · cases h
  · rintro ⟨hwrite, hverify, rfl⟩
    simp only [hwrite, hverify, Option.isNone_none, Bool.and_self, if_true]

/-- What a load verifies was delivered in this load, which asked for it. -/
theorem delivery_of_verifiedBody {bytes : Bytes} (h : c.verifiedBody w url = some bytes) :
    c.asks w url = true ∧ w.network.download url = .ok ⟨bytes, none⟩ ∧ verify bytes = .ok () ∧
      ∃ fs, ((w.turn url).files.makeFolders (w.turn url).now c.folder).2.write
        ((w.turn url).arrival url) c.folder (temporaryName url) bytes = .ok fs := by
  unfold verifiedBody at h
  split at h
  · next hasks =>
      unfold refreshedBody at h
      split at h
      · cases h
      · next hmake =>
          split at h
          · cases h
          · next hdelivery =>
              obtain ⟨hwrite, hverify, rfl⟩ := storedBody_eq_some_iff.mp h
              rw [hmake]
              exact ⟨hasks, hdelivery, hverify, hwrite⟩
  · cases h

/-! ## What is kept -/

theorem read_path_eq_ok_iff {bytes : Bytes} :
    fs.read (c.path url) = .ok bytes ↔
      fs.locateChild c.folder (fileName url) = .ok (c.place fs url) ∧
        c.kept? fs url = some bytes := by
  rw [Files.read_eq_ok_iff]
  constructor
  · rintro ⟨here, hresolve, hfile⟩
    obtain ⟨hlocate, -⟩ := (Files.resolve_child_eq_ok_iff (isName_fileName url)).mp hresolve
    obtain rfl : here = c.place fs url :=
      Files.place_of_locateChild (isName_fileName url) hlocate
    exact ⟨hlocate, hfile⟩
  · rintro ⟨hlocate, hkept⟩
    refine ⟨c.place fs url, ?_, hkept⟩
    exact (Files.resolve_child_eq_ok_iff (isName_fileName url)).mpr
      ⟨hlocate, Files.hasAt_of_fileAt? hkept⟩

/-- Verified bytes are not empty, and they are a text. -/
theorem verify_eq_ok_iff {bytes : Bytes} :
    verify bytes = .ok () ↔ bytes ≠ [] ∧ ∃ t, Utf8.decode bytes = .ok t := by
  rw [verify]
  cases bytes with
  | nil => simp
  | cons b bytes => cases Utf8.decode (b :: bytes) <;> simp

/-- The list that is kept for a URL is missing, or it is one that was verified. -/
inductive Holds (c : ListCache) (fs : Files) (url : Text) (body : Option Bytes) : Prop where
  /-- There is no list. -/
  | missing : c.kept? fs url = none → Holds c fs url body
  /-- The list can be read. -/
  | readable {bytes : Bytes} : body = some bytes → Readable c fs url bytes → Holds c fs url body

/-- What stays in its place can be read there as before. -/
theorem Readable.of_grows {bytes : Bytes} (h : Readable c fs url bytes) (hg : fs.Grows fs')
    (hkept : c.kept? fs' url = c.kept? fs url) : Readable c fs' url bytes := by
  have hplace : c.place fs' url = c.place fs url := place_eq_of_home_eq hg.home_eq
  have hkept' : c.kept? fs' url = some bytes := hkept.trans h.kept?_eq
  refine ⟨h.verify_eq, ?_, ?_, hkept'⟩
  · rw [hplace]
    exact hg.locateChild h.locate
  · rw [Files.isFolderAt_of_fileAt? hkept', hplace, hg.home_eq,
      ← Files.isFolderAt_of_fileAt? h.kept?_eq]
    exact h.isFolderAt

theorem Holds.of_grows {body : Option Bytes} (h : Holds c fs url body) (hg : fs.Grows fs')
    (hkept : c.kept? fs' url = c.kept? fs url) : Holds c fs' url body := by
  cases h with
  | missing hnone => exact .missing (hkept.trans hnone)
  | readable hbody hreadable => exact .readable hbody (hreadable.of_grows hg hkept)

/-- A load of the same URL replaces what was verified last by what is verified now. -/
theorem Holds.load {body : Option Bytes} (h : Holds c w.files url body) :
    Holds c (c.load w url).2 url ((c.verifiedBody w url).or body) := by
  obtain ⟨htouches, heffect⟩ := load_effect c w url
  cases heffect with
  | replaced hbody hreadable =>
      refine .readable ?_ hreadable
      rw [hbody, Option.some_or]
  | kept hkept hbody =>
      rcases hbody with hnone | hfolder
      · rw [hnone, Option.none_or]
        exact h.of_grows htouches.grows hkept
      · -- A folder in the place of the list never came where there was a list.
        cases h with
        | missing hnone => exact .missing (hkept.trans hnone)
        | readable _ hreadable =>
            have hfree := (hreadable.of_grows htouches.grows hkept).isFolderAt
            rw [hfolder] at hfree
            cases hfree

/-- A load does not take the list of its URL away. -/
theorem isSome_kept?_load (h : (c.kept? w.files url).isSome = true) :
    (c.kept? (c.load w url).2 url).isSome = true := by
  obtain ⟨-, heffect⟩ := load_effect c w url
  cases heffect with
  | kept hkept _ =>
      rw [hkept]
      exact h
  | replaced _ hreadable =>
      rw [hreadable.kept?_eq]
      rfl

/-- A load of a URL does not change the list of another one. -/
theorem kept?_load_of_path_ne (hne : c.path url ≠ c.path url') :
    c.kept? (c.load w url').2 url = c.kept? w.files url := by
  obtain ⟨htouches, -⟩ := load_effect c w url'
  refine kept?_eq_of_fileAt?_eq htouches.grows.home_eq
    (htouches.fileAt?_eq _ ?_ place_ne_temporaryPlace)
  exact fun hplace => hne (path_eq_of_place_eq hplace)

theorem Holds.load_of_path_ne {body : Option Bytes} (h : Holds c w.files url body)
    (hne : c.path url ≠ c.path url') : Holds c (c.load w url').2 url body := by
  obtain ⟨htouches, -⟩ := load_effect c w url'
  exact h.of_grows htouches.grows (kept?_load_of_path_ne hne)

/-! ## What is given back -/

/-- A source on the web is loaded as the URL in it, with or without a folder. -/
theorem load_auto {source : Text} (h : Url.isRemote source = true) (cache : Option ListCache) :
    (Loader.auto cache).load w source =
      match cache with
      | some c => c.load w source.trim
      | none => (w.network.loadList source.trim, w.files) := by
  have htrim : Url.isRemote source.trim = true := by
    rw [Url.isRemote, Text.trim_trim]
    exact h
  exact if_pos htrim

/-- A source on the web is loaded into the folder of the lists. -/
theorem load_auto_some {source : Text} (h : Url.isRemote source = true) (c : ListCache)
    (w : World) : (Loader.auto (some c)).load w source = c.load w source.trim :=
  load_auto h (some c)

theorem read_of_readable {bytes : Bytes} (h : Readable c fs url bytes) :
    fs.read (c.path url) = .ok bytes := read_path_eq_ok_iff.mpr ⟨h.locate, h.kept?_eq⟩

theorem has_of_read {p : Path} {bytes : Bytes} (h : fs.read p = .ok bytes) : fs.has p = true := by
  obtain ⟨here, hresolve, -⟩ := Files.read_eq_ok_iff.mp h
  rw [Files.has, hresolve]
  rfl

theorem readList_of_readable {bytes : Bytes} (h : Readable c fs url bytes) :
    ∃ t, Utf8.decode bytes = .ok t ∧ fs.readList (c.path url) = .ok (Text.splitLines t) := by
  obtain ⟨-, t, ht⟩ := verify_eq_ok_iff.mp h.verify_eq
  refine ⟨t, ht, ?_⟩
  simp only [Files.readList, read_of_readable h, ht]

theorem readList_of_kept?_eq_none (h : c.kept? fs url = none) :
    ∃ fault, fs.readList (c.path url) = .error fault := by
  cases hread : fs.read (c.path url) with
  | error cause =>
      refine ⟨.unreadable (c.path url).toText cause, ?_⟩
      simp only [Files.readList, hread]
  | ok bytes =>
      obtain ⟨-, hkept⟩ := read_path_eq_ok_iff.mp hread
      rw [h] at hkept
      cases hkept

/-- A load gives back the lines of the list that can be read afterwards. -/
theorem load_of_readable {bytes : Bytes} (h : Readable c (c.load w url).2 url bytes) :
    ∃ t, Utf8.decode bytes = .ok t ∧ (c.load w url).1 = .ok (Text.splitLines t) := by
  rcases load_fst c w url with hread | ⟨hhas, -⟩
  · rw [hread]
    exact readList_of_readable h
  · rw [has_of_read (read_of_readable h)] at hhas
    cases hhas

/-- A load fails if the list is missing afterwards. -/
theorem load_of_kept?_eq_none (h : c.kept? (c.load w url).2 url = none) :
    ∃ fault, (c.load w url).1 = .error fault := by
  rcases load_fst c w url with hread | ⟨-, hfails⟩
  · rw [hread]
    exact readList_of_kept?_eq_none h
  · exact hfails

end UrlFilter.ListCache
