import UrlFilter.Proofs.Files.Alike
import UrlFilter.Proofs.Loader.Agreement

/-!
# The footprint of a load

What a load may change was said for a load of one URL (`Touches`).  Here it is said for any source
(`Loader.auto_load_footprint`), together with what a load depends on.  A place in a tree of `Files`
has one name only, so nothing else shows what is written there.

*Leftovers.*  A download that breaks off leaves a file behind, the one that is written first.  Later
loads start from trees with such a file, or from trees without one.  What a load gives back and what
it keeps does not depend on it.

Two trees may differ in the file that a path leads to (`Files.DifferInFile`).  If they differ at
all, the path leads there in one of them, so the folder of the path is there in both (`Leftover`).
A load then makes no folder.  Until it writes the file it reads nothing but the list, and what it
writes does not depend on what was there: afterwards the trees show the same.
-/

namespace UrlFilter

open Files

/-- Two trees differ at most in what a path leads to, and there is no folder in either. -/
structure Files.DifferInFile (p : Path) (fs fs' : Files) : Prop where
  /-- The home folder is the same. -/
  home_eq : fs'.home = fs.home
  /-- A location holds the same, unless the path leads there in one of the trees. -/
  get?_eq : ∀ here, fs'.get? here = fs.get? here ∨
    fs.resolve p = .ok here ∨ fs'.resolve p = .ok here
  /-- In the one tree the path leads to a file or to nothing. -/
  isFolder : fs.isFolder p = false
  /-- So it does in the other. -/
  isFolder' : fs'.isFolder p = false

theorem Files.Alike.readList {fs fs' : Files} (h : Alike fs fs') (p : Path) :
    fs'.readList p = fs.readList p := by
  rw [Files.readList, Files.readList, Files.read, Files.read, h.stat]

namespace ListCache

variable {c : ListCache} {w : World} {fs fs' : Files} {url : Text}

/-! ## Loads of trees that show the same -/

theorem Alike.accept (h : Alike fs fs') (c : ListCache) (url : Text) (bytes : Bytes) :
    AlikeSteps (c.accept fs url bytes) (c.accept fs' url bytes) := by
  rw [ListCache.accept, ListCache.accept]
  cases verify bytes with
  | error fault => exact ⟨rfl, h.remove _ _⟩
  | ok u =>
      rcases (h.rename c.folder (temporaryName url) (fileName url)).cases with
        ⟨cause, hfails, hfails'⟩ | ⟨renamed, renamed', hrename, hrename', halike⟩
      · simp only [hfails, hfails']
        exact ⟨rfl, h⟩
      · simp only [hrename, hrename']
        exact ⟨rfl, halike⟩

/-- Behind attempts to write that are alike a delivery is stored alike. -/
theorem store_alike {now : Time} {delivery : Delivery}
    (hfaults : ∀ cause, fs.write now c.folder (temporaryName url) delivery.bytes = .error cause →
      Alike fs fs')
    (hwrite : AlikeAttempts (fs.write now c.folder (temporaryName url) delivery.bytes)
      (fs'.write now c.folder (temporaryName url) delivery.bytes)) :
    AlikeSteps (c.store fs now url delivery) (c.store fs' now url delivery) := by
  rw [store, store]
  rcases hwrite.cases with
    ⟨cause, hfails, hfails'⟩ | ⟨written, written', hwritten, hwritten', halike⟩
  · rw [hfails, hfails']
    exact ⟨rfl, hfaults cause hfails⟩
  · simp only [hwritten, hwritten']
    cases delivery.fault with
    | some cause => exact ⟨rfl, halike⟩
    | none => exact Alike.accept halike c url delivery.bytes

theorem Alike.refresh (h : Alike w.files fs') (c : ListCache) (url : Text) :
    AlikeSteps (c.refresh w url) (c.refresh (w.withFiles fs') url) := by
  obtain ⟨hresult, hfiles⟩ := h.makeFolders w.now c.folder
  rw [ListCache.refresh, ListCache.refresh, World.withFiles]
  cases hmade : w.files.makeFolders w.now c.folder with
  | mk result fs =>
      cases hmade' : fs'.makeFolders w.now c.folder with
      | mk result' fs' =>
          rw [hmade, hmade'] at hresult hfiles
          obtain rfl : result' = result := hresult
          cases result' with
          | error cause => exact ⟨rfl, hfiles⟩
          | ok u =>
              simp only
              cases w.network.download url with
              | error status => exact ⟨rfl, hfiles⟩
              | ok delivery => exact store_alike (fun _ _ => hfiles) (hfiles.write _ _ _ _)

/-- Where lists that are refreshed alike, the same list is read. -/
theorem load_alike (hasks : c.asks w url = true)
    (hasks' : c.asks (w.withFiles fs') url = true)
    (h : AlikeSteps (c.refresh (w.turn url) url) (c.refresh ((w.turn url).withFiles fs') url)) :
    AlikeSteps (c.load w url) (c.load (w.withFiles fs') url) := by
  have hturn : (w.withFiles fs').turn url = (w.turn url).withFiles fs' := rfl
  obtain ⟨hresult, hfiles⟩ := h
  rw [← hturn] at hresult hfiles
  cases hrefresh : c.refresh (w.turn url) url with
  | mk result fs =>
      cases hrefresh' : c.refresh ((w.withFiles fs').turn url) url with
      | mk result' fs' =>
          rw [hrefresh, hrefresh'] at hresult hfiles
          obtain rfl : result' = result := hresult
          cases result' with
          | ok u =>
              rw [load_of_refreshed hasks hrefresh, load_of_refreshed hasks' hrefresh']
              exact ⟨hfiles.readList _, hfiles⟩
          | error fault =>
              rw [load_of_not_refreshed hasks hrefresh, load_of_not_refreshed hasks' hrefresh',
                hfiles.has, hfiles.readList]
              split
              · exact ⟨rfl, hfiles⟩
              · exact ⟨rfl, hfiles⟩

/-- Whether the network is asked depends on the list alone. -/
theorem asks_eq_of_stat (h : fs'.stat (c.path url) = w.files.stat (c.path url)) :
    c.asks (w.withFiles fs') url = c.asks w url := by
  have hneeds : ∀ w' : World, w'.files = w.files →
      c.needsDownload (w'.withFiles fs') url = c.needsDownload w' url := by
    intro w' hfiles
    rw [needsDownload, needsDownload, World.withFiles, hfiles, h]
  exact congrArg₂ and (hneeds w rfl) (hneeds (w.turn url) rfl)

/-- Loads of trees that show the same give the same result, and leave trees that show the same. -/
theorem Alike.load (h : Alike w.files fs') (c : ListCache) (url : Text) :
    AlikeSteps (c.load w url) (c.load (w.withFiles fs') url) := by
  have hsame : c.asks (w.withFiles fs') url = c.asks w url := asks_eq_of_stat (h.stat (c.path url))
  cases hasks : c.asks w url with
  | true =>
      have halike : Alike (w.turn url).files fs' := h
      exact load_alike hasks (hsame.trans hasks) (Alike.refresh halike c url)
  | false =>
      rw [load_of_not_asks hasks, load_of_not_asks (hsame.trans hasks)]
      exact ⟨h.readList _, h⟩

/-! ## Leftovers -/

/-- Two trees differ at most in the file that is written first, and this has a place in them. -/
structure Leftover (c : ListCache) (url : Text) (fs fs' : Files) : Prop where
  /-- The home folder is the same. -/
  home_eq : fs'.home = fs.home
  /-- Every other location holds the same. -/
  get?_eq : ∀ here, here ≠ c.temporaryPlace fs url → fs'.get? here = fs.get? here
  /-- The name of the file has a place. -/
  locate : fs.locateChild c.folder (temporaryName url) = .ok (c.temporaryPlace fs url)
  /-- There is no folder in the one tree. -/
  isFolderAt : fs.isFolderAt (c.temporaryPlace fs url) = false
  /-- There is no folder in the other. -/
  isFolderAt' : fs'.isFolderAt (c.temporaryPlace fs url) = false

/-- The place of the file does not depend on what it holds. -/
theorem locate_of_differ (hhome : fs'.home = fs.home)
    (hget : ∀ here, here ≠ c.temporaryPlace fs url → fs'.get? here = fs.get? here)
    (hlocate : fs.locateChild c.folder (temporaryName url) = .ok (c.temporaryPlace fs url))
    (hat : fs.isFolderAt (c.temporaryPlace fs url) = false) :
    fs'.locateChild c.folder (temporaryName url) = .ok (c.temporaryPlace fs' url) := by
  obtain ⟨hfault, above, hwalk, hfolder, hlong, hplace⟩ := locateChild_eq_ok_iff.mp hlocate
  have hne : above ≠ c.temporaryPlace fs url := by
    rw [hplace]
    intro h
    simpa using congrArg List.length h
  rw [temporaryPlace_eq_of_home_eq hhome]
  refine locateChild_eq_ok_iff.mpr ⟨hfault, above, ?_, ?_, hlong, hplace⟩
  · rw [start_eq_of_home_eq hhome]
    exact walk_of_differ_at hhome hget hat hwalk hne
  · rw [isFolderAt_eq_of_get? hhome (hget above hne)]
    exact hfolder

theorem Leftover.symm (h : Leftover c url fs fs') : Leftover c url fs' fs := by
  have hplace : c.temporaryPlace fs' url = c.temporaryPlace fs url :=
    temporaryPlace_eq_of_home_eq h.home_eq
  refine ⟨h.home_eq.symm, fun here hne => ?_,
    locate_of_differ h.home_eq h.get?_eq h.locate h.isFolderAt, ?_, ?_⟩
  · rw [hplace] at hne
    exact (h.get?_eq here hne).symm
  · rw [hplace]
    exact h.isFolderAt'
  · rw [hplace]
    exact h.isFolderAt

/-- A path to the file that is written first leads to its place. -/
theorem eq_temporaryPlace_of_resolve {here : Location}
    (h : fs.resolve (c.temporaryPath url) = .ok here) :
    fs.locateChild c.folder (temporaryName url) = .ok (c.temporaryPlace fs url) ∧
      here = c.temporaryPlace fs url := by
  obtain ⟨hlocate, -⟩ := (resolve_child_eq_ok_iff (isName_temporaryName url)).mp h
  obtain rfl : here = c.temporaryPlace fs url :=
    place_of_locateChild (isName_temporaryName url) hlocate
  exact ⟨hlocate, rfl⟩

theorem isFolderAt_of_resolve {p : Path} {here : Location} (hfolder : fs.isFolder p = false)
    (h : fs.resolve p = .ok here) : fs.isFolderAt here = false := by
  rw [Files.isFolder, h] at hfolder
  exact hfolder

/-- Where the path leads to a file in the one tree, the other may lack the file or have another. -/
theorem leftover_of_resolve {here : Location}
    (h : DifferInFile (c.temporaryPath url) fs fs')
    (hresolve : fs.resolve (c.temporaryPath url) = .ok here) :
    Leftover c url fs fs' := by
  have hplace : c.temporaryPlace fs' url = c.temporaryPlace fs url :=
    temporaryPlace_eq_of_home_eq h.home_eq
  obtain ⟨hlocate, rfl⟩ := eq_temporaryPlace_of_resolve hresolve
  have hat := isFolderAt_of_resolve h.isFolder hresolve
  have hget : ∀ here, here ≠ c.temporaryPlace fs url → fs'.get? here = fs.get? here := by
    intro here hne
    rcases h.get?_eq here with heq | hleads | hleads
    · exact heq
    · exact absurd (eq_temporaryPlace_of_resolve hleads).2 hne
    · exact absurd ((eq_temporaryPlace_of_resolve hleads).2.trans hplace) hne
  refine ⟨h.home_eq, hget, hlocate, hat, ?_⟩
  -- A folder in the other tree would be one that the path leads to.
  rw [← Bool.not_eq_true]
  intro hfolder
  have hlocate' := locate_of_differ h.home_eq hget hlocate hat
  rw [hplace] at hlocate'
  have hresolve' := (resolve_child_eq_ok_iff (isName_temporaryName url)).mpr
    ⟨hlocate', hasAt_of_isFolderAt hfolder⟩
  rw [isFolderAt_of_resolve h.isFolder' hresolve'] at hfolder
  cases hfolder

theorem DifferInFile.symm {p : Path} (h : DifferInFile p fs fs') : DifferInFile p fs' fs :=
  ⟨h.home_eq.symm, fun here => (h.get?_eq here).imp Eq.symm Or.symm, h.isFolder', h.isFolder⟩

/-- Trees that differ at most in the file that is written first show the same, or this file has a
place in them. -/
theorem alike_or_leftover (h : DifferInFile (c.temporaryPath url) fs fs') :
    Alike fs fs' ∨ Leftover c url fs fs' := by
  by_cases hsame : ∀ here, fs'.get? here = fs.get? here
  · exact .inl ⟨h.home_eq, hsame⟩
  · obtain ⟨here, hdiffer⟩ := not_forall.mp hsame
    rcases h.get?_eq here with heq | hleads | hleads
    · exact absurd heq hdiffer
    · exact .inr (leftover_of_resolve h hleads)
    · exact .inr (leftover_of_resolve (DifferInFile.symm h) hleads).symm

/-! ## Loads with and without leftovers -/

theorem Leftover.get?_place (h : Leftover c url fs fs') :
    fs'.get? (c.place fs url) = fs.get? (c.place fs url) := h.get?_eq _ place_ne_temporaryPlace

/-- A list is found whatever was left over. -/
theorem Leftover.resolve (h : Leftover c url fs fs') :
    fs'.resolve (c.path url) = fs.resolve (c.path url) := by
  have hlocate : fs.locateChild c.folder (fileName url) = .ok (c.place fs url) :=
    locateChild_fileName h.locate
  have hlocate' : fs'.locateChild c.folder (fileName url) = .ok (c.place fs' url) :=
    locateChild_fileName h.symm.locate
  rw [place_eq_of_home_eq h.home_eq] at hlocate'
  rw [path, resolve_child_of_locate (isName_fileName url) hlocate,
    resolve_child_of_locate (isName_fileName url) hlocate',
    hasAt_eq_of_get? h.home_eq h.get?_place]

/-- A list is the same whatever was left over. -/
theorem Leftover.stat (h : Leftover c url fs fs') :
    fs'.stat (c.path url) = fs.stat (c.path url) := by
  rw [Files.stat, Files.stat, h.resolve]
  cases hresolve : fs.resolve (c.path url) with
  | error fault => rfl
  | ok here =>
      obtain ⟨hlocate, -⟩ := (resolve_child_eq_ok_iff (isName_fileName url)).mp hresolve
      obtain rfl : here = c.place fs url := place_of_locateChild (isName_fileName url) hlocate
      simp only [h.get?_place]

theorem Leftover.readList (h : Leftover c url fs fs') :
    fs'.readList (c.path url) = fs.readList (c.path url) := by
  rw [Files.readList, Files.readList, Files.read, Files.read, h.stat]

/-- No folder is made where the file that is written first has a place. -/
theorem makeFolders_of_locate {now : Time}
    (h : fs.locateChild c.folder (temporaryName url) = .ok (c.temporaryPlace fs url)) :
    fs.makeFolders now c.folder = (.ok (), fs) := by
  obtain ⟨hfault, above, hwalk, hfolder, -, -⟩ := locateChild_eq_ok_iff.mp h
  obtain ⟨hzero, hlong⟩ := fits_of_child hfault
  exact makeFolders_of_leads hzero hlong (leadToFolder_iff.mpr ⟨above, hwalk, hfolder⟩)

/-- What is written first is the same whatever was left over. -/
theorem Leftover.write (h : Leftover c url fs fs') (now : Time) (bytes : Bytes) :
    fs.write now c.folder (temporaryName url) bytes =
        .ok (fs.put (c.temporaryPlace fs url) (.file bytes now)) ∧
      AlikeAttempts (fs.write now c.folder (temporaryName url) bytes)
        (fs'.write now c.folder (temporaryName url) bytes) := by
  have hlocate' := h.symm.locate
  rw [temporaryPlace_eq_of_home_eq h.home_eq] at hlocate'
  have hwrite : fs.write now c.folder (temporaryName url) bytes =
      .ok (fs.put (c.temporaryPlace fs url) (.file bytes now)) :=
    write_eq_ok_iff.mpr ⟨_, h.locate, h.isFolderAt, rfl⟩
  have hwrite' : fs'.write now c.folder (temporaryName url) bytes =
      .ok (fs'.put (c.temporaryPlace fs url) (.file bytes now)) :=
    write_eq_ok_iff.mpr ⟨_, hlocate', h.isFolderAt', rfl⟩
  refine ⟨hwrite, ?_⟩
  rw [hwrite, hwrite']
  refine .ok ⟨h.home_eq, fun here => ?_⟩
  rw [get?_put, get?_put]
  by_cases heq : here = c.temporaryPlace fs url
  · rw [if_pos heq, if_pos heq]
  · rw [if_neg heq, if_neg heq, h.get?_eq here heq]

/-- With and without leftovers a list is refreshed alike, or this fails before anything is
written. -/
theorem Leftover.refresh (h : Leftover c url w.files fs') :
    AlikeSteps (c.refresh w url) (c.refresh (w.withFiles fs') url) ∨
      ∃ fault, c.refresh w url = (.error fault, w.files) ∧
        c.refresh (w.withFiles fs') url = (.error fault, fs') := by
  rw [ListCache.refresh, ListCache.refresh, World.withFiles]
  simp only [makeFolders_of_locate h.locate, makeFolders_of_locate h.symm.locate]
  cases w.network.download url with
  | error status => exact .inr ⟨_, rfl, rfl⟩
  | ok delivery =>
      obtain ⟨hwrite, halike⟩ := h.write (w.arrival url) delivery.bytes
      refine .inl (store_alike (fun cause hfails => ?_) halike)
      rw [hwrite] at hfails
      cases hfails

/-- With and without leftovers a load gives the same result.  Afterwards the trees show the same, or
still differ in the leftovers only. -/
theorem Leftover.load (h : Leftover c url w.files fs') :
    (c.load (w.withFiles fs') url).1 = (c.load w url).1 ∧
      (Alike (c.load w url).2 (c.load (w.withFiles fs') url).2 ∨
        Leftover c url (c.load w url).2 (c.load (w.withFiles fs') url).2) := by
  have hsame : c.asks (w.withFiles fs') url = c.asks w url := asks_eq_of_stat h.stat
  cases hasks : c.asks w url with
  | true =>
      have hasks' := hsame.trans hasks
      have hturn : Leftover c url (w.turn url).files fs' := h
      rcases hturn.refresh with hsteps | ⟨fault, hfails, hfails'⟩
      · obtain ⟨hresult, hfiles⟩ := load_alike hasks hasks' hsteps
        exact ⟨hresult, .inl hfiles⟩
      · have hhas : fs'.has (c.path url) = (w.turn url).files.has (c.path url) := by
          rw [Files.has, Files.has, hturn.resolve]
        rw [load_of_not_refreshed hasks hfails, load_of_not_refreshed hasks' hfails', hhas,
          hturn.readList]
        split
        · exact ⟨rfl, .inr h⟩
        · exact ⟨rfl, .inr h⟩
  | false =>
      rw [load_of_not_asks hasks, load_of_not_asks (hsame.trans hasks)]
      exact ⟨h.readList, .inr h⟩

/-- Loads of trees that differ at most in the file that is written first give the same result and
leave the same list.  Afterwards the trees differ in this file only. -/
theorem load_of_differInFile
    (h : DifferInFile (c.temporaryPath url) w.files fs') :
    (c.load (w.withFiles fs') url).1 = (c.load w url).1 ∧
      (c.load (w.withFiles fs') url).2.stat (c.path url) = (c.load w url).2.stat (c.path url) ∧
      ∀ here, here ≠ c.temporaryPlace w.files url →
        (c.load (w.withFiles fs') url).2.get? here = (c.load w url).2.get? here := by
  rcases alike_or_leftover h with halike | hleftover
  · obtain ⟨hresult, hfiles⟩ := Alike.load halike c url
    exact ⟨hresult, hfiles.stat _, fun here _ => hfiles.get?_eq here⟩
  · obtain ⟨hresult, hfiles | hfiles⟩ := hleftover.load
    · exact ⟨hresult, hfiles.stat _, fun here _ => hfiles.get?_eq here⟩
    · obtain ⟨htouches, -⟩ := load_effect c w url
      have hplace : c.temporaryPlace (c.load w url).2 url = c.temporaryPlace w.files url :=
        temporaryPlace_eq_of_home_eq htouches.grows.home_eq
      refine ⟨hresult, hfiles.stat, fun here hne => hfiles.get?_eq here ?_⟩
      rw [hplace]
      exact hne

end ListCache

/-! ## Any source -/

namespace Loader

open ListCache

theorem load_auto_of_local {cache : Option ListCache} {w : World} {source : Text}
    (h : Url.isRemote source = false) :
    (auto cache).load w source = (w.files.readList (Path.ofText source.trim), w.files) := by
  have htrim : Url.isRemote source.trim = false := by
    rw [Url.isRemote, Text.trim_trim]
    exact h
  exact if_neg (by rw [htrim]; exact Bool.false_ne_true)

theorem load_auto_none_snd (w : World) (source : Text) :
    ((auto none).load w source).2 = w.files := by
  cases hremote : Url.isRemote source with
  | false => rw [load_auto_of_local hremote]
  | true => rw [load_auto hremote none]

/-- A load of a source that is no URL changes no file, nor does any load without a folder for lists.
With a folder a load changes nothing but the list of the URL, the file that is written first, and
folders that are missing on the way to them.  What it gives back and the list that it leaves do not
depend on whether there is a file under the name of the one that is written first, nor on what is in
it. -/
theorem auto_load_footprint (c : ListCache) (w : World) (source : Text) :
    (Url.isRemote source = false → ((auto (some c)).load w source).2 = w.files) ∧
      ((auto none).load w source).2 = w.files ∧
      (((auto (some c)).load w source).2.home = w.files.home ∧
        ∀ here, here ≠ c.place w.files source.trim → here ≠ c.temporaryPlace w.files source.trim →
          KeptAt (c.Way w.files) w.files ((auto (some c)).load w source).2 here) ∧
      (Url.isRemote source = true →
        ∀ fs', DifferInFile (c.temporaryPath source.trim) w.files fs' →
          ((auto (some c)).load (w.withFiles fs') source).1 =
              ((auto (some c)).load w source).1 ∧
            ((auto (some c)).load (w.withFiles fs') source).2.stat (c.path source.trim) =
              ((auto (some c)).load w source).2.stat (c.path source.trim) ∧
            ∀ here, here ≠ c.temporaryPlace w.files source.trim →
              ((auto (some c)).load (w.withFiles fs') source).2.get? here =
                ((auto (some c)).load w source).2.get? here) := by
  cases hremote : Url.isRemote source with
  | false =>
      rw [load_auto_of_local hremote]
      exact ⟨fun _ => rfl, load_auto_none_snd w source, ⟨rfl, fun here _ _ => .same rfl⟩,
        fun h => absurd h Bool.false_ne_true⟩
  | true =>
      simp only [load_auto_some hremote]
      obtain ⟨htouches, -⟩ := load_effect c w source.trim
      exact ⟨fun h => absurd h.symm Bool.false_ne_true, load_auto_none_snd w source,
        ⟨htouches.grows.home_eq, htouches.keptAt⟩,
        fun _ fs' hdiffer => load_of_differInFile hdiffer⟩

/-- A world with a folder for lists, in which a list of one line comes for every URL. -/
def tidy : World := (serving [97]).withFiles ((Files.empty []).put ["lists".toList] (.folder 0))

/-- The same files with what an earlier download of a list left over. -/
def strewn : Files :=
  tidy.files.put (lists.temporaryPlace tidy.files "https://a.net/l".toList) (.file [120, 255] 0)

/-- What was left over does not matter for the next download. -/
theorem auto_load_strewn :
    DifferInFile (lists.temporaryPath "https://a.net/l".toList) tidy.files strewn ∧
      ((auto (some lists)).load (tidy.withFiles strewn) "https://a.net/l".toList).1 =
        .ok ["a".toList] := by
  have hdiffer : DifferInFile (lists.temporaryPath "https://a.net/l".toList) tidy.files strewn := by
    refine ⟨rfl, fun here => ?_, by decide +kernel, by decide +kernel⟩
    by_cases heq : here = lists.temporaryPlace tidy.files "https://a.net/l".toList
    · rw [heq]
      exact .inr (.inr (by decide +kernel))
    · exact .inl (by rw [strewn, get?_put, if_neg heq])
  obtain ⟨-, -, -, hleftover⟩ := auto_load_footprint lists tidy "https://a.net/l".toList
  obtain ⟨hresult, -, -⟩ := hleftover (by decide +kernel) strewn hdiffer
  refine ⟨hdiffer, hresult.trans ?_⟩
  decide +kernel

end Loader

end UrlFilter
