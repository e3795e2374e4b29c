import Mathlib.Data.List.Basic
import UrlFilter.Proofs.Loader.Download

/-!
# Loads with and without a folder

A list from the web can be kept in a folder or read straight from the reply.  Both ways are compared
to what was delivered.  Without a folder a load gives the lines of any text that came complete
(`Network.loadList_eq_ok_iff`).  With a folder that holds no copy of the list it does so only if the
text is not empty and there is room for it (`ListCache.load_eq_ok_iff`).

*Empty lists.*  So the two disagree about empty replies: they are refused where they were to be
kept, and are lists of one empty line where they are not.  About any other reply the two agree, as
long as there is room (`Loader.auto_agree_iff`).

*Room.*  A folder that can be made need not have room for a list.  The path of the file that is
written first may be too long, or there may be a folder in the place of the list.  Folders that may
not be written to, and full ones, do not occur among `Files`.
-/

namespace UrlFilter

/-! ## Outcomes -/

/-- Two loads agree if they give the same lines, or fail both. -/
inductive Agree : Except LoadFault (List Text) → Except LoadFault (List Text) → Prop where
  /-- Both give the same lines. -/
  | lines {lines : List Text} : Agree (.ok lines) (.ok lines)
  /-- Both fail. -/
  | faults {fault fault' : LoadFault} : Agree (.error fault) (.error fault')

theorem agree_iff {a b : Except LoadFault (List Text)} :
    Agree a b ↔ ∀ lines, a = .ok lines ↔ b = .ok lines := by
  constructor
  · intro h lines
    cases h with
    | lines => rfl
    | faults => simp
  · intro h
    cases a with
    | ok lines =>
        rw [(h lines).mp rfl]
        exact .lines
    | error fault =>
        cases b with
        | ok lines => cases (h lines).mpr rfl
        | error fault' => exact .faults

/-! ## Without a folder -/

/-- All bytes of a reply came, and they are a text. -/
structure Network.Delivers (network : Network) (url : Text) (bytes : Bytes) (t : Text) : Prop where
  /-- The reply is no failure, and no byte is missing. -/
  download_eq : network.download url = .ok ⟨bytes, none⟩
  /-- The bytes are those of the text. -/
  decode_eq : Utf8.decode bytes = .ok t

theorem Delivery.lines_eq_ok_iff {d : Delivery} {url : Text} {lines : List Text} :
    d.lines url = .ok lines ↔
      d.fault = none ∧ ∃ t, Utf8.decode d.bytes = .ok t ∧ lines = Text.splitLines t := by
  rw [Delivery.lines]
  cases d.fault with
  | some cause => simp
  | none => cases Utf8.decode d.bytes <;> simp [eq_comm]

/-- Without a folder a load gives the lines of the text that was delivered. -/
theorem Network.loadList_eq_ok_iff {network : Network} {url : Text} {lines : List Text} :
    network.loadList url = .ok lines ↔
      ∃ bytes t, network.Delivers url bytes t ∧ lines = Text.splitLines t := by
  rw [Network.loadList]
  constructor
  · intro h
    split at h
    · cases h
    · next d hdownload =>
        obtain ⟨hcomplete, t, hdecode, rfl⟩ := Delivery.lines_eq_ok_iff.mp h
        refine ⟨d.bytes, t, ⟨?_, hdecode⟩, rfl⟩
        rw [hdownload, ← hcomplete]
  · rintro ⟨bytes, t, hdelivers, rfl⟩
    rw [hdelivers.download_eq]
    exact Delivery.lines_eq_ok_iff.mpr ⟨rfl, t, hdelivers.decode_eq, rfl⟩

/-! ## With a folder -/

namespace ListCache

/-- The files after the folder of the lists was made. -/
def prepared (c : ListCache) (w : World) : Files := (w.files.makeFolders w.now c.folder).2

/-- The folder of the lists is there or can be made, and no folder is in the way of the file that is
written first. -/
structure Usable (c : ListCache) (w : World) (url : Text) : Prop where
  /-- The folder can be made if it is not there. -/
  makes : (w.files.makeFolders w.now c.folder).1 = .ok ()
  /-- There is no folder in the place of the file that is written first. -/
  temporary : (c.prepared w).isFolderAt (c.temporaryPlace (c.prepared w) url) = false

/-- There is room for a list in its folder. -/
structure HasRoom (c : ListCache) (w : World) (url : Text) : Prop where
  /-- The path of the file that is written first is not too long. -/
  isLong : Path.isLong (c.folder.child (temporaryName url)) = false
  /-- There is no folder in the place of the list. -/
  isFolderAt : (c.prepared w).isFolderAt (c.place (c.prepared w) url) = false

section

variable {c : ListCache} {w : World} {url : Text}

theorem prepared_addsFolders :
    Files.AddsFolders (w.files.start c.folder) c.folder w.files (c.prepared w) :=
  Files.makeFolders_addsFolders

theorem locate_temporary (hmakes : (w.files.makeFolders w.now c.folder).1 = .ok ())
    (hlong : Path.isLong (c.folder.child (temporaryName url)) = false) :
    (c.prepared w).locateChild c.folder (temporaryName url) =
      .ok (c.temporaryPlace (c.prepared w) url) := by
  have hstart : (c.prepared w).start c.folder = w.files.start c.folder :=
    Files.start_eq_of_home_eq prepared_addsFolders.home_eq c.folder
  obtain ⟨above, hwalk, hfolder⟩ := Files.leadToFolder_iff.mp (Files.makeFolders_leads hmakes)
  have hplace : above = (c.prepared w).place c.folder := by
    rw [Files.place, hstart, Files.walk_eq_foldl hwalk]
  refine Files.locateChild_eq_ok_iff.mpr
    ⟨pathFault?_temporaryName (Files.holdsZero_of_makeFolders hmakes) hlong, above, ?_, hfolder,
      isLongPart_temporaryName url, ?_⟩
  · rw [hstart]
    exact hwalk
  · rw [temporaryPlace_eq, hplace]

/-- A list that is missing is not found, unless a folder is in its place. -/
theorem stat_eq_error_of_absent (habsent : c.kept? w.files url = none)
    (hfree : w.files.isFolderAt (c.place w.files url) = false) :
    ∃ fault, w.files.stat (c.path url) = .error fault := by
  rw [Files.stat]
  cases hresolve : w.files.resolve (c.path url) with
  | error fault => exact ⟨fault, rfl⟩
  | ok here =>
      obtain ⟨hlocate, hhas⟩ := (Files.resolve_child_eq_ok_iff (isName_fileName url)).mp hresolve
      obtain rfl : here = c.place w.files url :=
        Files.place_of_locateChild (isName_fileName url) hlocate
      -- What is there is neither a file nor a folder.
      rw [kept?, Files.fileAt?] at habsent
      rw [Files.hasAt, Bool.or_eq_true] at hhas
      rw [Files.isFolderAt, Bool.or_eq_false_iff] at hfree
      rcases hhas with hhome | hnode
      · rw [hfree.1] at hhome
        cases hhome
      · obtain ⟨node, hnode⟩ := Option.isSome_iff_exists.mp hnode
        cases node with
        | folder modified =>
            rw [hnode] at hfree
            cases hfree.2
        | file bytes modified =>
            rw [hnode] at habsent
            cases habsent

/-- A list that cannot be found is asked for, whatever the time is. -/
theorem asks_of_stat {fault : IoFault} (h : w.files.stat (c.path url) = .error fault) :
    c.asks w url = true := by
  have hneeds : ∀ w' : World, w'.files = w.files → c.needsDownload w' url = true := by
    intro w' hfiles
    rw [needsDownload, hfiles, h]
  rw [asks, hneeds w rfl, hneeds (w.turn url) rfl, Bool.and_true]

/-- Where there is room for a list, no folder was in its place before. -/
theorem HasRoom.isFolderAt_place (h : c.HasRoom w url) :
    w.files.isFolderAt (c.place w.files url) = false := by
  have hnone := h.isFolderAt
  rw [place_eq_of_home_eq prepared_addsFolders.home_eq] at hnone
  rw [← Bool.not_eq_true]
  intro hfolder
  rw [prepared_addsFolders.grows.isFolderAt _ hfolder] at hnone
  cases hnone

/-- A list that is missing is asked for, where there is room for it. -/
theorem asks_of_hasRoom (habsent : c.kept? w.files url = none)
    (hroom : c.HasRoom (w.turn url) url) : c.asks w url = true := by
  obtain ⟨fault, hfault⟩ := stat_eq_error_of_absent habsent hroom.isFolderAt_place
  exact asks_of_stat hfault

theorem refresh_eq_store (hmakes : (w.files.makeFolders w.now c.folder).1 = .ok ())
    {delivery : Delivery} (hdelivery : w.network.download url = .ok delivery) :
    c.refresh w url = c.store (c.prepared w) (w.arrival url) url delivery := by
  have hmake : w.files.makeFolders w.now c.folder = (.ok (), c.prepared w) := Prod.ext hmakes rfl
  rw [refresh, hmake]
  simp only [hdelivery]

/-- Where there is room, any bytes can be written first. -/
theorem exists_written (husable : c.Usable w url) (hroom : c.HasRoom w url) (now : Time)
    (bytes : Bytes) :
    ∃ fs, (c.prepared w).write now c.folder (temporaryName url) bytes = .ok fs ∧
      Written c fs now url bytes ∧ fs.isFolderAt (c.place fs url) = false := by
  have hwrite : (c.prepared w).write now c.folder (temporaryName url) bytes =
      .ok ((c.prepared w).put (c.temporaryPlace (c.prepared w) url) (.file bytes now)) :=
    Files.write_eq_ok_iff.mpr
      ⟨_, locate_temporary husable.makes hroom.isLong, husable.temporary, rfl⟩
  obtain ⟨hwritten, htouches, -⟩ := written_of_write hwrite
  refine ⟨_, hwrite, hwritten, ?_⟩
  rw [place_eq_of_home_eq htouches.grows.home_eq, ← hroom.isFolderAt]
  refine Files.isFolderAt_eq_of_get? rfl ?_
  rw [Files.get?_put, if_neg place_ne_temporaryPlace]

/-- Where there is room, a list that is refreshed is replaced by what was verified. -/
theorem readable_of_refresh (husable : c.Usable w url) (hroom : c.HasRoom w url) {bytes : Bytes}
    (hdownload : w.network.download url = .ok ⟨bytes, none⟩) (hverify : verify bytes = .ok ()) :
    Readable c (c.refresh w url).2 url bytes := by
  obtain ⟨fs, hwrite, hwritten, hfree⟩ := exists_written husable hroom (w.arrival url) bytes
  obtain ⟨-, hreadable⟩ := readable_of_accept hwritten hverify hfree
  rw [refresh_eq_store husable.makes hdownload]
  simp only [store, hwrite, accept_of_ok hwritten hverify, hfree, Bool.false_eq_true, if_false]
  exact hreadable

/-- Where there is room, a list that is asked for is replaced by what was verified. -/
theorem readable_of_hasRoom (husable : c.Usable (w.turn url) url)
    (hroom : c.HasRoom (w.turn url) url) (hasks : c.asks w url = true) {bytes : Bytes}
    (hdownload : w.network.download url = .ok ⟨bytes, none⟩) (hverify : verify bytes = .ok ()) :
    Readable c (c.load w url).2 url bytes := by
  rw [load_snd, if_pos hasks]
  exact readable_of_refresh husable hroom hdownload hverify

/-- Where there is room, a load that asks for a list gives the lines that are delivered. -/
theorem load_of_delivers (husable : c.Usable (w.turn url) url)
    (hroom : c.HasRoom (w.turn url) url) (hasks : c.asks w url = true) {bytes : Bytes} {t : Text}
    (hdelivers : w.network.Delivers url bytes t) (hne : bytes ≠ []) :
    (c.load w url).1 = .ok (Text.splitLines t) := by
  have hverify : verify bytes = .ok () := verify_eq_ok_iff.mpr ⟨hne, t, hdelivers.decode_eq⟩
  obtain ⟨t', hdecode, hload⟩ :=
    load_of_readable (readable_of_hasRoom husable hroom hasks hdelivers.download_eq hverify)
  rw [hdelivers.decode_eq] at hdecode
  rw [hload, Except.ok.inj hdecode]

/-- What a load gives that found no copy was delivered in this load, and there was room for it. -/
theorem delivers_of_load (husable : c.Usable (w.turn url) url)
    (habsent : c.kept? w.files url = none) {lines : List Text}
    (h : (c.load w url).1 = .ok lines) :
    c.HasRoom (w.turn url) url ∧ ∃ bytes t, w.network.Delivers url bytes t ∧ bytes ≠ [] ∧
      lines = Text.splitLines t := by
  obtain ⟨-, heffect⟩ := load_effect c w url
  cases heffect with
  | kept hkept _ =>
      obtain ⟨fault, hfails⟩ := load_of_kept?_eq_none (hkept.trans habsent)
      rw [hfails] at h
      cases h
  | replaced hbody hreadable =>
      obtain ⟨hasks, hdownload, hverify, fs, hwrite⟩ := delivery_of_verifiedBody hbody
      obtain ⟨t, hdecode, hload⟩ := load_of_readable hreadable
      obtain ⟨hne, -⟩ := verify_eq_ok_iff.mp hverify
      rw [hload] at h
      refine ⟨⟨?_, ?_⟩, _, t, ⟨hdownload, hdecode⟩, hne, (Except.ok.inj h).symm⟩
      · obtain ⟨_, hlocate, -, -⟩ := Files.write_eq_ok_iff.mp hwrite
        exact (pathFault?_eq_none_iff.mp (Files.locateChild_eq_ok_iff.mp hlocate).1).2.2
      · -- A folder in the place of the list would still be there.
        rw [← Bool.not_eq_true]
        intro hfolder
        obtain ⟨htouches, -⟩ :=
          store_effect c (c.prepared (w.turn url)) ((w.turn url).arrival url) url ⟨_, none⟩
        have hfree := hreadable.isFolderAt
        rw [load_snd, if_pos hasks, refresh_eq_store husable.makes hdownload,
          place_eq_of_home_eq htouches.grows.home_eq, htouches.grows.isFolderAt _ hfolder] at hfree
        cases hfree

theorem load_eq_ok_iff (husable : c.Usable (w.turn url) url)
    (habsent : c.kept? w.files url = none) {lines : List Text} :
    (c.load w url).1 = .ok lines ↔ c.HasRoom (w.turn url) url ∧
      ∃ bytes t, w.network.Delivers url bytes t ∧ bytes ≠ [] ∧ lines = Text.splitLines t := by
  refine ⟨delivers_of_load husable habsent, ?_⟩
  rintro ⟨hroom, bytes, t, hdelivers, hne, rfl⟩
  exact load_of_delivers husable hroom (asks_of_hasRoom habsent hroom) hdelivers hne

end

end ListCache

/-! ## Both -/

namespace Loader

open ListCache

/-- With a folder that holds no copy of a list, and without one, a load of the list gives the same
lines or fails both times, unless the reply is complete and empty.  Then the two do not agree.  A
load always fails if there is no room for the list in the folder.  This holds for every URL and
whatever the network answers to it. -/
theorem auto_agree_iff {c : ListCache} {w : World} {source : Text}
    (hremote : Url.isRemote source = true)
    (husable : c.Usable (w.turn source.trim) source.trim)
    (habsent : c.kept? w.files source.trim = none) :
    (c.HasRoom (w.turn source.trim) source.trim →
        (Agree ((auto (some c)).load w source).1 ((auto none).load w source).1 ↔
          w.network.download source.trim ≠ .ok ⟨[], none⟩)) ∧
      (¬ c.HasRoom (w.turn source.trim) source.trim →
        ∃ fault, ((auto (some c)).load w source).1 = .error fault) := by
  rw [load_auto hremote (some c), load_auto hremote none]
  have hload : ∀ lines, (c.load w source.trim).1 = .ok lines ↔ _ :=
    fun lines => load_eq_ok_iff husable habsent
  constructor
  · intro hroom
    rw [agree_iff]
    simp only [hload, hroom, true_and, Network.loadList_eq_ok_iff]
    constructor
    · intro hagree hempty
      have hdelivers : w.network.Delivers source.trim [] [] := ⟨hempty, rfl⟩
      obtain ⟨bytes, t, hdelivers', hne, -⟩ :=
        (hagree (Text.splitLines [])).mpr ⟨[], [], hdelivers, rfl⟩
      rw [hdelivers'.download_eq] at hempty
      cases hempty
      exact hne rfl
    · intro hnonempty lines
      constructor
      · rintro ⟨bytes, t, hdelivers, -, hlines⟩
        exact ⟨bytes, t, hdelivers, hlines⟩
      · rintro ⟨bytes, t, hdelivers, hlines⟩
        refine ⟨bytes, t, hdelivers, ?_, hlines⟩
        rintro rfl
        exact hnonempty hdelivers.download_eq
  · intro hroom
    cases hcached : (c.load w source.trim).1 with
    | error fault => exact ⟨fault, rfl⟩
    | ok lines => exact absurd ((hload lines).mp hcached).1 hroom

/-- A folder for lists in the home folder. -/
def lists : ListCache := ⟨["lists".toList], .ofSeconds 86400⟩

/-- A world without files, in which some bytes come for every list. -/
def serving (bytes : Bytes) : World := ⟨.empty [], .delivering ⟨bytes, none⟩, 0⟩

/-- A list of one line is the same with and without a folder. -/
theorem auto_agree_line :
    Agree ((auto (some lists)).load (serving [97]) "https://a.net:8443/l".toList).1
      ((auto none).load (serving [97]) "https://a.net:8443/l".toList).1 := by
  have husable : lists.Usable (serving [97]) "https://a.net:8443/l".toList :=
    ⟨by decide +kernel, by decide +kernel⟩
  have hroom : lists.HasRoom (serving [97]) "https://a.net:8443/l".toList :=
    ⟨by decide +kernel, by decide +kernel⟩
  exact ((auto_agree_iff (by decide +kernel) husable rfl).1 hroom).mpr (by decide +kernel)

/-- A world without files, in which a server has an empty list. -/
def servingEmpty : World :=
  ⟨.empty [], .serving [("http://a.com/l.txt".toList, ⟨200, [], none⟩)], 0⟩

/-- An empty reply is refused with a folder, and is a list of one empty line without one. -/
theorem not_agree_empty :
    lists.Usable (servingEmpty.turn "http://a.com/l.txt".toList) "http://a.com/l.txt".toList ∧
      lists.kept? servingEmpty.files "http://a.com/l.txt".toList = none ∧
        ((auto (some lists)).load servingEmpty "http://a.com/l.txt".toList).1 =
            .error .emptyDownload ∧
          ((auto none).load servingEmpty "http://a.com/l.txt".toList).1 = .ok [[]] :=
  ⟨⟨by decide +kernel, by decide +kernel⟩, rfl, by decide +kernel, by decide +kernel⟩

end Loader

end UrlFilter
