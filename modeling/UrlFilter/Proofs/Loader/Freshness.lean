import UrlFilter.Proofs.Loader.Agreement
import UrlFilter.Proofs.Loader.Runs

/-!
# Fresh lists

A list that is kept is fresh for a time after it was written.  While it is fresh the network does
not matter (`Fresh.load`).  A download writes the list anew, with the time at which all of it has
come (`dated_of_refresh`).  What other loads do in the meantime does not change it: they are about
other lists, or they find it fresh themselves (`Dated.serve`).  So a list that was downloaded is
given back for as long as it is fresh (`Dated.after`).

*Waiting.*  A load looks at a list twice, before and after it waits for its turn.  A list that is
too old stays so, but one that is from the future may be fresh by then.  It is given back as it is
(`load_of_fresh_at_turn`).  So `Outdated` says of a list from the future that it is still from the
future when it is its turn.

*Room.*  A list that is not fresh is given back only if the download fails.  A server that delivers
a list is not enough for the download to succeed.  There must be room for the list in its folder, as
`Usable` and `HasRoom` say.  Two folders have none.  The path of the one is so long that the list
has a path and the file that is written first has none (`deep`).  The path of the other leads
through a folder with the name of that file, and making the folders makes this one too (`crossing`).
-/

namespace UrlFilter.ListCache

variable {c : ListCache} {w : World} {fs fs' : Files} {url url' : Text} {bytes : Bytes}
  {modified now : Time}

/-! ## Dates -/

/-- The list of a URL is a file with some bytes, and was changed last at some time. -/
def Dated (c : ListCache) (fs : Files) (url : Text) (bytes : Bytes) (modified : Time) : Prop :=
  fs.stat (c.path url) = .ok (.file bytes modified)

/-- The age of something is at most the interval, and it is not from the future. -/
def IsWithinInterval (c : ListCache) (modified now : Time) : Prop :=
  modified ≤ now ∧ now - modified ≤ c.interval.ticks

/-- The list of a URL has some bytes, at least one, and its age is at most the interval. -/
structure Fresh (c : ListCache) (fs : Files) (now : Time) (url : Text) (bytes : Bytes) : Prop where
  /-- There is a byte. -/
  ne_nil : bytes ≠ []
  /-- The list was changed in time. -/
  dated : ∃ modified, c.Dated fs url bytes modified ∧ c.IsWithinInterval modified now

/-- The list of a URL is fresh neither at first nor when it is its turn. -/
inductive Outdated (c : ListCache) (w : World) (url : Text) : Prop where
  /-- It is missing. -/
  | missing {fault : IoFault} : w.files.stat (c.path url) = .error fault → Outdated c w url
  /-- It is empty. -/
  | empty {modified : Time} : c.Dated w.files url [] modified → Outdated c w url
  /-- It is older than the interval. -/
  | old {bytes : Bytes} {modified : Time} : c.Dated w.files url bytes modified →
      c.interval.ticks < w.now - modified → Outdated c w url
  /-- It is from the future, even when it is its turn. -/
  | future {bytes : Bytes} {modified : Time} : c.Dated w.files url bytes modified →
      (w.turn url).now < modified → Outdated c w url

theorem dated_iff :
    c.Dated fs url bytes modified ↔
      fs.locateChild c.folder (fileName url) = .ok (c.place fs url) ∧
        fs.get? (c.place fs url) = some (.file bytes modified) := by
  rw [Dated, Files.stat]
  constructor
  · intro h
    cases hresolve : fs.resolve (c.path url) with
    | error fault =>
        rw [hresolve] at h
        cases h
    | ok here =>
        obtain ⟨hlocate, -⟩ := (Files.resolve_child_eq_ok_iff (isName_fileName url)).mp hresolve
        obtain rfl : here = c.place fs url :=
          Files.place_of_locateChild (isName_fileName url) hlocate
        simp only [hresolve, Except.ok.injEq] at h
        refine ⟨hlocate, ?_⟩
        cases hget : fs.get? (c.place fs url) with
        | none =>
            rw [hget] at h
            cases h
        | some node =>
            rw [hget] at h
            exact congrArg some h
  · rintro ⟨hlocate, hget⟩
    have hresolve : fs.resolve (c.path url) = .ok (c.place fs url) := by
      refine (Files.resolve_child_eq_ok_iff (isName_fileName url)).mpr ⟨hlocate, ?_⟩
      rw [Files.hasAt, hget]
      exact Bool.or_true _
    rw [hresolve]
    simp only [hget]
    rfl

/-- A list keeps its bytes and its date when other lists are loaded. -/
theorem Dated.of_touches (h : c.Dated fs url bytes modified) (htouches : Touches c url' fs fs')
    (hne : c.path url ≠ c.path url') : c.Dated fs' url bytes modified := by
  obtain ⟨hlocate, hget⟩ := dated_iff.mp h
  have hplace : c.place fs' url = c.place fs url := place_eq_of_home_eq htouches.grows.home_eq
  refine dated_iff.mpr ⟨?_, ?_⟩
  · rw [hplace]
    exact htouches.grows.locateChild hlocate
  · rw [hplace]
    refine (htouches.keptAt _ ?_ place_ne_temporaryPlace).get?_eq hget
    exact fun heq => hne (path_eq_of_place_eq heq)

/-! ## Fresh lists -/

theorem isFresh_file_iff :
    c.isFresh now (.file bytes modified) = true ↔ bytes ≠ [] ∧ c.IsWithinInterval modified now := by
  cases bytes with
  | nil => simp [isFresh, Node.isEmpty]
  | cons b bytes =>
      simp only [isFresh, Node.isEmpty, Node.modified, List.isEmpty_cons, Bool.not_false,
        Bool.true_and, Bool.and_eq_true, ne_eq, reduceCtorEq, not_false_eq_true, true_and]
      exact and_congr decide_eq_true_iff decide_eq_true_iff

theorem Fresh.needsDownload (h : c.Fresh w.files w.now url bytes) :
    c.needsDownload w url = false := by
  obtain ⟨hne, modified, hdated, hwithin⟩ := h
  have hfresh : c.isFresh w.now (.file bytes modified) = true :=
    isFresh_file_iff.mpr ⟨hne, hwithin⟩
  rw [ListCache.needsDownload, hdated]
  simp [hfresh]

/-- A fresh list is read where it is, and nothing is changed. -/
theorem Fresh.load (h : c.Fresh w.files w.now url bytes) :
    c.load w url = (w.files.readList (c.path url), w.files) := by
  refine load_of_not_asks ?_
  rw [asks, h.needsDownload, Bool.false_and]

/-- So is a list that is fresh when it is its turn. -/
theorem load_of_fresh_at_turn (h : c.Fresh w.files (w.turn url).now url bytes) :
    c.load w url = (w.files.readList (c.path url), w.files) := by
  have hturn : c.Fresh (w.turn url).files (w.turn url).now url bytes := h
  refine load_of_not_asks ?_
  rw [asks, hturn.needsDownload, Bool.and_false]

theorem Dated.readList_of_ok (h : c.Dated fs url bytes modified) {t : Text}
    (hdecode : Utf8.decode bytes = .ok t) :
    fs.readList (c.path url) = .ok (Text.splitLines t) := by
  rw [Dated] at h
  simp only [Files.readList, Files.read, h, hdecode]

theorem Dated.readList_of_error (h : c.Dated fs url bytes modified) {fault : Utf8.Fault}
    (hdecode : Utf8.decode bytes = .error fault) :
    fs.readList (c.path url) = .error (.fileNotText (c.path url).toText fault) := by
  rw [Dated] at h
  simp only [Files.readList, Files.read, h, hdecode]

/-! ## Downloaded lists -/

/-- A load asks for the list, and succeeds in replacing it. -/
structure Downloads (c : ListCache) (w : World) (url : Text) : Prop where
  /-- The list is not fresh. -/
  asks : c.asks w url = true
  /-- It is replaced. -/
  succeeds : (c.refresh (w.turn url) url).1 = .ok ()

/-- What is stored without a failure is a list, and has the time at which it is stored. -/
theorem dated_of_store {delivery : Delivery} (h : (c.store fs now url delivery).1 = .ok ()) :
    verify delivery.bytes = .ok () ∧
      c.Dated (c.store fs now url delivery).2 url delivery.bytes now := by
  rw [store] at h ⊢
  cases hwrite : fs.write now c.folder (temporaryName url) delivery.bytes with
  | error cause => simp [hwrite] at h
  | ok written =>
      obtain ⟨hwritten, -, -⟩ := written_of_write hwrite
      cases hfault : delivery.fault with
      | some cause => simp [hwrite, hfault] at h
      | none =>
          simp only [hwrite, hfault] at h ⊢
          cases hverify : verify delivery.bytes with
          | error fault => simp [accept_of_error hwritten hverify] at h
          | ok u =>
              rw [accept_of_ok hwritten hverify] at h ⊢
              by_cases hat : written.isFolderAt (c.place written url) = true
              · simp [if_pos hat] at h
              · rw [if_neg hat]
                obtain ⟨htouches, hreadable⟩ :=
                  readable_of_accept hwritten hverify (by simpa using hat)
                refine ⟨rfl, dated_iff.mpr ⟨hreadable.locate, ?_⟩⟩
                rw [place_eq_of_home_eq htouches.grows.home_eq, Files.get?_put, if_pos rfl]

/-- A list that was replaced has the time at which all of it has come. -/
theorem dated_of_refresh (h : (c.refresh w url).1 = .ok ()) :
    ∃ bytes, verify bytes = .ok () ∧ c.Dated (c.refresh w url).2 url bytes (w.arrival url) := by
  rw [refresh] at h ⊢
  cases hmake : w.files.makeFolders w.now c.folder with
  | mk outcome fs =>
      cases outcome with
      | error cause => simp [hmake] at h
      | ok u =>
          cases hdelivery : w.network.download url with
          | error status => simp [hmake, hdelivery] at h
          | ok delivery =>
              simp only [hmake, hdelivery] at h ⊢
              exact ⟨delivery.bytes, dated_of_store h⟩

theorem Downloads.load (h : c.Downloads w url) :
    c.load w url =
      ((c.refresh (w.turn url) url).2.readList (c.path url), (c.refresh (w.turn url) url).2) := by
  cases hrefresh : c.refresh (w.turn url) url with
  | mk outcome fs =>
      have hsucceeds := h.succeeds
      rw [hrefresh] at hsucceeds
      obtain rfl : outcome = .ok () := hsucceeds
      exact load_of_refreshed h.asks hrefresh

/-! ## Other loads in the meantime -/

variable {call : Call} {calls : List Call}

/-- A list that was changed in time for a call keeps its bytes and its date in the call, whatever
the call is about. -/
theorem Dated.serve (h : c.Dated fs url bytes modified) (hne : bytes ≠ [])
    (hwithin : c.IsWithinInterval modified call.now) :
    c.Dated (c.serve fs call).2 url bytes modified := by
  cases hremote : Url.isRemote call.source with
  | false =>
      have htrim : Url.isRemote call.source.trim = false := by
        rw [Url.isRemote, Text.trim_trim]
        exact hremote
      have hlocal : (c.serve fs call).2 = fs := by
        simp [ListCache.serve, Loader.load, Loader.loadAuto, htrim, Call.world]
      rw [hlocal]
      exact h
  | true =>
      rw [serve_eq hremote]
      by_cases hpath : c.path url = c.path call.url
      · -- The call is about the same list, and finds it fresh.
        have hdated : c.Dated fs call.url bytes modified := by
          rw [Dated, ← hpath]
          exact h
        have hfresh : c.Fresh (call.world fs).files (call.world fs).now call.url bytes :=
          ⟨hne, modified, hdated, hwithin⟩
        rw [hfresh.load]
        exact h
      · exact h.of_touches (load_effect c (call.world fs) call.url).1 hpath

/-- A list keeps its bytes and its date in all calls that come in time. -/
theorem Dated.after (h : c.Dated fs url bytes modified) (hne : bytes ≠ [])
    (hwithin : ∀ k ∈ calls, c.IsWithinInterval modified k.now) :
    c.Dated (c.after fs calls) url bytes modified := by
  induction calls generalizing fs with
  | nil => exact h
  | cons call calls ih =>
      obtain ⟨hcall, hcalls⟩ := List.forall_mem_cons.mp hwithin
      exact ih (h.serve hne hcall) hcalls

/-! ## Lists that are not fresh -/

/-- A list that is not fresh at some time has to be downloaded then. -/
theorem Dated.needsDownload (h : c.Dated w.files url bytes modified)
    (hnot : ¬ (bytes ≠ [] ∧ c.IsWithinInterval modified w.now)) :
    c.needsDownload w url = true := by
  rw [← isFresh_file_iff, Bool.not_eq_true] at hnot
  rw [ListCache.needsDownload, h]
  simp [hnot]

theorem now_le_turn (w : World) (url : Text) : w.now ≤ (w.turn url).now :=
  Int.le_add_of_nonneg_right (Int.natCast_nonneg _)

/-- A list that is not fresh is asked for. -/
theorem Outdated.asks (h : c.Outdated w url) : c.asks w url = true := by
  have hle := now_le_turn w url
  have hboth : ∀ bytes modified, c.Dated w.files url bytes modified →
      ¬ (bytes ≠ [] ∧ c.IsWithinInterval modified w.now) →
        ¬ (bytes ≠ [] ∧ c.IsWithinInterval modified (w.turn url).now) →
          c.asks w url = true := by
    intro bytes modified hdated hfirst hturn
    have hdated' : c.Dated (w.turn url).files url bytes modified := hdated
    rw [ListCache.asks, hdated.needsDownload hfirst, hdated'.needsDownload hturn, Bool.and_true]
  cases h with
  | missing hmissing => exact asks_of_stat hmissing
  | empty hdated => exact hboth _ _ hdated (fun hfresh => hfresh.1 rfl) fun hfresh => hfresh.1 rfl
  | old hdated hage =>
      refine hboth _ _ hdated (fun hfresh => ?_) fun hfresh => ?_
      · exact Int.not_le.mpr hage hfresh.2.2
      · exact Int.not_le.mpr hage (Int.le_trans (Int.sub_le_sub_right hle _) hfresh.2.2)
  | future hdated hage =>
      refine hboth _ _ hdated (fun hfresh => ?_) fun hfresh => ?_
      · exact Int.not_le.mpr hage (Int.le_trans hfresh.2.1 hle)
      · exact Int.not_le.mpr hage hfresh.2.1

end UrlFilter.ListCache

/-! ## Any age -/

namespace UrlFilter.Loader

open ListCache

variable {c : ListCache} {source : Text}

theorem isRemote_of_url_eq {call : Call} (hremote : Url.isRemote source = true)
    (h : call.url = source.trim) : Url.isRemote call.source = true := by
  rw [Url.isRemote] at hremote ⊢
  rw [Call.url] at h
  rw [h]
  exact hremote

/-- A load of a fresh list gives back its lines, or fails where it is no text.  Neither depends on
the web. -/
theorem exists_outcome_of_fresh (hremote : Url.isRemote source = true) {fs : Files} {now : Time}
    {bytes : Bytes} (h : c.Fresh fs now source.trim bytes) :
    ∃ outcome, (∀ network, (auto (some c)).load ⟨fs, network, now⟩ source = (outcome, fs)) ∧
      (∀ t, Utf8.decode bytes = .ok t → outcome = .ok (Text.splitLines t)) ∧
      ∀ fault, Utf8.decode bytes = .error fault →
        ∃ fault', outcome = .error fault' ∧ fault'.kind = .data := by
  obtain ⟨-, modified, hdated, -⟩ := id h
  refine ⟨fs.readList (c.path source.trim), fun network => ?_, fun t hdecode => ?_,
    fun fault hdecode => ?_⟩
  · have hfresh : c.Fresh (World.mk fs network now).files (World.mk fs network now).now source.trim
        bytes := h
    rw [load_auto_some hremote, hfresh.load]
  · exact hdated.readList_of_ok hdecode
  · exact ⟨_, hdated.readList_of_error hdecode, rfl⟩

/-- After a load that downloaded a list, its lines are given back in every call that comes in time,
and nothing is changed. -/
theorem exists_lines_of_downloads (hremote : Url.isRemote source = true) {w : World}
    (h : c.Downloads w source.trim) :
    ∃ lines, ((auto (some c)).load w source).1 = .ok lines ∧
      ∀ calls call,
        (∀ k ∈ calls ++ [call],
          c.IsWithinInterval ((w.turn source.trim).arrival source.trim) k.now) →
        call.url = source.trim →
          c.serve (c.after ((auto (some c)).load w source).2 calls) call =
            (.ok lines, c.after ((auto (some c)).load w source).2 calls) := by
  obtain ⟨bytes, hverify, hdated⟩ := dated_of_refresh h.succeeds
  obtain ⟨hne, t, hdecode⟩ := verify_eq_ok_iff.mp hverify
  rw [load_auto_some hremote, h.load]
  refine ⟨Text.splitLines t, hdated.readList_of_ok hdecode, fun calls call hwithin hurl => ?_⟩
  obtain ⟨hcalls, hcall⟩ := List.forall_mem_append.mp hwithin
  have hafter := hdated.after hne hcalls
  have hfresh : c.Fresh
      (call.world (c.after (c.refresh (w.turn source.trim) source.trim).2 calls)).files
      (call.world (c.after (c.refresh (w.turn source.trim) source.trim).2 calls)).now call.url
      bytes := by
    rw [hurl]
    exact ⟨hne, _, hafter, hcall call (List.mem_singleton_self call)⟩
  rw [serve_eq (isRemote_of_url_eq hremote hurl), hfresh.load, hurl]
  exact Prod.ext (hafter.readList_of_ok hdecode) rfl

/-- While a list is fresh, a load gives back its lines and changes nothing, whatever the web
answers.  So does a load whose turn comes when the list is fresh.  A list that was downloaded is
given back until its interval is over, whatever else is loaded in the meantime.  A list that is
missing, empty, too old, or from the future even when it is its turn, is replaced by what comes for
its URL, as long as there is room for it. -/
theorem auto_load_by_age (c : ListCache) (source : Text) (hremote : Url.isRemote source = true) :
    (∀ fs now bytes, c.Fresh fs now source.trim bytes →
        ∃ outcome, (∀ network, (auto (some c)).load ⟨fs, network, now⟩ source = (outcome, fs)) ∧
          (∀ t, Utf8.decode bytes = .ok t → outcome = .ok (Text.splitLines t)) ∧
          ∀ fault, Utf8.decode bytes = .error fault →
            ∃ fault', outcome = .error fault' ∧ fault'.kind = .data) ∧
      (∀ w bytes, c.Fresh w.files (w.turn source.trim).now source.trim bytes →
        (auto (some c)).load w source =
          (w.files.readList (c.path source.trim), w.files)) ∧
      (∀ w, c.Downloads w source.trim →
        ∃ lines, ((auto (some c)).load w source).1 = .ok lines ∧
          ∀ calls call,
            (∀ k ∈ calls ++ [call],
              c.IsWithinInterval ((w.turn source.trim).arrival source.trim) k.now) →
            call.url = source.trim →
              c.serve (c.after ((auto (some c)).load w source).2 calls) call =
                (.ok lines, c.after ((auto (some c)).load w source).2 calls)) ∧
      ∀ w bytes t, c.Outdated w source.trim →
        c.Usable (w.turn source.trim) source.trim → c.HasRoom (w.turn source.trim) source.trim →
          w.network.Delivers source.trim bytes t → bytes ≠ [] →
            ((auto (some c)).load w source).1 = .ok (Text.splitLines t) := by
  refine ⟨fun fs now bytes hfresh => exists_outcome_of_fresh hremote hfresh,
    fun w bytes hfresh => ?_, fun w hdownloads => exists_lines_of_downloads hremote hdownloads,
    fun w bytes t houtdated husable hroom hdelivers hne => ?_⟩
  · rw [load_auto_some hremote, load_of_fresh_at_turn hfresh]
  · rw [load_auto_some hremote]
    exact load_of_delivers husable hroom houtdated.asks hdelivers hne

/-- The URL of a list. -/
def daily : Text := "https://a.net/l".toList

/-- A list that was delivered is given back later, when no server can be reached. -/
theorem auto_load_later :
    lists.Downloads (serving [97]) daily ∧
      lists.IsWithinInterval 0 86400000000000 ∧
      lists.serve ((auto (some lists)).load (serving [97]) daily).2
          ⟨daily, .unreachable, 86400000000000⟩ =
        (.ok ["a".toList], ((auto (some lists)).load (serving [97]) daily).2) := by
  have hdownloads : lists.Downloads (serving [97]) daily := ⟨by decide +kernel, by decide +kernel⟩
  have hwithin : lists.IsWithinInterval 0 86400000000000 := ⟨by decide, by decide⟩
  obtain ⟨-, -, hlater, -⟩ := auto_load_by_age lists daily (by decide +kernel)
  obtain ⟨lines, hlines, hserve⟩ := hlater (serving [97]) hdownloads
  have hvalue : ((auto (some lists)).load (serving [97]) daily).1 = .ok ["a".toList] := by
    decide +kernel
  rw [hvalue] at hlines
  cases hlines
  refine ⟨hdownloads, hwithin, hserve [] _ ?_ (by decide +kernel)⟩
  intro k hk
  rw [List.mem_singleton.mp hk]
  exact hwithin

/-! ## Lists that are not replaced -/

/-- The folder of the lists is there or can be made, and before that there is no folder at the path
of the list nor at that of the file that is written first. -/
structure LooksUsable (c : ListCache) (w : World) (url : Text) : Prop where
  /-- The folder can be made if it is not there. -/
  makes : (w.files.makeFolders w.now c.folder).1 = .ok ()
  /-- There is no folder at the path of the list. -/
  isFolder : w.files.isFolder (c.path url) = false
  /-- There is no folder at the path of the file that is written first. -/
  temporary : w.files.isFolder (c.temporaryPath url) = false

/-- The URL of a list that a server has at the port of the web. -/
def plain : Text := "http://a.net/l".toList

/-- A long name of a folder. -/
def longName : Text := List.replicate 236 'd'

/-- A folder under a path of more than four thousand characters, which leads out of the folder and
back again. -/
def deep : ListCache :=
  ⟨(List.replicate 16 [longName, "..".toList]).flatten ++ [longName], .ofSeconds 60⟩

/-- The path of this folder leads through another one, with the name of the file that is written
first. -/
def crossing : ListCache := ⟨["d".toList, temporaryName plain, "..".toList], .ofSeconds 60⟩

/-- A world two minutes later, in which there is an old list in a folder, and a server has a newer
one. -/
def aged (folder : Text) : World where
  files := ((Files.empty []).put [folder] (.folder 0)).put [folder, fileName plain]
    (.file [111] 0)
  network := .serving [(plain, ⟨200, [110], none⟩)]
  now := 120 * World.ticksPerSecond

/-- A world in which there is a list from the near future, and a server has another one.  Before a
load may ask for that, the future has come. -/
def early : World where
  files := ((Files.empty []).put ["lists".toList] (.folder 0)).put ["lists".toList, fileName plain]
    (.file [111] 60)
  network := { Network.serving [(plain, ⟨200, [110], none⟩)] with wait := fun _ => 60 }
  now := 0

/-- A folder that looks usable may have no room for a list.  Then a list that is too old, or that
could not be found before, is given back although a server delivers a newer one.  So is a list from
the future, which is no longer from the future when it is its turn. -/
theorem auto_load_gives_old :
    (LooksUsable deep (aged longName) plain ∧
        deep.Outdated (aged longName) plain ∧
        (aged longName).network.Delivers plain [110] "n".toList ∧
        ((auto (some deep)).load (aged longName) plain).1 = .ok ["o".toList]) ∧
      (LooksUsable crossing (aged "d".toList) plain ∧
        crossing.Outdated (aged "d".toList) plain ∧
        (aged "d".toList).network.Delivers plain [110] "n".toList ∧
        ((auto (some crossing)).load (aged "d".toList) plain).1 = .ok ["o".toList]) ∧
      LooksUsable lists early plain ∧
        (lists.Dated early.files plain [111] 60 ∧ early.now < 60) ∧
        early.network.Delivers plain [110] "n".toList ∧
        ((auto (some lists)).load early plain).1 = .ok ["o".toList] := by
  have hold : (aged longName).files.stat (deep.path plain) = .ok (.file [111] 0) := by
    decide +kernel
  have hmissing : (aged "d".toList).files.stat (crossing.path plain) = .error .notFound := by
    decide +kernel
  have hahead : early.files.stat (lists.path plain) = .ok (.file [111] 60) := by
    decide +kernel
  refine ⟨⟨?_, .old hold (by decide), ?_, ?_⟩, ⟨?_, .missing hmissing, ?_, ?_⟩,
    ?_, ⟨hahead, by decide⟩, ?_, ?_⟩
  · exact ⟨by decide +kernel, by decide +kernel, by decide +kernel⟩
  · exact ⟨by decide +kernel, rfl⟩
  · decide +kernel
  · exact ⟨by decide +kernel, by decide +kernel, by decide +kernel⟩
  · exact ⟨by decide +kernel, rfl⟩
  · decide +kernel
  · exact ⟨by decide +kernel, by decide +kernel, by decide +kernel⟩
  · exact ⟨by decide +kernel, rfl⟩
  · decide +kernel

end UrlFilter.Loader
