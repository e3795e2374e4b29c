import Mathlib.Data.List.Forall2
import UrlFilter.Proofs.Loader.Footprint
import UrlFilter.Proofs.Loader.Freshness

/-!
# Lists stay apart

The lists of all URLs are kept side by side in one folder.  A name is short, and holds nothing that
could lead out of the folder (`isNameChar_of_mem_fileName`).  It begins with the end of the URL
(`EndsWith`), where other characters are replaced.  It ends with the sixteen digits of the digest,
so it can be cut into the end of the URL and the digest whatever the end looks like
(`fileName_eq_iff`).  Two URLs share a list only if both are the same.

The file that is written first lies in the folder too, under a name that is no list's
(`temporaryName_ne_fileName`).  So a download writes over no other list, and over no file outside
the folder.
-/

namespace UrlFilter.ListCache

variable {c : ListCache} {url url' : Text}

/-! ## Ends of URLs -/

/-- A URL ends with a text, behind its last slash.  Slashes at the very end of the URL do not count,
and a URL of slashes alone ends with nothing. -/
structure EndsWith (url last : Text) : Prop where
  /-- The text stands behind a slash or at the start, and only slashes stand behind it. -/
  cut : ∃ front slashes, url = front ++ last ++ slashes ∧ (∀ a ∈ slashes, a = '/') ∧
    (front = [] ∨ last ≠ [] ∧ front.getLast? = some '/')
  /-- There is no slash in it. -/
  slash_not_mem : '/' ∉ last

/-- A character goes into a name as it is, or is replaced. -/
inductive Stands : Char → Char → Prop where
  /-- It goes into names. -/
  | kept {a : Char} : isNameChar a = true → Stands a a
  /-- It does not. -/
  | replaced {a : Char} : isNameChar a = false → Stands a '_'

theorem trimSlashes_append {t slashes : Text} (h : ∀ a ∈ slashes, a = '/') :
    trimSlashes (t ++ slashes) = trimSlashes t := by
  have hslashes : ∀ a ∈ slashes.reverse, (a == '/') = true := fun a ha =>
    beq_iff_eq.mpr (h a (List.mem_reverse.mp ha))
  rw [trimSlashes, trimSlashes, List.reverse_append, List.dropWhile_append_of_pos hslashes]

theorem trimSlashes_append_of_not_mem {front last : Text} (hlast : last ≠ []) (h : '/' ∉ last) :
    trimSlashes (front ++ last) = front ++ last := by
  obtain ⟨init, a, rfl⟩ := (List.eq_nil_or_concat' last).resolve_left hlast
  have ha : (a == '/') = false := beq_false_of_ne fun heq => h (by simp [heq])
  simp [trimSlashes, ha]

/-- A text is its start without the slashes at its end, and these. -/
theorem exists_trimSlashes_append (t : Text) :
    ∃ slashes, t = trimSlashes t ++ slashes ∧ (∀ a ∈ slashes, a = '/') ∧
      (trimSlashes t).getLast? ≠ some '/' := by
  refine ⟨(t.reverse.takeWhile (· == '/')).reverse, ?_, fun a ha => ?_, fun hlast => ?_⟩
  · rw [trimSlashes, ← List.reverse_append, List.takeWhile_append_dropWhile, List.reverse_reverse]
  · have hmem : a ∈ t.reverse.takeWhile (· == '/') := List.mem_reverse.mp ha
    have hslash := List.mem_takeWhile_imp hmem
    exact beq_iff_eq.mp hslash
  · rw [trimSlashes, List.getLast?_reverse] at hlast
    have hhead := List.head?_dropWhile_not (· == '/') t.reverse
    rw [hlast] at hhead
    simp at hhead

theorem endsWith_lastSegment (url : Text) : EndsWith url (lastSegment (trimSlashes url)) := by
  obtain ⟨slashes, hurl, hslashes, hlast⟩ := exists_trimSlashes_append url
  rw [lastSegment]
  cases hsplit : Text.splitAtLast '/' (trimSlashes url) with
  | none =>
      exact ⟨⟨[], slashes, hurl, hslashes, .inl rfl⟩, Text.splitAtLast_eq_none_iff.mp hsplit⟩
  | some cut =>
      obtain ⟨before, last⟩ := cut
      obtain ⟨htrim, hslash⟩ := Text.splitAtLast_eq_some_iff.mp hsplit
      have hne : last ≠ [] := by
        rintro rfl
        rw [htrim, List.getLast?_concat] at hlast
        exact hlast rfl
      refine ⟨⟨before ++ ['/'], slashes, ?_, hslashes, .inr ⟨hne, List.getLast?_concat⟩⟩, hslash⟩
      rw [List.append_assoc before, List.singleton_append, ← htrim]
      exact hurl

/-- A URL ends with one text only. -/
theorem EndsWith.eq_lastSegment {last : Text} (h : EndsWith url last) :
    last = lastSegment (trimSlashes url) := by
  obtain ⟨front, slashes, rfl, hslashes, hfront⟩ := h.cut
  rw [trimSlashes_append hslashes]
  rcases hfront with rfl | ⟨hne, hfront⟩
  · cases last with
    | nil => rfl
    | cons a last =>
        rw [trimSlashes_append_of_not_mem (List.cons_ne_nil a last) h.slash_not_mem, lastSegment,
          List.nil_append, Text.splitAtLast_eq_none_iff.mpr h.slash_not_mem]
  · obtain ⟨before, rfl⟩ := List.getLast?_eq_some_iff.mp hfront
    rw [trimSlashes_append_of_not_mem hne h.slash_not_mem, List.append_assoc,
      List.singleton_append, lastSegment, Text.splitAtLast_append before h.slash_not_mem]

/-- The end of a URL goes into the name with its first characters, each of them as it is or
replaced. -/
theorem EndsWith.basename {last : Text} (h : EndsWith url last) :
    List.Forall₂ Stands (last.take 64) (basename url) := by
  rw [ListCache.basename, ← h.eq_lastSegment, maxBasename, List.forall₂_map_right_iff]
  refine List.forall₂_same.mpr fun a _ => ?_
  cases ha : isNameChar a with
  | true => exact .kept ha
  | false => exact .replaced ha

/-! ## Names -/

/-- The digits that a digest is written with. -/
def hexAlphabet : Text := "0123456789abcdef".toList

theorem mem_hexAlphabet_of_mem_toHex {d : Digest} {a : Char} (h : a ∈ d.toHex) :
    a ∈ hexAlphabet := by
  rcases Digest.mem_hexDigits h with hnil | ⟨k, hk, rfl⟩
  · cases hnil
  · have hall : ∀ k < 16, Nat.digitChar k ∈ hexAlphabet := by decide
    exact hall k hk

/-- Two lists have the same name only if the ends of the URLs and the digests are the same. -/
theorem fileName_eq_iff :
    fileName url = fileName url' ↔
      basename url = basename url' ∧ Digest.ofText url = Digest.ofText url' := by
  constructor
  · intro h
    have hlength : (Digest.ofText url).toHex.length = (Digest.ofText url').toHex.length := by
      rw [Digest.length_toHex, Digest.length_toHex]
    obtain ⟨hbase, hdigits⟩ := List.append_inj' h hlength
    exact ⟨hbase, Digest.toHex_inj hdigits⟩
  · rintro ⟨hbase, hdigest⟩
    rw [fileName, fileName, hbase, hdigest]

theorem child_eq_iff {p : Path} {name name' : Text} :
    p.child name = p.child name' ↔ name = name' := by
  rw [Path.child, Path.child, List.append_cancel_left_eq]
  exact ⟨fun h => (List.cons.inj h).1, fun h => by rw [h]⟩

theorem path_eq_iff :
    c.path url = c.path url' ↔
      basename url = basename url' ∧ Digest.ofText url = Digest.ofText url' := by
  rw [path, path, child_eq_iff, fileName_eq_iff]

/-- The path of the file that is written first says which list it is for. -/
theorem temporaryPath_eq_iff :
    c.temporaryPath url = c.temporaryPath url' ↔ c.path url = c.path url' := by
  rw [temporaryPath, temporaryPath, path, path, child_eq_iff, child_eq_iff]
  constructor
  · exact List.append_cancel_right
  · intro h
    rw [temporaryName, temporaryName, h]

theorem temporaryPath_ne_path : c.temporaryPath url ≠ c.path url' := by
  rw [temporaryPath, path, Ne, child_eq_iff]
  exact temporaryName_ne_fileName url url'

/-- A load changes no file outside the folder of the lists. -/
theorem fileAt?_load_of_outside (c : ListCache) (w : World) (url : Text) {here : Location}
    (h : here.dropLast ≠ w.files.place c.folder) :
    (c.load w url).2.fileAt? here = w.files.fileAt? here := by
  obtain ⟨htouches, -⟩ := load_effect c w url
  refine htouches.fileAt?_eq here ?_ ?_
  · rintro rfl
    rw [place_eq, List.dropLast_concat] at h
    exact h rfl
  · rintro rfl
    rw [temporaryPlace_eq, List.dropLast_concat] at h
    exact h rfl

/-- A list lies in the folder of the lists, under a short name that begins with the end of the URL,
ends with the digits of the digest, and leads nowhere else.  Two URLs have the same path only if
their ends, as they go into names, and the digests are the same.  The file that is written first
lies in the folder too, under a name that says which list it is for and that is no list's.  So no
load changes another list, or a file outside the folder. -/
theorem path_contained (c : ListCache) (url : Text) :
    (c.path url = c.folder.child (fileName url) ∧
        c.temporaryPath url = c.folder.child (fileName url ++ ".tmp".toList) ∧
        ∀ fs : Files, fs.place (c.path url) = fs.place c.folder ++ [fileName url] ∧
          fs.place (c.temporaryPath url) = fs.place c.folder ++ [fileName url ++ ".tmp".toList]) ∧
      ((∀ a ∈ fileName url, isNameChar a = true) ∧
        (∃ last, EndsWith url last ∧ (∀ last', EndsWith url last' → last' = last) ∧
          List.Forall₂ Stands (last.take 64) (basename url)) ∧
        (∃ digits, fileName url = basename url ++ digits ∧ digits.length = 16 ∧
          ∀ a ∈ digits, a ∈ hexAlphabet) ∧
        (fileName url).length ≤ 80 ∧ fileName url ≠ ".".toList ∧ fileName url ≠ "..".toList) ∧
      (∀ url', (c.path url = c.path url' ↔
            basename url = basename url' ∧ Digest.ofText url = Digest.ofText url') ∧
          (c.temporaryPath url = c.temporaryPath url' ↔ c.path url = c.path url') ∧
          c.temporaryPath url ≠ c.path url') ∧
      ∀ w : World,
        (∀ url' bytes modified, c.path url' ≠ c.path url →
          w.files.stat (c.path url') = .ok (.file bytes modified) →
            (c.load w url).2.stat (c.path url') = .ok (.file bytes modified)) ∧
        ∀ here, here.dropLast ≠ w.files.place c.folder →
          (c.load w url).2.fileAt? here = w.files.fileAt? here := by
  refine ⟨⟨rfl, rfl, fun fs => ⟨place_eq c fs url, temporaryPlace_eq c fs url⟩⟩,
    ⟨fun a => isNameChar_of_mem_fileName, ?_, ?_, length_fileName_le url, ?_, ?_⟩,
    fun url' => ⟨path_eq_iff, temporaryPath_eq_iff, temporaryPath_ne_path⟩,
    fun w => ⟨fun url' bytes modified hne hdated => ?_,
      fun here => fileAt?_load_of_outside c w url⟩⟩
  · exact ⟨_, endsWith_lastSegment url, fun last' h => h.eq_lastSegment,
      (endsWith_lastSegment url).basename⟩
  · exact ⟨_, rfl, Digest.length_toHex _, fun a => mem_hexAlphabet_of_mem_toHex⟩
  · intro hdot
    have hlength := length_fileName url
    rw [hdot] at hlength
    revert hlength
    decide
  · intro hdots
    have hlength := length_fileName url
    rw [hdots] at hlength
    revert hlength
    decide
  · exact Dated.of_touches hdated (load_effect c w url).1 hne

/-- The URL of a list that ends like `Loader.daily`. -/
def neighbour : Text := "http://b.net/l".toList

/-- A world in which this list is kept already. -/
def shared : World :=
  Loader.tidy.withFiles
    (Loader.tidy.files.put (Loader.lists.place Loader.tidy.files neighbour) (.file [98] 0))

/-- A list with the same end stays as it is when the other one is downloaded. -/
theorem path_contained_neighbour :
    basename neighbour = basename Loader.daily ∧
      (Loader.lists.load shared Loader.daily).1 = .ok ["a".toList] ∧
        (Loader.lists.load shared Loader.daily).2.stat (Loader.lists.path neighbour) =
          .ok (.file [98] 0) := by
  have hkept : shared.files.stat (Loader.lists.path neighbour) = .ok (.file [98] 0) := by
    decide +kernel
  obtain ⟨-, -, -, hframe⟩ := path_contained Loader.lists Loader.daily
  exact ⟨by decide +kernel, by decide +kernel,
    (hframe shared).1 neighbour [98] 0 (by decide +kernel) hkept⟩

end UrlFilter.ListCache
