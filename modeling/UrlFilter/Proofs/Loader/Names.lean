import UrlFilter.Loader.Download
import UrlFilter.Proofs.Files
import UrlFilter.Proofs.Text

/-!
# Names of kept lists

The file that is written first has the name of the list with an ending behind it.  That ending is
not the end of any list, since a list ends with a hexadecimal digit (`temporaryName_ne_fileName`).
Where there is room for the longer name there is room for the shorter one
(`locateChild_fileName`), so a list that could be written can also take its place.  Neither name is
ever too long by itself (`isLongPart_temporaryName`).

The digits of a digest are sixteen, and the digest can be read off them (`Digest.toHex_inj`).
-/

namespace UrlFilter

/-! ## Digits -/

theorem Digest.exists_hexDigits_eq_append (count n : Nat) (digits : Text) :
    ∃ front, Digest.hexDigits count n digits = front ++ digits ∧ front.length = count := by
  induction count generalizing n digits with
  | zero => exact ⟨[], rfl, rfl⟩
  | succ count ih =>
      obtain ⟨front, heq, hlen⟩ := ih (n / 16) (Nat.digitChar (n % 16) :: digits)
      refine ⟨front ++ [Nat.digitChar (n % 16)], ?_, ?_⟩
      · rw [Digest.hexDigits, heq, List.append_assoc]
        rfl
      · rw [List.length_append, hlen]
        rfl

theorem Digest.length_toHex (d : Digest) : d.toHex.length = 16 := by
  obtain ⟨front, heq, hlen⟩ := Digest.exists_hexDigits_eq_append 16 d.toNat []
  rw [Digest.toHex, heq, List.append_nil, hlen]

theorem Digest.getLast?_toHex (d : Digest) :
    d.toHex.getLast? = some (Nat.digitChar (d.toNat % 16)) := by
  obtain ⟨front, heq, -⟩ := Digest.exists_hexDigits_eq_append 15 (d.toNat / 16)
    [Nat.digitChar (d.toNat % 16)]
  rw [Digest.toHex, Digest.hexDigits, heq, List.getLast?_concat]

/-- What stands in front of the digits is hexadecimal. -/
theorem Digest.mem_hexDigits {count n : Nat} {digits : Text} {c : Char}
    (h : c ∈ Digest.hexDigits count n digits) : c ∈ digits ∨ ∃ k < 16, c = Nat.digitChar k := by
  induction count generalizing n digits with
  | zero => exact .inl h
  | succ count ih =>
      rcases ih h with hmem | hdigit
      · rcases List.mem_cons.mp hmem with rfl | hmem
        · exact .inr ⟨n % 16, Nat.mod_lt n (by decide), rfl⟩
        · exact .inl hmem
      · exact .inr hdigit

theorem digitChar_inj {m n : Nat} (hm : m < 16) (hn : n < 16)
    (h : Nat.digitChar m = Nat.digitChar n) : m = n := by
  have hall : ∀ m < 16, ∀ n < 16, Nat.digitChar m = Nat.digitChar n → m = n := by decide
  exact hall m hm n hn h

/-- So many hexadecimal digits tell numbers apart up to multiples of a power of sixteen. -/
theorem Digest.hexDigits_inj {count m n : Nat} {digits digits' : Text}
    (hlength : digits.length = digits'.length)
    (h : Digest.hexDigits count m digits = Digest.hexDigits count n digits') :
    digits = digits' ∧ m % Nat.pow 16 count = n % Nat.pow 16 count := by
  induction count generalizing m n digits digits' with
  | zero => exact ⟨h, (Nat.mod_one m).trans (Nat.mod_one n).symm⟩
  | succ count ih =>
      obtain ⟨hdigits, hrest⟩ := ih (by simp [hlength]) h
      obtain ⟨hdigit, htail⟩ := List.cons.inj hdigits
      have hlast : m % 16 = n % 16 :=
        digitChar_inj (Nat.mod_lt _ (by decide)) (Nat.mod_lt _ (by decide)) hdigit
      have hpow : Nat.pow 16 (count + 1) = 16 * Nat.pow 16 count := Nat.pow_succ'
      refine ⟨htail, ?_⟩
      rw [hpow, Nat.mod_mul, Nat.mod_mul, hlast, hrest]

/-- A digest can be read off its digits. -/
theorem Digest.toHex_inj {d d' : Digest} (h : d.toHex = d'.toHex) : d = d' := by
  obtain ⟨-, hmod⟩ := Digest.hexDigits_inj rfl h
  have hbound : ∀ d : Digest, d.toNat < Nat.pow 16 16 := fun d => d.toNat_lt
  rw [Nat.mod_eq_of_lt (hbound d), Nat.mod_eq_of_lt (hbound d')] at hmod
  exact UInt64.toNat_inj.mp hmod

theorem digitChar_ne_p {n : Nat} (h : n < 16) : Nat.digitChar n ≠ 'p' := by
  revert n
  decide

namespace ListCache

/-- The path of the file that is written first. -/
def temporaryPath (c : ListCache) (url : Text) : Path := c.folder.child (temporaryName url)

/-! ## Names -/

theorem isName_of_two_lt {name : Text} (h : 2 < name.length) : Path.IsName name := by
  constructor
  · rw [Path.isStay, Bool.or_eq_false_iff, beq_eq_false_iff_ne, beq_eq_false_iff_ne]
    constructor
    · rintro rfl
      cases h
    · rintro rfl
      simp at h
  · rw [Path.isUp, beq_eq_false_iff_ne]
    rintro rfl
    simp at h

theorem length_fileName (url : Text) : 16 ≤ (fileName url).length := by
  rw [fileName, List.length_append, Digest.length_toHex]
  exact Nat.le_add_left _ _

theorem isName_fileName (url : Text) : Path.IsName (fileName url) :=
  isName_of_two_lt (Nat.lt_of_lt_of_le (by decide) (length_fileName url))

theorem isName_temporaryName (url : Text) : Path.IsName (temporaryName url) := by
  refine isName_of_two_lt ?_
  have := length_fileName url
  rw [temporaryName, List.length_append]
  omega

/-- No list has the name of a file that is being written. -/
theorem temporaryName_ne_fileName (url url' : Text) : temporaryName url ≠ fileName url' := by
  intro h
  have hlast := congrArg List.getLast? h
  have htmp : (temporaryName url).getLast? = some 'p' := by
    rw [temporaryName, List.getLast?_append]
    rfl
  rw [htmp, fileName, List.getLast?_append, Digest.getLast?_toHex, Option.some_or,
    Option.some.injEq] at hlast
  exact digitChar_ne_p (Nat.mod_lt _ (by decide)) hlast.symm

theorem isNameChar_of_mem_basename {url : Text} {c : Char} (h : c ∈ basename url) :
    isNameChar c = true := by
  obtain ⟨d, -, rfl⟩ := List.mem_map.mp h
  split
  · next hd => exact hd
  · decide

/-- The name of a list holds nothing but letters, digits and three signs. -/
theorem isNameChar_of_mem_fileName {url : Text} {c : Char} (h : c ∈ fileName url) :
    isNameChar c = true := by
  rw [fileName, List.mem_append] at h
  rcases h with hbase | hdigit
  · exact isNameChar_of_mem_basename hbase
  · rcases Digest.mem_hexDigits hdigit with hnil | ⟨k, hk, rfl⟩
    · cases hnil
    · have hall : ∀ k < 16, isNameChar (Nat.digitChar k) = true := by decide
      exact hall k hk

/-- So does the name of the file that is written first. -/
theorem isNameChar_of_mem_temporaryName {url : Text} {c : Char} (h : c ∈ temporaryName url) :
    isNameChar c = true := by
  rw [temporaryName, List.mem_append] at h
  rcases h with hname | hsuffix
  · exact isNameChar_of_mem_fileName hname
  · have hall : temporarySuffix.all isNameChar = true := by decide
    exact List.all_eq_true.mp hall c hsuffix

theorem length_fileName_le (url : Text) : (fileName url).length ≤ 80 := by
  have hbase : (basename url).length ≤ maxBasename := by
    rw [basename, List.length_map]
    exact List.length_take_le _ _
  rw [fileName, List.length_append, Digest.length_toHex]
  rw [maxBasename] at hbase
  omega

theorem length_temporaryName (url : Text) : (temporaryName url).length ≤ 84 := by
  have hname := length_fileName_le url
  have hsuffix : temporarySuffix.length = 4 := rfl
  rw [temporaryName, List.length_append, hsuffix]
  omega

theorem val_le_of_isNameChar {c : Char} (h : isNameChar c = true) : c.val ≤ 127 := by
  simp only [isNameChar, Bool.or_eq_true, beq_iff_eq] at h
  rcases h with ((h | rfl) | rfl) | rfl
  · exact Nat.le_of_lt_succ (Text.lt_of_isAlphanum h)
  · decide
  · decide
  · decide

/-- In ASCII every character is one byte. -/
theorem length_encode_of_ascii {t : Text} (h : ∀ c ∈ t, c.val ≤ 127) :
    (Utf8.encode t).length = t.length := by
  induction t with
  | nil => rfl
  | cons c t ih =>
      obtain ⟨hc, ht⟩ := List.forall_mem_cons.mp h
      have htail : (t.flatMap String.utf8EncodeChar).length = t.length := ih ht
      rw [Utf8.encode, List.flatMap_cons, List.length_append, String.length_utf8EncodeChar,
        Char.utf8Size_eq_one_iff.mpr hc, htail, List.length_cons, Nat.add_comm]

theorem isLongPart_temporaryName (url : Text) : Path.isLongPart (temporaryName url) = false := by
  have hascii : ∀ c ∈ temporaryName url, c.val ≤ 127 := fun c hc =>
    val_le_of_isNameChar (isNameChar_of_mem_temporaryName hc)
  have hlength := length_temporaryName url
  rw [Path.isLongPart, decide_eq_false_iff_not, length_encode_of_ascii hascii, Path.maxPart]
  omega

/-! ## Room -/

theorem toText_append_singleton (q : Path) (name ending : Text) :
    Path.toText (q ++ [name ++ ending]) = Path.toText (q ++ [name]) ++ ending :=
  Text.intercalate_append_last ['/'] q name ending

theorem length_encode_le (s t : Text) : (Utf8.encode s).length ≤ (Utf8.encode (s ++ t)).length := by
  rw [Utf8.encode, Utf8.encode, List.flatMap_append, List.length_append]
  exact Nat.le_add_right _ _

theorem isBlank_append_singleton {q : Path} {name : Text} (h : Path.IsName name) :
    Path.isBlank (q ++ [name]) = false := by
  unfold Path.isBlank
  split
  · next heq => simp at heq
  · next heq =>
      cases q with
      | nil =>
          obtain rfl : name = [] := by simpa using heq
          cases h.1
      | cons part q => simp at heq
  · rfl

theorem pathFault?_eq_none_iff {p : Path} :
    Files.pathFault? p = none ↔
      p.holdsZero = false ∧ p.isBlank = false ∧ p.isLong = false := by
  rw [Files.pathFault?]
  cases p.holdsZero with
  | true => simp
  | false =>
      cases p.isBlank with
      | true => simp
      | false => cases p.isLong <;> simp

/-- A path that can be followed can be followed with a shorter name. -/
theorem pathFault?_of_append {p : Path} {name ending : Text} (hname : Path.IsName name)
    (h : Files.pathFault? (p.child (name ++ ending)) = none) :
    Files.pathFault? (p.child name) = none := by
  rw [Path.child, pathFault?_eq_none_iff] at *
  obtain ⟨hzero, -, hlong⟩ := h
  refine ⟨?_, isBlank_append_singleton hname, ?_⟩
  · rw [Path.holdsZero, List.any_append, Bool.or_eq_false_iff, List.any_cons, List.any_nil,
      Bool.or_false] at *
    obtain ⟨hfolder, hfile⟩ := hzero
    refine ⟨hfolder, ?_⟩
    rw [← Bool.not_eq_true, List.contains_iff_mem] at *
    exact fun hmem => hfile (List.mem_append_left _ hmem)
  · rw [Path.isLong, decide_eq_false_iff_not] at *
    rw [toText_append_singleton] at hlong
    exact fun hlt => hlong (Nat.lt_of_lt_of_le hlt (length_encode_le _ ending))

theorem toText_prefix_append (p : Path) (name : Text) :
    Path.toText p <+: Path.toText (p ++ [name]) := by
  induction p with
  | nil => exact List.nil_prefix
  | cons part p ih =>
      cases p with
      | nil =>
          rw [List.cons_append, List.nil_append, Path.toText, Path.toText,
            List.intercalate_singleton, List.intercalate_cons_cons, List.append_assoc]
          exact List.prefix_append _ _
      | cons next p =>
          rw [List.cons_append, List.cons_append, Path.toText, Path.toText,
            List.intercalate_cons_cons, List.intercalate_cons_cons]
          exact (List.prefix_append_right_inj _).mpr ih

/-- The text of a path goes on where a name is put behind it. -/
theorem toText_prefix_child (p : Path) (name : Text) :
    Path.toText p <+: Path.toText (p.child name) := by
  rw [Path.child]
  rcases Files.withoutEnd_cases p with ⟨hsame, -⟩ | hend
  · rw [hsame]
    exact toText_prefix_append p name
  · have hname := toText_append_singleton p.withoutEnd [] name
    rw [List.nil_append] at hname
    rw [hname, ← hend]
    exact List.prefix_append _ _

/-- What can be followed to a name can be followed to its folder. -/
theorem fits_of_child {p : Path} {name : Text} (h : Files.pathFault? (p.child name) = none) :
    p.holdsZero = false ∧ p.isLong = false := by
  obtain ⟨hzero, -, hlong⟩ := pathFault?_eq_none_iff.mp h
  constructor
  · rw [Path.holdsZero, Path.child, List.any_append, Bool.or_eq_false_iff] at hzero
    rcases Files.withoutEnd_cases p with ⟨hsame, -⟩ | hend
    · rw [hsame] at hzero
      exact hzero.1
    · rw [Path.holdsZero, hend, List.any_append, hzero.1]
      rfl
  · rw [Path.isLong, decide_eq_false_iff_not] at *
    obtain ⟨rest, hrest⟩ := toText_prefix_child p name
    rw [← hrest] at hlong
    exact fun hlt => hlong (Nat.lt_of_lt_of_le hlt (length_encode_le _ rest))

theorem isLongPart_of_append {name ending : Text} (h : Path.isLongPart (name ++ ending) = false) :
    Path.isLongPart name = false := by
  rw [Path.isLongPart, decide_eq_false_iff_not] at *
  exact fun hlt => h (Nat.lt_of_lt_of_le hlt (length_encode_le name ending))

/-- Where there is room for the file that is written first, there is room for the list. -/
theorem locateChild_fileName {fs : Files} {folder : Path} {url : Text} {here : Location}
    (h : fs.locateChild folder (temporaryName url) = .ok here) :
    fs.locateChild folder (fileName url) = .ok (fs.place (folder.child (fileName url))) := by
  obtain ⟨hfault, above, hwalk, hfolder, hlong, -⟩ := Files.locateChild_eq_ok_iff.mp h
  refine Files.locateChild_eq_ok_iff.mpr ⟨pathFault?_of_append (isName_fileName url) hfault, above,
    hwalk, hfolder, isLongPart_of_append hlong, ?_⟩
  rw [Files.place_child (isName_fileName url), Files.walk_eq_foldl hwalk, Files.place]

/-- The file that is written first has a path unless that is too long or leads through a name with
the number zero. -/
theorem pathFault?_temporaryName {folder : Path} {url : Text} (hzero : folder.holdsZero = false)
    (hlong : Path.isLong (folder.child (temporaryName url)) = false) :
    Files.pathFault? (folder.child (temporaryName url)) = none := by
  refine pathFault?_eq_none_iff.mpr
    ⟨?_, isBlank_append_singleton (isName_temporaryName url), hlong⟩
  have hname : (temporaryName url).contains '\x00' = false := by
    rw [← Bool.not_eq_true, List.contains_iff_mem]
    intro hmem
    have hchar := isNameChar_of_mem_temporaryName hmem
    revert hchar
    decide
  have hfront : folder.withoutEnd.any (fun part => part.contains '\x00') = false := by
    rw [List.any_eq_false]
    intro part hpart
    have hmem : part ∈ folder := by
      rw [Path.withoutEnd] at hpart
      split at hpart
      · exact List.dropLast_subset folder hpart
      · exact hpart
    exact List.any_eq_false.mp hzero part hmem
  rw [Path.holdsZero, Path.child, List.any_append, hfront, List.any_cons, hname]
  rfl

end ListCache

end UrlFilter
