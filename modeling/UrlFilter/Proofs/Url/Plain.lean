import Mathlib.Data.List.Basic
import UrlFilter.Proofs.Url.Host

/-!
# URLs that are written plainly

Most URLs of the web are written plainly: a scheme, two slashes, the host in letters that need no
decoding, maybe a port, and the rest.  The parser finds such a host where it is written, and changes
nothing but the case of its letters (`PlainUrl.host_of_parse`).

Each step of the parser leaves the scheme and the host alone.  Cutting off the ends and disregarding
tabs and line breaks reach the rest of the URL only (`PlainUrl.significant_cutEnds`), the part with
the host ends where the rest starts, and a name in ASCII without Punycode is in its ASCII form
already (`Domain.toAscii_eq`).
-/

namespace UrlFilter.Url

/-- The signs that end the part of a URL of the web with host and port. -/
def restSigns : Text := ['/', '\\', '?', '#']

/-- A URL of the web that is written plainly. -/
structure PlainUrl where
  /-- The scheme, in any case. -/
  scheme : Text
  /-- The host, in any case. -/
  host : Text
  /-- Nothing, or the digits of a port with the colon in front of them. -/
  port : Text
  /-- Path, query and fragment. -/
  rest : Text
  /-- The scheme is one of the web. -/
  scheme_mem : scheme.map Text.asciiLower ∈ webSchemes
  /-- There is a host. -/
  host_ne_nil : host ≠ []
  /-- The host holds name characters, of which none has to be decoded. -/
  isNameChar_of_mem : ∀ c ∈ host, Host.isNameChar c = true ∧ c ≠ '%'
  /-- No label is in Punycode. -/
  not_punycode : ∀ label ∈ (host.map Text.asciiLower).splitOn '.', ¬ Domain.punycodeMark <+: label
  /-- A port is a number. -/
  port_eq : port = [] ∨ ∃ digits, port = ':' :: digits ∧ ∀ c ∈ digits, c.isDigit = true
  /-- What follows starts with one of the signs that end the part with the host. -/
  mem_of_rest_head : ∀ c, rest.head? = some c → c ∈ restSigns

/-- A URL as it is written. -/
def PlainUrl.text (a : PlainUrl) : Text :=
  a.scheme ++ ("://".toList ++ (a.host ++ (a.port ++ a.rest)))

/-! ## Names in ASCII -/

namespace Domain

theorem joinWith_eq_intercalate (c : Char) (ts : List Text) :
    joinWith c ts = [c].intercalate ts := by
  fun_induction joinWith c ts with
  | case1 => rfl
  | case2 t => simp
  | case3 t ts hne ih => simp [ih, List.intercalate_cons_of_ne_nil hne]

theorem joinWith_splitOn (c : Char) (t : Text) : joinWith c (t.splitOn c) = t := by
  rw [joinWith_eq_intercalate, List.intercalate_splitOn]

theorem mem_of_mem_splitOn {c sep : Char} {t label : Text} (h : label ∈ t.splitOn sep)
    (hc : c ∈ label) : c ∈ t := by
  rw [← joinWith_splitOn sep t]
  generalize t.splitOn sep = ts at h
  fun_induction joinWith sep ts with
  | case1 => cases h
  | case2 t => rwa [← List.mem_singleton.mp h]
  | case3 t ts hne ih =>
      rcases List.mem_cons.mp h with rfl | h
      · exact List.mem_append_left _ hc
      · exact List.mem_append_right _ (List.mem_cons_of_mem _ (ih h))

theorem mapText_of_ascii {t : Text} (h : ∀ c ∈ t, c.toNat < 128) :
    mapText t = some (t.map Text.asciiLower) := by
  induction t with
  | nil => rfl
  | cons c t ih =>
      have hc : mapChar c = some [Text.asciiLower c] := if_pos (h c List.mem_cons_self)
      rw [mapText, hc, ih fun d hd => h d (List.mem_cons_of_mem c hd)]
      rfl

theorem mapM_eq_self {f : Text → Option Text} {ts : List Text} (h : ∀ t ∈ ts, f t = some t) :
    ts.mapM f = some ts := by
  induction ts with
  | nil => rfl
  | cons t ts ih =>
      have hrest := ih fun t' ht' => h t' (List.mem_cons_of_mem t ht')
      rw [List.mapM_cons, h t List.mem_cons_self, hrest]
      rfl

theorem readLabel_eq_self {label : Text} (hascii : isAscii label = true)
    (hmark : ¬ punycodeMark <+: label) : readLabel label = some label := by
  have hnone : punycodeMark.isPrefixOf? label = none := by
    cases hprefix : punycodeMark.isPrefixOf? label with
    | none => rfl
    | some code =>
        rw [List.isPrefixOf?_eq_some_iff_append_eq] at hprefix
        exact absurd ⟨code, hprefix⟩ hmark
  rw [readLabel, hnone]
  simp only [hascii, Bool.true_or, if_true]

theorem writeLabel_eq_self {label : Text} (hascii : isAscii label = true) :
    writeLabel label = some label := if_pos hascii

/-- A name in ASCII of which no label is in Punycode is changed in case only. -/
theorem toAscii_eq {t name : Text} (hascii : ∀ c ∈ t, c.toNat < 128)
    (hlabels : ∀ label ∈ (t.map Text.asciiLower).splitOn '.', ¬ punycodeMark <+: label)
    (h : toAscii t = some name) : name = t.map Text.asciiLower := by
  have hlower : ∀ c ∈ t.map Text.asciiLower, c.toNat < 128 := by
    intro c hc
    obtain ⟨d, hd, rfl⟩ := List.mem_map.mp hc
    exact Text.asciiLower_lt_iff.mpr (hascii d hd)
  have hlabel : ∀ label ∈ (t.map Text.asciiLower).splitOn '.', isAscii label = true := by
    intro label hmem
    exact List.all_eq_true.mpr fun c hc => decide_eq_true (hlower c (mem_of_mem_splitOn hmem hc))
  have hnormal : normalize t = some (t.map Text.asciiLower) := by
    have hall : isAscii (t.map Text.asciiLower) = true :=
      List.all_eq_true.mpr fun c hc => decide_eq_true (hlower c hc)
    rw [normalize, mapText_of_ascii hascii]
    exact congrArg some (if_pos hall)
  have hread : ((t.map Text.asciiLower).splitOn '.').mapM readLabel =
      some ((t.map Text.asciiLower).splitOn '.') :=
    mapM_eq_self fun label hmem => readLabel_eq_self (hlabel label hmem) (hlabels label hmem)
  have hwrite : ((t.map Text.asciiLower).splitOn '.').mapM writeLabel =
      some ((t.map Text.asciiLower).splitOn '.') :=
    mapM_eq_self fun label hmem => writeLabel_eq_self (hlabel label hmem)
  simp only [toAscii, hnormal, hread, hwrite] at h
  split at h
  · cases h
  split at h
  · cases h
  rw [Option.map_some, joinWith_splitOn] at h
  exact (Option.some.inj h).symm

end Domain

/-! ## Reading a plain URL -/

/-- Cutting off the ends of a text leaves a piece in front alone that neither starts nor ends with
what is cut off. -/
theorem cutEnds_append {x : Text} (hne : x ≠ [])
    (hhead : ∀ c, x.head? = some c → isOutside c = false)
    (hlast : ∀ c, x.getLast? = some c → isOutside c = false) (r : Text) :
    ∃ r', r' <+: r ∧ cutEnds (x ++ r) = x ++ r' := by
  have hstart : (x ++ r).dropWhile isOutside = x ++ r := by
    obtain ⟨c, x, rfl⟩ := List.exists_cons_of_ne_nil hne
    rw [List.cons_append, List.dropWhile_cons_of_neg (by simp [hhead c rfl])]
  have hend : x.reverse.dropWhile isOutside = x.reverse := by
    obtain ⟨c, y, hy⟩ := List.exists_cons_of_ne_nil (List.reverse_ne_nil_iff.mpr hne)
    have hc : isOutside c = false := hlast c (by rw [← List.head?_reverse, hy]; rfl)
    rw [hy, List.dropWhile_cons_of_neg (by simp [hc])]
  rw [cutEnds, hstart, List.reverse_append, List.dropWhile_append, hend]
  split
  · refine ⟨[], List.nil_prefix, ?_⟩
    rw [List.reverse_reverse, List.append_nil]
  · refine ⟨(r.reverse.dropWhile isOutside).reverse, ?_, ?_⟩
    · rw [← List.reverse_suffix, List.reverse_reverse]
      exact List.dropWhile_suffix isOutside
    · rw [List.reverse_append, List.reverse_reverse]

/-- What is left of the rest of a URL starts as the rest does, if anything is left. -/
theorem head?_of_head?_significant {r r' : Text} (h : r' <+: r)
    (hr : ∀ c, r.head? = some c → isIgnored c = false) {c : Char}
    (hc : (significant r').head? = some c) : r.head? = some c := by
  obtain ⟨q, rfl⟩ := h
  cases r' with
  | nil => cases hc
  | cons d r' =>
      have hd : isIgnored d = false := hr d rfl
      rw [significant, List.filter_cons_of_pos (by simp [hd])] at hc
      exact hc

theorem endsAuthority_web_iff {c : Char} : endsAuthority .web c = true ↔ c ∈ restSigns := by
  simp [endsAuthority, isSlash, SchemeKind.hasBackslash, or_assoc, restSigns]

/-- A text without colons and brackets is cut off at the colon behind it. -/
theorem cutPort_append {host port : Text} (hhost : ∀ c ∈ host, c ≠ ':' ∧ c ≠ '[')
    (hport : ∀ c, port.head? = some c → c = ':') : cutPort false (host ++ port) = (host, port) := by
  induction host with
  | nil =>
      cases port with
      | nil => rfl
      | cons c port =>
          obtain rfl := hport c rfl
          rfl
  | cons c host ih =>
      obtain ⟨⟨hcolon, hbracket⟩, hhost⟩ := List.forall_mem_cons.mp hhost
      have hc : (c == '[' || (false && c != ']')) = false := by simp [hbracket]
      rw [List.cons_append, cutPort, if_neg (fun h => hcolon h.1), hc, ih hhost]

namespace PlainUrl

variable (a : PlainUrl)

theorem isAlpha_of_mem_scheme {c : Char} (h : c ∈ a.scheme) : c.isAlpha = true := by
  have hletters : (webSchemes.all fun scheme => scheme.all Char.isAlpha) = true := by decide
  have hscheme := List.all_eq_true.mp hletters _ a.scheme_mem
  rw [← Text.isAlpha_asciiLower]
  exact List.all_eq_true.mp hscheme _ (List.mem_map_of_mem h)

theorem scheme_ne_nil : a.scheme ≠ [] := by
  have hne : ∀ scheme ∈ webSchemes, scheme ≠ [] := by decide
  exact fun h => hne _ a.scheme_mem (by rw [h]; rfl)

theorem kind_scheme : SchemeKind.of (a.scheme.map Text.asciiLower) = .web :=
  if_pos (List.contains_iff_mem.mpr a.scheme_mem)

theorem cutScheme_eq (t : Text) :
    cutScheme (a.scheme ++ ':' :: t) = some (a.scheme.map Text.asciiLower, t) := by
  have hscheme : ∀ c ∈ a.scheme, isSchemeChar c = true := by
    intro c hc
    have halpha := a.isAlpha_of_mem_scheme hc
    simp [isSchemeChar, Char.isAlphanum, halpha]
  have htake : (a.scheme ++ ':' :: t).takeWhile isSchemeChar = a.scheme := by
    rw [List.takeWhile_append_of_pos hscheme, List.takeWhile_cons_of_neg (by decide),
      List.append_nil]
  have hdrop : (a.scheme ++ ':' :: t).dropWhile isSchemeChar = ':' :: t := by
    rw [List.dropWhile_append_of_pos hscheme, List.dropWhile_cons_of_neg (by decide)]
  have hhead : (a.scheme ++ ':' :: t).head?.any Char.isAlpha = true := by
    obtain ⟨c, s, hs⟩ := List.exists_cons_of_ne_nil a.scheme_ne_nil
    have hc := a.isAlpha_of_mem_scheme (c := c) (by rw [hs]; exact List.mem_cons_self)
    rw [hs]
    exact hc
  rw [cutScheme, hdrop, hhead, htake]
  rfl

theorem lt_of_mem_host {c : Char} (h : c ∈ a.host) : c.toNat < 128 :=
  Host.lt_of_isNameChar (a.isNameChar_of_mem c h).1

theorem not_mem_stops_of_mem_host {c : Char} (h : c ∈ a.host) : c ∉ ':' :: authorityStops :=
  Host.not_mem_stops (a.isNameChar_of_mem c h).1

/-- A port holds name characters behind its colon. -/
theorem isNameChar_of_mem_port {c : Char} (h : c ∈ a.port) :
    c = ':' ∨ Host.isNameChar c = true := by
  rcases a.port_eq with hport | ⟨digits, hport, hdigits⟩
  · rw [hport] at h
    cases h
  · rw [hport] at h
    exact (List.mem_cons.mp h).imp_right fun hc => Host.isNameChar_of_isDigit (hdigits c hc)

/-- The part of the URL with host and port. -/
def authority : Text := a.host ++ a.port

theorem not_mem_stops_of_mem_authority {c : Char} (h : c ∈ a.authority) : c ∉ authorityStops := by
  rcases List.mem_append.mp h with h | h
  · exact fun hc => a.not_mem_stops_of_mem_host h (List.mem_cons_of_mem ':' hc)
  · rcases a.isNameChar_of_mem_port h with rfl | h
    · decide
    · exact fun hc => Host.not_mem_stops h (List.mem_cons_of_mem ':' hc)

theorem not_endsAuthority_of_mem_authority {c : Char} (h : c ∈ a.authority) :
    endsAuthority .web c = false := by
  have hstops : restSigns ⊆ authorityStops := by decide
  rw [← Bool.not_eq_true, endsAuthority_web_iff]
  exact fun hc => a.not_mem_stops_of_mem_authority h (hstops hc)

/-- What stands in front of the rest of the URL. -/
def front : Text := a.scheme ++ ("://".toList ++ a.authority)

theorem text_eq : a.text = a.front ++ a.rest := by
  simp [text, front, authority]

/-- What is in print is neither cut off nor disregarded. -/
theorem isIgnored_of_mem_front {c : Char} (h : c ∈ a.front) :
    isOutside c = false ∧ isIgnored c = false := by
  have hsigns : ∀ c ∈ "://".toList, isOutside c = false ∧ isIgnored c = false := by
    have hall : ("://".toList.all fun c => !isOutside c && !isIgnored c) = true := by decide
    exact fun c hc => by simpa using List.all_eq_true.mp hall c hc
  rcases List.mem_append.mp h with h | h
  · exact Host.isIgnored_of_isNameChar (Host.isNameChar_of_isAlpha (a.isAlpha_of_mem_scheme h))
  rcases List.mem_append.mp h with h | h
  · exact hsigns c h
  rcases List.mem_append.mp h with h | h
  · exact Host.isIgnored_of_isNameChar (a.isNameChar_of_mem c h).1
  · rcases a.isNameChar_of_mem_port h with rfl | h
    · exact hsigns ':' (by decide)
    · exact Host.isIgnored_of_isNameChar h

/-- Before the scheme is read the rest of the URL may change, but not the sign it starts with. -/
theorem significant_cutEnds :
    ∃ rest, (∀ c, rest.head? = some c → c ∈ restSigns) ∧
      significant (cutEnds a.text) = a.front ++ rest := by
  have hne : a.front ≠ [] := List.append_ne_nil_of_left_ne_nil a.scheme_ne_nil _
  obtain ⟨r, hr, hcut⟩ := cutEnds_append hne
    (fun c hc => (a.isIgnored_of_mem_front (List.mem_of_head? hc)).1)
    (fun c hc => (a.isIgnored_of_mem_front (List.mem_of_getLast? hc)).1) a.rest
  refine ⟨significant r, fun c hc => ?_, ?_⟩
  · have hrest : ∀ c, a.rest.head? = some c → isIgnored c = false := by
      have hsigns : (restSigns.all fun c => !isIgnored c) = true := by decide
      exact fun c hc => by simpa using List.all_eq_true.mp hsigns c (a.mem_of_rest_head c hc)
    exact a.mem_of_rest_head c (head?_of_head?_significant hr hrest hc)
  · have hfront : significant a.front = a.front :=
      List.filter_eq_self.mpr fun c hc => by simp [(a.isIgnored_of_mem_front hc).2]
    rw [a.text_eq, hcut, significant, List.filter_append]
    exact congrArg (· ++ significant r) hfront

/-- The part with host and port is found where it is written. -/
theorem takeWhile_authority {rest : Text}
    (hrest : ∀ c, rest.head? = some c → c ∈ restSigns) :
    (a.authority ++ rest).takeWhile (fun c => !endsAuthority .web c) = a.authority := by
  have hauthority : ∀ c ∈ a.authority, (!endsAuthority .web c) = true := by
    intro c hc
    rw [Bool.not_eq_true', a.not_endsAuthority_of_mem_authority hc]
  rw [List.takeWhile_append_of_pos hauthority]
  cases rest with
  | nil => simp
  | cons c rest =>
      have hc := endsAuthority_web_iff.mpr (hrest c rfl)
      rw [List.takeWhile_cons_of_neg (by simp [hc]), List.append_nil]

/-- Host and port are cut at the colon. -/
theorem cutPort_authority : cutPort false a.authority = (a.host, a.port) := by
  refine cutPort_append (fun c hc => ?_) (fun c hc => ?_)
  · have hstop := a.not_mem_stops_of_mem_host hc
    constructor
    · rintro rfl
      exact hstop (by decide)
    · rintro rfl
      exact hstop (by decide)
  · rcases a.port_eq with hport | ⟨digits, hport, -⟩
    · rw [hport] at hc
      cases hc
    · rw [hport] at hc
      exact (Option.some.inj hc).symm

/-- The parser finds the host of a plain URL where it is written. -/
theorem parseDomain_of_parse {scheme : Text} {host : Host}
    (h : parse a.text = .ok ⟨scheme, some host⟩) : Host.parseDomain a.host = .ok host := by
  obtain ⟨rest, hrest, hsignificant⟩ := a.significant_cutEnds
  have hfront : a.front ++ rest = a.scheme ++ ':' :: '/' :: '/' :: (a.authority ++ rest) := by
    simp [front]
  have hslashes : ('/' :: '/' :: (a.authority ++ rest)).dropWhile (isSlash .web) =
      a.authority ++ rest := by
    obtain ⟨c, t, ht⟩ :=
      List.exists_cons_of_ne_nil (List.append_ne_nil_of_left_ne_nil a.host_ne_nil a.port)
    have hmem : c ∈ a.authority := by
      rw [authority, ht]
      exact List.mem_cons_self
    have hends := a.not_endsAuthority_of_mem_authority hmem
    have hc : isSlash .web c = false := by
      rw [endsAuthority, Bool.or_eq_false_iff, Bool.or_eq_false_iff] at hends
      exact hends.1.1
    rw [List.dropWhile_cons_of_pos (by decide), List.dropWhile_cons_of_pos (by decide), authority,
      ht, List.cons_append, List.dropWhile_cons_of_neg (by simp [hc])]
  have huser : Text.splitAtLast '@' a.authority = none :=
    Text.splitAtLast_eq_none_iff.mpr fun hat =>
      a.not_mem_stops_of_mem_authority hat (by decide)
  rw [parse, hsignificant, hfront, a.cutScheme_eq] at h
  simp only [a.kind_scheme, parseRest, hslashes, parseAuthority, a.takeWhile_authority hrest,
    huser] at h
  split at h
  · cases h
  · next hparse =>
      obtain ⟨-, rfl⟩ := Url.mk.inj (Except.ok.inj h)
      have hhost := parseHost_of_parseHostAndPort hparse
      rw [a.cutPort_authority] at hhost
      have hweb : parseHost .web a.host = (Host.parseDomain a.host).map some :=
        if_neg (by simp [a.host_ne_nil])
      rw [hweb] at hhost
      exact parseDomain_of_map hhost

/-- The host of a plain URL is the one that is written, in lower case. -/
theorem host_of_parse {scheme name : Text}
    (h : parse a.text = .ok ⟨scheme, some (.domain name)⟩) :
    name = a.host.map Text.asciiLower := by
  have hdomain := a.parseDomain_of_parse h
  have hpercent : Host.percentDecode a.host = some a.host := by
    refine if_neg fun hmem => ?_
    exact (a.isNameChar_of_mem '%' (List.contains_iff_mem.mp hmem)).2 rfl
  unfold Host.parseDomain at hdomain
  split at hdomain
  · next r hbracket =>
      exact absurd (List.mem_cons_of_mem ':' (by decide))
        (a.not_mem_stops_of_mem_host (c := '[') (by rw [hbracket]; exact List.mem_cons_self))
  · rw [hpercent, Option.bind_some] at hdomain
    split at hdomain
    · next ascii hascii =>
        have hname : ascii = name := by
          unfold Host.ofDomain at hdomain
          split at hdomain
          · cases hdomain
          split at hdomain
          · split at hdomain
            · cases hdomain
            · cases hdomain
          · exact Host.domain.inj (Except.ok.inj hdomain)
        rw [← hname]
        exact Domain.toAscii_eq (fun c hc => a.lt_of_mem_host hc) a.not_punycode hascii
    · cases hdomain

end PlainUrl

end UrlFilter.Url
