import UrlFilter.Proofs.Text.Case
import UrlFilter.Url

/-!
# Hosts as they are printed

The parser prints a host as a text: a domain name in ASCII, an address with its numbers, or a plain
name in which percent signs stand for what is not in print.  Whatever the URL looked like, a name
that is printed holds no character that has a meaning of its own in a URL
(`isNameChar_of_parse`).

*Domain names.*  No label holds a forbidden character, neither as it is written nor decoded.  What
Punycode adds are letters, digits and hyphens (`Punycode.mem_encode`).

*Plain names.*  Reserved characters are refused, and percent signs take the place of all that is not
in print.
-/

namespace UrlFilter.Url

/-! ## Printing -/

namespace Host

/-- The characters in print that no name holds. -/
def notInNames : Text := ['#', '/', ':', '<', '>', '?', '@', '[', '\\', ']', '^', '|']

/-- Whether a character may stand in a name that is printed: it is in print, and has no meaning of
its own in a URL. -/
def isNameChar (c : Char) : Bool := '!' ≤ c && c ≤ '~' && !notInNames.contains c

/-- A byte as a percent sign with two hexadecimal digits. -/
def percentByte (b : UInt8) : Text :=
  ['%', (Nat.digitChar (b.toNat / 16)).toUpper, (Nat.digitChar (b.toNat % 16)).toUpper]

/-- A plain name with percent signs for what is not in print. -/
def printPlain (name : Text) : Text :=
  name.flatMap fun c =>
    if ' ' ≤ c && c ≤ '~' then [c] else (String.utf8EncodeChar c).flatMap percentByte

/-- An address of version 4: its four bytes in decimal. -/
def printIpv4 (address : Nat) : Text :=
  Nat.toDigits 10 (address / 16777216) ++ '.' :: Nat.toDigits 10 (address / 65536 % 256) ++
    '.' :: Nat.toDigits 10 (address / 256 % 256) ++ '.' :: Nat.toDigits 10 (address % 256)

/-- The name of a host, if it has one and is no address. -/
def registeredName? : Host → Option Text
  | domain name => some name
  | plain name => some (printPlain name)
  | ipv4 _ | ipv6 _ => none

/-- A host as it is printed, unless it is in brackets. -/
def printed? : Host → Option Text
  | domain name => some name
  | plain name => some (printPlain name)
  | ipv4 address => some (printIpv4 address)
  | ipv6 _ => none

theorem printed?_of_registeredName? {host : Host} {name : Text}
    (h : host.registeredName? = some name) : host.printed? = some name := by
  cases host with
  | domain name' => exact h
  | plain name' => exact h
  | ipv4 address => cases h
  | ipv6 pieces => cases h

/-- The host is printed as a name, or ends in the name behind a dot.  What is printed in brackets
ends in no name. -/
def EndsIn (host : Host) (d : Text) : Prop :=
  ∃ name, host.printed? = some name ∧ (name = d ∨ ∃ sub, name = sub ++ '.' :: d)

end Host

/-! ## Characters of names -/

/-- What holds of the characters of ASCII can be tested. -/
theorem forall_ascii {p : Char → Bool} (h : ((List.range 128).all fun n => p (Char.ofNat n)) = true)
    {c : Char} (hc : c.toNat < 128) : p c = true := by
  have hp := List.all_eq_true.mp h c.toNat (List.mem_range.mpr hc)
  rwa [Char.ofNat_toNat] at hp

theorem Domain.isNameChar_of_not_forbidden {c : Char} (hc : c.toNat < 128)
    (h : isForbidden c = false) : Host.isNameChar c = true := by
  have hall := forall_ascii (p := fun c => isForbidden c || Host.isNameChar c) (by decide) hc
  simpa [h] using hall

theorem Host.isNameChar_of_not_reserved {c : Char} (hc : ' ' ≤ c ∧ c ≤ '~')
    (h : isReserved c = false) : isNameChar c = true := by
  have hlt : c.toNat < 128 := Nat.lt_of_le_of_lt (m := '~'.toNat) hc.2 (by decide)
  have hall := forall_ascii
    (p := fun c => !(' ' ≤ c && c ≤ '~') || isReserved c || isNameChar c) (by decide) hlt
  simpa [h, hc] using hall

theorem Host.isNameChar_of_isDigit {c : Char} (h : c.isDigit = true) : isNameChar c = true := by
  have hle : c ≤ '9' := of_decide_eq_true (Bool.and_eq_true_iff.mp h).2
  have hlt : c.toNat < 128 := Nat.lt_of_le_of_lt (m := '9'.toNat) hle (by decide)
  have hall := forall_ascii (p := fun c => !c.isDigit || isNameChar c) (by decide) hlt
  simpa [h] using hall

theorem Host.isNameChar_of_isAlpha {c : Char} (h : c.isAlpha = true) : isNameChar c = true := by
  have hlt : c.toNat < 128 := by
    rcases (Bool.or_eq_true ..).mp h with hupper | hlower
    · exact Nat.lt_of_le_of_lt (m := 'Z'.toNat) (of_decide_eq_true hupper).2 (by decide)
    · have hle : c ≤ 'z' := of_decide_eq_true ((Bool.and_eq_true ..).mp hlower).2
      exact Nat.lt_of_le_of_lt (m := 'z'.toNat) hle (by decide)
  have hall := forall_ascii (p := fun c => !c.isAlpha || isNameChar c) (by decide) hlt
  simpa [h] using hall

/-- A name is in ASCII. -/
theorem Host.lt_of_isNameChar {c : Char} (h : isNameChar c = true) : c.toNat < 128 := by
  simp only [isNameChar, Bool.and_eq_true, decide_eq_true_eq] at h
  exact Nat.lt_of_le_of_lt (m := '~'.toNat) h.1.2 (by decide)

/-- The characters that end the part of a URL with host and port, or change how it is read. -/
def authorityStops : Text := [' ', '\t', '\n', '\r', '/', '\\', '?', '#', '@', '[']

/-- A name holds no character by which the parser would cut it. -/
theorem Host.not_mem_stops {c : Char} (h : isNameChar c = true) : c ∉ ':' :: authorityStops := by
  have hall := forall_ascii (p := fun c => !isNameChar c || !(':' :: authorityStops).contains c)
    (by decide) (lt_of_isNameChar h)
  simpa [h] using hall

/-- A name holds no blanks. -/
theorem Host.isBlank_of_isNameChar {c : Char} (h : isNameChar c = true) :
    Text.isBlank c = false := by
  have hall := forall_ascii (p := fun c => !isNameChar c || !Text.isBlank c) (by decide)
    (lt_of_isNameChar h)
  simpa [h] using hall

/-- A character is one of a name exactly if it is one in lower case. -/
theorem Host.isNameChar_asciiLower (c : Char) : isNameChar (Text.asciiLower c) = isNameChar c :=
  Text.apply_asciiLower (by decide) c

/-- A character of a name is neither cut off nor disregarded. -/
theorem Host.isIgnored_of_isNameChar {c : Char} (h : isNameChar c = true) :
    isOutside c = false ∧ isIgnored c = false := by
  have hall := forall_ascii (p := fun c => !isNameChar c || (!isOutside c && !isIgnored c))
    (by decide) (lt_of_isNameChar h)
  simpa [h] using hall

/-! ## Punycode -/

namespace Punycode

theorem threshold_le (place bias : Nat) : threshold place bias ≤ 26 := by
  unfold threshold
  split
  · omega
  · split <;> omega

/-- A text of digits. -/
def IsDigits (t : Text) : Prop := ∀ c ∈ t, ∃ d < 36, c = digitChar d

theorem isDigits_writeNumber (place bias n : Nat) : IsDigits (writeNumber place bias n) := by
  fun_induction writeNumber place bias n with
  | case1 place n t hn =>
      have ht : t ≤ 26 := threshold_le place bias
      intro c hc
      exact ⟨n, by omega, List.mem_singleton.mp hc⟩
  | case2 place n t hn ih =>
      have ht : t ≤ 26 := threshold_le place bias
      have hmod : (n - t) % (36 - t) < 36 - t := Nat.mod_lt _ (by omega)
      intro c hc
      rcases List.mem_cons.mp hc with rfl | hc
      · exact ⟨t + (n - t) % (36 - t), by omega, rfl⟩
      · exact ih c hc

theorem isDigits_writeChar {c basic : Nat} {st : WriteState} {t : Text} (h : IsDigits st.digits) :
    IsDigits (writeChar c basic st t).digits := by
  fun_induction writeChar c basic st t with
  | case1 st => exact h
  | case2 st d r hlt ih => exact ih h
  | case3 st d r hlt heq digits ih =>
      refine ih fun x hx => ?_
      rcases List.mem_append.mp hx with hx | hx
      · exact h x hx
      · exact isDigits_writeNumber _ _ _ x hx
  | case4 st d r hlt hne ih => exact ih h

theorem isDigits_writeFrom {rounds bound basic : Nat} {t : Text} {st : WriteState}
    (h : IsDigits st.digits) : IsDigits (writeFrom rounds bound basic t st) := by
  fun_induction writeFrom rounds bound basic t st with
  | case1 => exact h
  | case2 => exact h
  | case3 bound st rounds c hc st' ih => exact ih (isDigits_writeChar h)

/-- Punycode keeps the characters of ASCII and adds hyphens and digits. -/
theorem mem_encode {t : Text} {c : Char} (h : c ∈ encode t) :
    (c ∈ t ∧ c.toNat < 128) ∨ c = '-' ∨ ∃ d < 36, c = digitChar d := by
  have hdigits : IsDigits (writeFrom t.length 128 (t.filter fun c => c.toNat < 128).length t
      ⟨0, 72, (t.filter fun c => c.toNat < 128).length, []⟩) :=
    isDigits_writeFrom (List.forall_mem_nil _)
  rcases List.mem_append.mp h with h | h
  · rcases List.mem_append.mp h with h | h
    · obtain ⟨hmem, hlt⟩ := List.mem_filter.mp h
      exact .inl ⟨hmem, of_decide_eq_true hlt⟩
    · split at h
      · cases h
      · exact .inr (.inl (List.mem_singleton.mp h))
  · exact .inr (.inr (hdigits c h))

end Punycode

/-! ## Domain names -/

namespace Domain

theorem mem_joinWith {c sep : Char} {ts : List Text} (h : c ∈ joinWith sep ts) :
    c = sep ∨ ∃ t ∈ ts, c ∈ t := by
  fun_induction joinWith sep ts with
  | case1 => cases h
  | case2 t => exact .inr ⟨t, List.mem_singleton_self t, h⟩
  | case3 t ts hne ih =>
      rcases List.mem_append.mp h with h | h
      · exact .inr ⟨t, List.mem_cons_self, h⟩
      · rcases List.mem_cons.mp h with h | h
        · exact .inl h
        · exact (ih h).imp_right fun ⟨t', ht', hc⟩ => ⟨t', List.mem_cons_of_mem t ht', hc⟩

/-- What a function that may fail gives for a list comes of the members of the list. -/
theorem exists_of_mem_mapM {f : Text → Option Text} {ts results : List Text}
    (h : ts.mapM f = some results) {result : Text} (hmem : result ∈ results) :
    ∃ t ∈ ts, f t = some result := by
  induction ts generalizing results with
  | nil =>
      obtain rfl := Option.some.inj h
      cases hmem
  | cons t ts ih =>
      rw [List.mapM_cons] at h
      obtain ⟨first, hfirst, h⟩ := Option.bind_eq_some_iff.mp h
      obtain ⟨others, hothers, h⟩ := Option.bind_eq_some_iff.mp h
      obtain rfl := Option.some.inj h
      rcases List.mem_cons.mp hmem with rfl | hmem
      · exact ⟨t, List.mem_cons_self, hfirst⟩
      · obtain ⟨t', ht', hresult⟩ := ih hothers hmem
        exact ⟨t', List.mem_cons_of_mem t ht', hresult⟩

/-- What is written of a label holds name characters if the label holds nothing forbidden. -/
theorem isNameChar_writeLabel {label written : Text} (hwrite : writeLabel label = some written)
    (hlabel : label.any isForbidden = false) : ∀ c ∈ written, Host.isNameChar c = true := by
  have hbasic : ∀ c ∈ label, c.toNat < 128 → Host.isNameChar c = true := fun c hc hlt =>
    isNameChar_of_not_forbidden hlt (by simpa using List.any_eq_false.mp hlabel c hc)
  have hdigit : ∀ d < 36, Host.isNameChar (Punycode.digitChar d) = true := by decide
  rw [writeLabel] at hwrite
  split at hwrite
  · next hascii =>
      obtain rfl := Option.some.inj hwrite
      exact fun c hc => hbasic c hc (of_decide_eq_true (List.all_eq_true.mp hascii c hc))
  · split at hwrite
    · cases hwrite
    · obtain rfl := Option.some.inj hwrite
      intro c hc
      rcases List.mem_append.mp hc with hc | hc
      · exact List.all_eq_true.mp (by decide : punycodeMark.all Host.isNameChar = true) c hc
      · rcases Punycode.mem_encode hc with ⟨hmem, hlt⟩ | rfl | ⟨d, hd, rfl⟩
        · exact hbasic c hmem hlt
        · decide
        · exact hdigit d hd

/-- A domain name in ASCII holds name characters only. -/
theorem isNameChar_toAscii {t name : Text} (h : toAscii t = some name) :
    ∀ c ∈ name, Host.isNameChar c = true := by
  rw [toAscii] at h
  split at h
  · cases h
  split at h
  · cases h
  split at h
  · cases h
  next labels hlabels =>
  split at h
  · cases h
  next hfit =>
  rw [Bool.or_eq_true, not_or, Bool.not_eq_true, List.any_eq_false] at hfit
  obtain ⟨written, hwritten, rfl⟩ := Option.map_eq_some_iff.mp h
  intro c hc
  rcases mem_joinWith hc with rfl | ⟨w, hw, hc⟩
  · decide
  · obtain ⟨label, hlabel, hwrite⟩ := exists_of_mem_mapM hwritten hw
    exact isNameChar_writeLabel hwrite (by simpa using hfit.1 label hlabel) c hc

end Domain

/-! ## Printed hosts -/

namespace Host

/-- The byte of a percent sign is in print. -/
theorem isNameChar_percentByte (b : UInt8) : ∀ c ∈ percentByte b, isNameChar c = true := by
  have hdigits : ∀ n < 16, isNameChar (Nat.digitChar n).toUpper = true := by decide
  have hlt : b.toNat < 256 := b.toNat_lt
  intro c hc
  simp only [percentByte, List.mem_cons, List.not_mem_nil, or_false] at hc
  rcases hc with rfl | rfl | rfl
  · decide
  · exact hdigits _ (by omega)
  · exact hdigits _ (by omega)

theorem isNameChar_printPlain {name : Text} (h : name.any isReserved = false) :
    ∀ c ∈ printPlain name, isNameChar c = true := by
  intro c hc
  obtain ⟨d, hd, hc⟩ := List.mem_flatMap.mp hc
  split at hc
  · next hprint =>
      obtain rfl := List.mem_singleton.mp hc
      have hreserved : isReserved c = false := by simpa using List.any_eq_false.mp h c hd
      exact isNameChar_of_not_reserved (by simpa using hprint) hreserved
  · obtain ⟨b, -, hc⟩ := List.mem_flatMap.mp hc
    exact isNameChar_percentByte b c hc

theorem isNameChar_printIpv4 (address : Nat) : ∀ c ∈ printIpv4 address, isNameChar c = true := by
  have hdigits : ∀ n, ∀ c ∈ Nat.toDigits 10 n, isNameChar c = true := fun n c hc =>
    isNameChar_of_isDigit (Nat.isDigit_of_mem_toDigits (by decide) (by decide) hc)
  have hdot : isNameChar '.' = true := by decide
  simp only [printIpv4, List.forall_mem_append, List.forall_mem_cons, hdot, true_and]
  exact ⟨⟨⟨hdigits _, hdigits _⟩, hdigits _⟩, hdigits _⟩

/-- What the parser knows of a host that it gives. -/
def IsRead : Host → Prop
  | domain name => ∃ t, Domain.toAscii t = some name
  | plain name => name.any isReserved = false
  | ipv4 _ | ipv6 _ => True

theorem IsRead.isNameChar_printed {host : Host} {name : Text} (h : host.IsRead)
    (hname : host.printed? = some name) : ∀ c ∈ name, isNameChar c = true := by
  cases host with
  | domain name' =>
      obtain rfl := Option.some.inj hname
      obtain ⟨t, ht⟩ := h
      exact Domain.isNameChar_toAscii ht
  | ipv4 address =>
      obtain rfl := Option.some.inj hname
      exact isNameChar_printIpv4 address
  | ipv6 pieces => cases hname
  | plain name' =>
      obtain rfl := Option.some.inj hname
      exact isNameChar_printPlain h

theorem isRead_parseBracketed {t : Text} {host : Host} (h : parseBracketed t = .ok host) :
    host.IsRead := by
  rw [parseBracketed] at h
  split at h
  · obtain rfl := Except.ok.inj h
    trivial
  · cases h

theorem isRead_parseDomain {t : Text} {host : Host} (h : parseDomain t = .ok host) :
    host.IsRead := by
  unfold parseDomain at h
  split at h
  · exact isRead_parseBracketed h
  · split at h
    · next name hname =>
        obtain ⟨decoded, -, hascii⟩ := Option.bind_eq_some_iff.mp hname
        unfold ofDomain at h
        split at h
        · cases h
        split at h
        · split at h
          · obtain rfl := Except.ok.inj h
            trivial
          · cases h
        · obtain rfl := Except.ok.inj h
          exact ⟨decoded, hascii⟩
    · cases h

theorem isRead_parsePlain {t : Text} {host : Host} (h : parsePlain t = .ok (some host)) :
    host.IsRead := by
  unfold parsePlain at h
  split at h
  · cases h
  · next r =>
      cases hbracketed : parseBracketed r with
      | error fault =>
          rw [hbracketed] at h
          cases h
      | ok host' =>
          rw [hbracketed] at h
          obtain rfl := Option.some.inj (Except.ok.inj h)
          exact isRead_parseBracketed hbracketed
  · split at h
    · cases h
    · next hreserved =>
        obtain rfl := Option.some.inj (Except.ok.inj h)
        exact eq_false_of_ne_true hreserved

end Host

theorem parseDomain_of_map {t : Text} {host : Host}
    (h : (Host.parseDomain t).map some = .ok (some host)) : Host.parseDomain t = .ok host := by
  cases hparse : Host.parseDomain t with
  | error fault =>
      rw [hparse] at h
      cases h
  | ok host' =>
      rw [hparse] at h
      rw [Option.some.inj (Except.ok.inj h)]

theorem isRead_parseHost {kind : SchemeKind} {t : Text} {host : Host}
    (h : parseHost kind t = .ok (some host)) : host.IsRead := by
  cases kind with
  | web =>
      simp only [parseHost] at h
      split at h
      · cases h
      · exact Host.isRead_parseDomain (parseDomain_of_map h)
  | file =>
      simp only [parseHost] at h
      split at h
      · cases h
      · exact Host.isRead_parseDomain (parseDomain_of_map h)
  | other => exact Host.isRead_parsePlain h

/-- The host of a text that names host and port is that of the part in front of the port. -/
theorem parseHost_of_parseHostAndPort {kind : SchemeKind} {hasUser : Bool} {t : Text}
    {host : Option Host} (h : parseHostAndPort kind hasUser t = .ok host) :
    parseHost kind (cutPort false t).1 = .ok host := by
  rw [parseHostAndPort] at h
  rcases hcut : cutPort false t with ⟨text, rest⟩
  rw [hcut] at h
  cases hparse : parseHost kind text with
  | error fault =>
      simp only [hparse] at h
      cases h
  | ok host' =>
      simp only [hparse, bind, Except.bind] at h
      split at h
      · cases h
      split at h
      · cases h
      split at h
      · cases h
      · exact h

theorem isRead_parseAuthority {kind : SchemeKind} {t : Text} {host : Host}
    (h : parseAuthority kind t = .ok (some host)) : host.IsRead := by
  rw [parseAuthority] at h
  split at h
  · exact isRead_parseHost (parseHost_of_parseHostAndPort h)
  · split at h
    · cases h
    · exact isRead_parseHost (parseHost_of_parseHostAndPort h)

theorem isRead_parseFileHost {written t : Text} {host : Host}
    (h : parseFileHost written t = .ok (some host)) : host.IsRead := by
  simp only [parseFileHost] at h
  split at h
  · cases h
  · split at h
    · cases h
    · next hparse =>
        split at h
        · cases h
        · obtain rfl := Option.some.inj (Except.ok.inj h)
          exact Host.isRead_parseDomain hparse

theorem isRead_parseRest {kind : SchemeKind} {written t : Text} {host : Host}
    (h : parseRest kind written t = .ok (some host)) : host.IsRead := by
  unfold parseRest at h
  cases kind with
  | web => exact isRead_parseAuthority h
  | file =>
      simp only at h
      split at h
      · split at h
        · exact isRead_parseFileHost h
        · cases h
      · cases h
  | other =>
      simp only at h
      split at h
      · exact isRead_parseAuthority h
      · cases h

theorem isRead_parse {t scheme : Text} {host : Host} (h : parse t = .ok ⟨scheme, some host⟩) :
    host.IsRead := by
  simp only [parse] at h
  split at h
  · cases h
  · split at h
    · cases h
    · next hrest =>
        obtain ⟨-, rfl⟩ := Url.mk.inj (Except.ok.inj h)
        exact isRead_parseRest hrest

/-- The host of every URL is printed with name characters only. -/
theorem isNameChar_of_parse {t scheme name : Text} {host : Host}
    (h : parse t = .ok ⟨scheme, some host⟩) (hname : host.printed? = some name) :
    ∀ c ∈ name, Host.isNameChar c = true := (isRead_parse h).isNameChar_printed hname

end UrlFilter.Url
