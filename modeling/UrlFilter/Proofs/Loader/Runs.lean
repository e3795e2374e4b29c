import UrlFilter.Proofs.Loader.Download

/-!
# Runs of a loader that keeps lists

A loader that keeps lists is called again and again.  From call to call the network may answer
something else, and any time may pass.  Of the files only the loader changes something.

*What is kept.*  `verifiedBodies` are the bytes of all downloads of a URL that were complete and
found to be lists, in the order of the calls.  At any time the list of the URL is missing, or it is
the last of them (`Holds.after`).  One call keeps this (`Holds.serve`), whether it is about the URL
or about another one, and a run follows by induction.

*What is given back.*  A call gives back the lines of the list that is there afterwards, and fails
where there is none (`outcome_cases`).  A list never goes away (`isSome_kept?_after`), so a URL that
was loaded once can be loaded from then on.
-/

namespace UrlFilter.ListCache

/-! ## Calls -/

/-- A call of a loader, with what the web answers and the time. -/
structure Call where
  /-- The source that is asked for. -/
  source : Text
  /-- The network. -/
  network : Network
  /-- The time. -/
  now : Time

/-- The URL that a call is about. -/
def Call.url (call : Call) : Text := call.source.trim

/-- The world that a call meets. -/
def Call.world (call : Call) (fs : Files) : World := ⟨fs, call.network, call.now⟩

/-- What a call gives back, and the files afterwards. -/
def serve (c : ListCache) (fs : Files) (call : Call) : Except LoadFault (List Text) × Files :=
  (Loader.auto (some c)).load (call.world fs) call.source

/-- The files after some calls. -/
def after (c : ListCache) (fs : Files) : List Call → Files
  | [] => fs
  | call :: calls => c.after (c.serve fs call).2 calls

/-- What a call gives back that follows some others. -/
def outcome (c : ListCache) (fs : Files) (calls : List Call) (call : Call) :
    Except LoadFault (List Text) := (c.serve (c.after fs calls) call).1

/-- The bytes that calls download for a URL, where they are complete and found to be a list. -/
def verifiedBodies (c : ListCache) (url : Text) (fs : Files) : List Call → List Bytes
  | [] => []
  | call :: calls =>
    (if call.url = url then c.verifiedBody (call.world fs) url else none).toList ++
      c.verifiedBodies url (c.serve fs call).2 calls

/-- The bytes were verified in the last download of a URL that passed. -/
structure IsLastVerified (c : ListCache) (fs : Files) (calls : List Call) (url : Text)
    (bytes : Bytes) : Prop where
  /-- No verified bytes came later. -/
  last : (c.verifiedBodies url fs calls).getLast? = some bytes
  /-- They are not empty. -/
  ne_nil : bytes ≠ []
  /-- They are a text. -/
  isText : ∃ t, Utf8.decode bytes = .ok t
  /-- They came for the URL in one of the calls, and no byte was missing. -/
  complete : ∃ call ∈ calls, call.url = url ∧ call.network.download url = .ok ⟨bytes, none⟩

variable {c : ListCache} {fs : Files} {url : Text} {calls : List Call} {call : Call}

theorem serve_eq (h : Url.isRemote call.source = true) :
    c.serve fs call = c.load (call.world fs) call.url := load_auto_some h c _

theorem after_append {calls' : List Call} :
    c.after fs (calls ++ calls') = c.after (c.after fs calls) calls' := by
  induction calls generalizing fs with
  | nil => rfl
  | cons call calls ih => exact ih

theorem mem_verifiedBodies {bytes : Bytes} (h : bytes ∈ c.verifiedBodies url fs calls) :
    ∃ call ∈ calls, call.url = url ∧ call.network.download url = .ok ⟨bytes, none⟩ := by
  induction calls generalizing fs with
  | nil => cases h
  | cons call calls ih =>
      rcases List.mem_append.mp h with hcall | hcalls
      · have hcall := Option.mem_toList.mp hcall
        by_cases hurl : call.url = url
        · rw [if_pos hurl] at hcall
          obtain ⟨-, hdelivery, -, -⟩ := delivery_of_verifiedBody hcall
          exact ⟨call, List.mem_cons_self, hurl, hdelivery⟩
        · rw [if_neg hurl] at hcall
          cases hcall
      · obtain ⟨call', hmem, hreply⟩ := ih hcalls
        exact ⟨call', List.mem_cons_of_mem call hmem, hreply⟩

/-! ## What is kept -/

/-- The list of a URL is missing after a call, or it is what the call verified, or else what was
verified before. -/
theorem Holds.serve {body : Option Bytes} (h : Holds c fs url body)
    (hremote : Url.isRemote call.source = true)
    (hpath : c.path call.url = c.path url → call.url = url) :
    Holds c (c.serve fs call).2 url
      ((if call.url = url then c.verifiedBody (call.world fs) url else none).or body) := by
  rw [serve_eq hremote]
  by_cases hurl : call.url = url
  · rw [if_pos hurl, hurl]
    exact Holds.load h
  · rw [if_neg hurl, Option.none_or]
    exact Holds.load_of_path_ne h fun hsame => hurl (hpath hsame.symm)

/-- The list of a URL is missing after some calls, or it is what was verified last. -/
theorem Holds.after {body : Option Bytes} (h : Holds c fs url body)
    (hremote : ∀ k ∈ calls, Url.isRemote k.source = true)
    (hpath : ∀ k ∈ calls, c.path k.url = c.path url → k.url = url) :
    Holds c (c.after fs calls) url ((c.verifiedBodies url fs calls).getLast?.or body) := by
  induction calls generalizing fs body with
  | nil => exact h
  | cons call calls ih =>
      obtain ⟨hcall, hcalls⟩ := List.forall_mem_cons.mp hremote
      obtain ⟨hpath, hpaths⟩ := List.forall_mem_cons.mp hpath
      have hrun := ih (h.serve hcall hpath) hcalls hpaths
      rw [verifiedBodies, List.getLast?_append, Option.or_assoc]
      cases hbody : if call.url = url then c.verifiedBody (call.world fs) url else none with
      | none =>
          rw [hbody] at hrun
          exact hrun
      | some bytes =>
          rw [hbody] at hrun
          exact hrun

/-- A list does not go away in a call. -/
theorem isSome_kept?_serve (hremote : Url.isRemote call.source = true)
    (hpath : c.path call.url = c.path url → call.url = url)
    (h : (c.kept? fs url).isSome = true) : (c.kept? (c.serve fs call).2 url).isSome = true := by
  rw [serve_eq hremote]
  by_cases hurl : call.url = url
  · rw [hurl]
    exact isSome_kept?_load h
  · rw [kept?_load_of_path_ne fun hsame => hurl (hpath hsame.symm)]
    exact h

/-- A list never goes away. -/
theorem isSome_kept?_after (hremote : ∀ k ∈ calls, Url.isRemote k.source = true)
    (hpath : ∀ k ∈ calls, c.path k.url = c.path url → k.url = url)
    (h : (c.kept? fs url).isSome = true) : (c.kept? (c.after fs calls) url).isSome = true := by
  induction calls generalizing fs with
  | nil => exact h
  | cons call calls ih =>
      obtain ⟨hcall, hcalls⟩ := List.forall_mem_cons.mp hremote
      obtain ⟨hpath, hpaths⟩ := List.forall_mem_cons.mp hpath
      exact ih hcalls hpaths (isSome_kept?_serve hcall hpath h)

/-- Where there was no list at first, the list of a URL is missing after some calls, or it is what
was verified last. -/
theorem holds_after (hremote : ∀ k ∈ calls, Url.isRemote k.source = true)
    (hpath : ∀ k ∈ calls, c.path k.url = c.path url → k.url = url)
    (habsent : c.kept? fs url = none) :
    Holds c (c.after fs calls) url (c.verifiedBodies url fs calls).getLast? := by
  have hstart : Holds c fs url none := .missing habsent
  have hrun := hstart.after hremote hpath
  rw [Option.or_none] at hrun
  exact hrun

theorem isLastVerified_of_readable {bytes : Bytes}
    (hlast : (c.verifiedBodies url fs calls).getLast? = some bytes)
    (h : Readable c (c.after fs calls) url bytes) : c.IsLastVerified fs calls url bytes := by
  obtain ⟨hne, htext⟩ := verify_eq_ok_iff.mp h.verify_eq
  exact ⟨hlast, hne, htext, mem_verifiedBodies (List.mem_of_getLast? hlast)⟩

/-! ## What is given back -/

/-- The last call gives back the lines of the list that is there afterwards, and fails where there
is none. -/
theorem outcome_cases (hremote : ∀ k ∈ calls ++ [call], Url.isRemote k.source = true)
    (hpath : ∀ k ∈ calls ++ [call], c.path k.url = c.path call.url → k.url = call.url)
    (habsent : c.kept? fs call.url = none) :
    (c.kept? (c.after fs (calls ++ [call])) call.url = none ∧
        ∃ fault, c.outcome fs calls call = .error fault) ∨
      ∃ bytes t, Readable c (c.after fs (calls ++ [call])) call.url bytes ∧
        Utf8.decode bytes = .ok t ∧ c.outcome fs calls call = .ok (Text.splitLines t) := by
  have hholds := holds_after hremote hpath habsent
  have hcall := hremote call (List.mem_append_right calls (List.mem_singleton_self call))
  rw [outcome, serve_eq hcall]
  rw [after_append, after, after, serve_eq hcall] at hholds ⊢
  cases hholds with
  | missing hnone => exact .inl ⟨hnone, load_of_kept?_eq_none hnone⟩
  | readable _ hreadable =>
      obtain ⟨t, hdecode, hlines⟩ := load_of_readable hreadable
      exact .inr ⟨_, t, hreadable, hdecode, hlines⟩

/-- A call does not fail if one for the same URL succeeded before. -/
theorem isOk_outcome_of_earlier {earlier later : List Call} {k : Call}
    (hremote : ∀ k' ∈ earlier ++ k :: later ++ [call], Url.isRemote k'.source = true)
    (hpath : ∀ k' ∈ earlier ++ k :: later ++ [call],
      c.path k'.url = c.path call.url → k'.url = call.url)
    (habsent : c.kept? fs call.url = none) (hurl : k.url = call.url)
    (h : (c.outcome fs earlier k).isOk = true) :
    (c.outcome fs (earlier ++ k :: later) call).isOk = true := by
  have hsplit : earlier ++ k :: later ++ [call] = (earlier ++ [k]) ++ (later ++ [call]) := by
    rw [List.append_assoc, List.append_assoc]
    rfl
  have hlast := outcome_cases hremote hpath habsent
  rw [hsplit] at hremote hpath hlast
  obtain ⟨hremote, hremote'⟩ := List.forall_mem_append.mp hremote
  obtain ⟨hpath, hpath'⟩ := List.forall_mem_append.mp hpath
  rw [← hurl] at hpath habsent
  rcases outcome_cases hremote hpath habsent with ⟨-, fault, hfails⟩ | ⟨bytes, t, hreadable, -, -⟩
  · rw [hfails] at h
    cases h
  · have hkept : (c.kept? (c.after fs (earlier ++ [k])) call.url).isSome = true := by
      rw [← hurl, hreadable.kept?_eq]
      rfl
    have hkept' := isSome_kept?_after hremote' hpath' hkept
    rw [← after_append] at hkept'
    rcases hlast with ⟨hnone, -⟩ | ⟨-, t', -, -, hlines⟩
    · rw [hnone] at hkept'
      cases hkept'
    · rw [hlines]
      rfl

/-- A loader that starts without lists keeps of each URL the last bytes that were verified or none,
whatever the network answers and whatever time passes.  A call gives back the lines of the list that
is kept then, and fails where there is none.  It does not fail if one for the same URL succeeded
before. -/
theorem run_keeps_verified (c : ListCache) (fs : Files) (calls : List Call) (call : Call)
    (hremote : ∀ k ∈ calls ++ [call], Url.isRemote k.source = true)
    (hpaths : ∀ k ∈ calls ++ [call], ∀ k' ∈ calls ++ [call],
      c.path k.url = c.path k'.url → k.url = k'.url)
    (habsent : ∀ k ∈ calls ++ [call], c.kept? fs k.url = none) :
    (∀ k ∈ calls ++ [call], c.kept? (c.after fs (calls ++ [call])) k.url = none ∨
        ∃ bytes, (c.after fs (calls ++ [call])).read (c.path k.url) = .ok bytes ∧
          c.IsLastVerified fs (calls ++ [call]) k.url bytes) ∧
      ((c.kept? (c.after fs (calls ++ [call])) call.url = none ∧
          ∃ fault, c.outcome fs calls call = .error fault) ∨
        ∃ bytes t, (c.after fs (calls ++ [call])).read (c.path call.url) = .ok bytes ∧
          Utf8.decode bytes = .ok t ∧ c.outcome fs calls call = .ok (Text.splitLines t)) ∧
      (∀ earlier k later, calls = earlier ++ k :: later → k.url = call.url →
        (c.outcome fs earlier k).isOk = true → (c.outcome fs calls call).isOk = true) := by
  have hcall : call ∈ calls ++ [call] :=
    List.mem_append_right calls (List.mem_singleton_self call)
  refine ⟨fun k hk => ?_, ?_, ?_⟩
  · cases holds_after hremote (fun k' hk' => hpaths k' hk' k hk) (habsent k hk) with
    | missing hnone => exact .inl hnone
    | readable hlast hreadable =>
        exact .inr ⟨_, read_of_readable hreadable, isLastVerified_of_readable hlast hreadable⟩
  · rcases outcome_cases hremote (fun k' hk' => hpaths k' hk' call hcall) (habsent call hcall) with
      hfails | ⟨bytes, t, hreadable, hdecode, hlines⟩
    · exact .inl hfails
    · exact .inr ⟨bytes, t, read_of_readable hreadable, hdecode, hlines⟩
  · rintro earlier k later rfl hurl hok
    exact isOk_outcome_of_earlier hremote (fun k' hk' => hpaths k' hk' call hcall)
      (habsent call hcall) hurl hok

/-- The URL of a list that comes over a secure connection. -/
def secure : Text := "https://a.net:8443/l".toList

/-- The list of this URL comes once and then breaks off, and that of another one never comes. -/
def brokenOff : List Call :=
  [⟨secure, .delivering ⟨[97, 100], none⟩, 0⟩, ⟨"http://b.net/l".toList, .unreachable, 1⟩,
    ⟨secure, .delivering ⟨[97], some .disconnected⟩, 2⟩]

/-- A call for the first URL when its server is gone. -/
def gone : Call := ⟨' ' :: secure, .unreachable, 3⟩

/-- What came once is still given back. -/
theorem isOk_outcome_gone :
    (outcome ⟨["lists".toList], ⟨0⟩⟩ (.empty []) brokenOff gone).isOk = true := by
  have hremote : (brokenOff ++ [gone]).all (fun k => Url.isRemote k.source) = true := by
    decide +kernel
  have hpaths : (brokenOff ++ [gone]).all (fun k => (brokenOff ++ [gone]).all fun k' =>
      decide (path ⟨["lists".toList], ⟨0⟩⟩ k.url = path ⟨["lists".toList], ⟨0⟩⟩ k'.url →
        k.url = k'.url)) = true := by
    decide +kernel
  have hrun := run_keeps_verified ⟨["lists".toList], ⟨0⟩⟩ (.empty []) brokenOff gone
    (List.all_eq_true.mp hremote)
    (fun k hk k' hk' =>
      of_decide_eq_true (List.all_eq_true.mp (List.all_eq_true.mp hpaths k hk) k' hk'))
    (fun _ _ => rfl)
  exact hrun.2.2 [] _ _ rfl (by decide +kernel) (by decide +kernel)

end UrlFilter.ListCache
