import ServiceClient.Http.Transport
import ServiceClient.Proofs.HeaderWrites
import ServiceClient.Proofs.ProfileText

/-!
# The headers that a session is handed

A session is handed the headers of a request with defaults for two of them: the client names itself
and asks for no compression. Whether the request has an `Accept-Encoding` does not depend on how the
name is spelled; whether it has a `User-Agent` does, so that a user agent under another spelling is
followed by that of the client, which the session sends.

* `Headers.withAgent`, `Headers.outgoingHeaders_eq`: the two defaults, one after the other.
* `Transmission.PassesHeaders`: the headers of a request reach the session.
* `Headers.mem_outgoingHeaders`: exactly which headers are handed over.
* `Headers.last?_outgoingHeaders`: which user agent is sent.
* `Transmission.passes_iff`: when the headers of a request reach the session.
* `Transmission.agent_replaced`: a user agent that does not.
-/

namespace ServiceClient

/-- A pair that is written takes the place of the one with its key. -/
theorem Association.mem_put_iff {κ α : Type} [DecidableEq κ] {key : κ} {value : α}
    {pairs : List (κ × α)} (h : (pairs.map (·.1)).Nodup) (p : κ × α) :
    p ∈ put key value pairs ↔ p = (key, value) ∨ p ∈ pairs ∧ p.1 ≠ key := by
  induction pairs with
  | nil => simp [put]
  | cons q rest ih =>
    obtain ⟨k, v⟩ := q
    rw [List.map_cons, List.nodup_cons] at h
    rw [put]
    by_cases hk : k = key
    · subst hk
      have hrest : ∀ p ∈ rest, p.1 ≠ k := by
        intro p hp hkey
        exact h.1 (List.mem_map.2 ⟨p, hp, hkey⟩)
      rw [if_pos rfl, List.mem_cons, List.mem_cons]
      constructor
      · rintro (hp | hp)
        · exact .inl hp
        · exact .inr ⟨.inr hp, hrest p hp⟩
      · rintro (hp | ⟨rfl | hp, hne⟩)
        · exact .inl hp
        · exact absurd rfl hne
        · exact .inr hp
    · rw [if_neg hk, List.mem_cons, List.mem_cons, ih h.2]
      constructor
      · rintro (rfl | hp | ⟨hp, hne⟩)
        · exact .inr ⟨.inl rfl, hk⟩
        · exact .inl hp
        · exact .inr ⟨.inr hp, hne⟩
      · rintro (hp | ⟨hp | hp, hne⟩)
        · exact .inr (.inl hp)
        · exact .inl hp
        · exact .inr (.inr ⟨hp, hne⟩)

namespace Headers

variable {h : Headers} {e f : Text × Text} {name : Text}

/-! ### Headers with distinct names -/

theorem HasDistinctNames.eq (hdistinct : h.HasDistinctNames) (he : e ∈ h) (hf : f ∈ h)
    (hsame : sameName e.1 f.1 = true) : e = f := by
  have hsymm : Std.Symm fun e f : Text × Text => sameName e.1 f.1 = false := by
    refine ⟨fun e f hne => ?_⟩
    rw [sameName_comm]
    exact hne
  by_contra hne
  have hother : sameName e.1 f.1 = false := List.Pairwise.forall hdistinct he hf hne
  rw [hother] at hsame
  cases hsame

theorem HasDistinctNames.nodup (hdistinct : h.HasDistinctNames) : (h.map (·.1)).Nodup := by
  refine List.pairwise_map.2 (hdistinct.imp fun {e f} hne hsame => ?_)
  rw [hsame, sameName_self] at hne
  cases hne

/-- A name has the value of its only header. -/
theorem HasDistinctNames.get? (hdistinct : h.HasDistinctNames) (he : e ∈ h)
    (hname : sameName e.1 name = true) : h.get? name = some e.2 := by
  have hfound : (h.find? fun f => sameName f.1 name).isSome = true := by
    rw [List.find?_isSome]
    exact ⟨e, he, hname⟩
  obtain ⟨f, hfind⟩ := Option.isSome_iff_exists.1 hfound
  have hf := List.find?_some hfind
  have hsame : sameName e.1 f.1 = true := by
    rw [sameName_congr hname, sameName_comm]
    exact hf
  rw [hdistinct.eq he (List.mem_of_find?_eq_some hfind) hsame, Headers.get?, hfind]
  rfl

/-- The only header of a name is the last. -/
theorem HasDistinctNames.last? (hdistinct : h.HasDistinctNames) (he : e ∈ h)
    (hname : sameName e.1 name = true) : Headers.last? name h = some e := by
  have hthere : (Headers.last? name h).isSome = true := by
    rw [last?_isSome]
    exact List.any_eq_true.2 ⟨e, he, hname⟩
  obtain ⟨f, hlast⟩ := Option.isSome_iff_exists.1 hthere
  obtain ⟨hf, hother⟩ := mem_of_last? hlast
  have hsame : sameName e.1 f.1 = true := by
    rw [sameName_congr hname, sameName_comm]
    exact hother
  rw [hlast, hdistinct.eq he hf hsame]

/-! ### The two defaults -/

/-- Headers with the name of the client behind them, unless one is spelled as it is. -/
def withAgent (h : Headers) : Headers :=
  if h.any fun e => e.1 == "User-Agent" then h
  else h ++ ([("User-Agent", userAgent)] : Headers)

/-- No compression is asked for. -/
def AsksNoEncoding (h : Headers) : Prop := (h.get? "accept-encoding").getD "" = ("" : Text)

instance (h : Headers) : Decidable h.AsksNoEncoding := inferInstanceAs (Decidable (_ = _))

/-- The name of the client comes before the encoding. -/
theorem outgoingHeaders_eq (hdistinct : h.HasDistinctNames) : outgoingHeaders h =
    if h.AsksNoEncoding then
      Association.put ("accept-encoding" : Text) ("identity" : Text) h.withAgent
    else h.withAgent := by
  have hgiven : Association.ofPairs h = h := Association.ofPairs_of_nodup hdistinct.nodup
  unfold outgoingHeaders withAgent AsksNoEncoding
  rw [hgiven]
  rfl

theorem hasAgent_iff : (h.any fun e => e.1 == "User-Agent") = true ↔
    ∃ e ∈ h, e.1 = "User-Agent" := by
  rw [List.any_eq_true]
  simp only [beq_iff_eq]

theorem mem_withAgent : e ∈ h.withAgent ↔
    e ∈ h ∨ e = (("User-Agent", userAgent) : Text × Text) ∧ ∀ f ∈ h, f.1 ≠ "User-Agent" := by
  unfold withAgent
  split
  · rename_i hthere
    obtain ⟨f, hf, hname⟩ := hasAgent_iff.1 hthere
    refine ⟨.inl, fun he => he.resolve_right ?_⟩
    rintro ⟨-, hnone⟩
    exact hnone f hf hname
  · rename_i hnone
    have hnone : ∀ f ∈ h, f.1 ≠ "User-Agent" := by
      intro f hf hname
      exact hnone (hasAgent_iff.2 ⟨f, hf, hname⟩)
    rw [List.mem_append, List.mem_singleton]
    exact or_congr_right ⟨fun he => ⟨he, hnone⟩, fun he => he.1⟩

theorem nodup_withAgent (hdistinct : h.HasDistinctNames) : (h.withAgent.map (·.1)).Nodup := by
  unfold withAgent
  split
  · exact hdistinct.nodup
  · rename_i hnone
    rw [List.map_append, List.map_singleton, List.nodup_append]
    refine ⟨hdistinct.nodup, List.nodup_singleton _, fun name hname other hother heq => ?_⟩
    obtain ⟨e, he, rfl⟩ := List.mem_map.1 hname
    exact hnone (hasAgent_iff.2 ⟨e, he, heq.trans (List.mem_singleton.1 hother)⟩)

theorem nodup_outgoingHeaders (hdistinct : h.HasDistinctNames) :
    ((outgoingHeaders h).map (·.1)).Nodup := by
  rw [outgoingHeaders_eq hdistinct]
  split
  · exact Association.nodup_put _ _ (nodup_withAgent hdistinct)
  · exact nodup_withAgent hdistinct

/-- **Which headers are handed over**: those of the request but for an empty `accept-encoding`, the
name of the client unless a header is spelled as its own, and no compression unless one is asked
for. -/
theorem mem_outgoingHeaders (hdistinct : h.HasDistinctNames) : e ∈ outgoingHeaders h ↔
    (e ∈ h ∧ e ≠ (("accept-encoding", "") : Text × Text)) ∨
    (e = (("User-Agent", userAgent) : Text × Text) ∧ ∀ f ∈ h, f.1 ≠ "User-Agent") ∨
    (e = (("accept-encoding", "identity") : Text × Text) ∧ h.AsksNoEncoding) := by
  rw [outgoingHeaders_eq hdistinct]
  by_cases hnone : h.AsksNoEncoding
  · -- a header that is spelled so is empty
    have hempty : ∀ e ∈ h, e.1 = "accept-encoding" →
        e = (("accept-encoding", "") : Text × Text) := by
      intro e he hname
      have hget := hdistinct.get? he (sameName_self e.1)
      rw [hname] at hget
      unfold AsksNoEncoding at hnone
      rw [hget] at hnone
      exact Prod.ext hname hnone
    have hkept : ∀ e ∈ h,
        (e.1 ≠ "accept-encoding" ↔ e ≠ (("accept-encoding", "") : Text × Text)) := by
      intro e he
      refine ⟨fun hne heq => hne (by rw [heq]), fun hne hname => hne (hempty e he hname)⟩
    rw [if_pos hnone, Association.mem_put_iff (nodup_withAgent hdistinct), mem_withAgent]
    constructor
    · rintro (rfl | ⟨he | ⟨rfl, hagent⟩, hne⟩)
      · exact .inr (.inr ⟨rfl, hnone⟩)
      · exact .inl ⟨he, (hkept e he).1 hne⟩
      · exact .inr (.inl ⟨rfl, hagent⟩)
    · rintro (⟨he, hne⟩ | ⟨rfl, hagent⟩ | ⟨rfl, -⟩)
      · exact .inr ⟨.inl he, (hkept e he).2 hne⟩
      · exact .inr ⟨.inr ⟨rfl, hagent⟩, by decide⟩
      · exact .inl rfl
  · have hfull : ∀ e ∈ h, e ≠ (("accept-encoding", "") : Text × Text) := by
      rintro e he rfl
      refine hnone ?_
      unfold AsksNoEncoding
      rw [hdistinct.get? he (sameName_self _)]
      rfl
    rw [if_neg hnone, mem_withAgent]
    constructor
    · rintro (he | hagent)
      · exact .inl ⟨he, hfull e he⟩
      · exact .inr (.inl hagent)
    · rintro (⟨he, -⟩ | hagent | ⟨-, hencoding⟩)
      · exact .inl he
      · exact .inr hagent
      · exact absurd hencoding hnone

/-- Writing a key leaves the last header of another name. -/
theorem last?_put {key value : Text} (hne : sameName key name = false) (h : Headers) :
    last? name (Association.put key value h) = last? name h := by
  have hlast : ∀ g : Headers, last? name g =
      (g.filter fun w => sameName w.1 name).getLast? := by
    intro g
    unfold last?
    rw [← List.head?_filter, List.filter_reverse, List.head?_reverse]
  have hfilter : (Association.put key value h).filter (fun w => sameName w.1 name) =
      h.filter fun w => sameName w.1 name := by
    induction h with
    | nil => simp [Association.put, hne]
    | cons p rest ih =>
      obtain ⟨k, v⟩ := p
      rw [Association.put]
      split
      · rename_i hk
        subst hk
        simp [hne]
      · rw [List.filter_cons, List.filter_cons, ih]
  rw [hlast, hlast, hfilter]

/-- **Which user agent is sent**, as the last one that is handed over: that of the request if it is
spelled as that of the client, and else that of the client. -/
theorem last?_outgoingHeaders (hdistinct : h.HasDistinctNames) :
    (∀ e ∈ h, e.1 = "User-Agent" → last? "User-Agent" (outgoingHeaders h) = some e) ∧
      ((∀ e ∈ h, e.1 ≠ "User-Agent") →
        last? "User-Agent" (outgoingHeaders h) =
          some (("User-Agent", userAgent) : Text × Text)) := by
  have hagent : last? "User-Agent" (outgoingHeaders h) = last? "User-Agent" h.withAgent := by
    rw [outgoingHeaders_eq hdistinct]
    split
    · exact last?_put (by decide) _
    · rfl
  rw [hagent]
  unfold withAgent
  constructor
  · intro e he hname
    rw [if_pos (hasAgent_iff.2 ⟨e, he, hname⟩)]
    exact hdistinct.last? he (hname ▸ sameName_self e.1)
  · intro hnone
    rw [if_neg fun hthere => ?_]
    · rw [last?_concat, if_pos (sameName_self _)]
    · obtain ⟨e, he, hname⟩ := hasAgent_iff.1 hthere
      exact hnone e he hname

/-- No compression is asked for if no `Accept-Encoding` has a value, however it is spelled. -/
theorem asksNoEncoding_iff (hdistinct : h.HasDistinctNames) : h.AsksNoEncoding ↔
    ∀ f ∈ h, sameName f.1 "Accept-Encoding" = true → f.2 = "" := by
  have hsame : sameName "Accept-Encoding" "accept-encoding" = true := by decide
  have hspelled : ∀ f : Text × Text, sameName f.1 "Accept-Encoding" = true →
      sameName f.1 "accept-encoding" = true := by
    intro f hf
    rw [sameName_congr hf]
    exact hsame
  unfold AsksNoEncoding
  constructor
  · intro hempty f hf hname
    rw [hdistinct.get? hf (hspelled f hname)] at hempty
    exact hempty
  · intro hall
    cases hget : h.get? "accept-encoding" with
    | none => rfl
    | some v =>
      obtain ⟨f, hfind, rfl⟩ := Option.map_eq_some_iff.1 hget
      have hname := List.find?_some hfind
      refine hall f (List.mem_of_find?_eq_some hfind) ?_
      rw [sameName_comm, sameName_congr hsame, sameName_comm]
      exact hname

end Headers

namespace Transmission

/-- **The headers of a request reach the session**: all of them are handed over, but for an empty
encoding; beside them stand at most a user agent and an encoding that the request has not; no two of
them have one name but for such an encoding; and a user agent of the request is the one that is
sent. -/
structure PassesHeaders (t : Transmission) (r : Request) : Prop where
  kept : ∀ e ∈ r.headers, e ∈ t.headers ∨ sameName e.1 "Accept-Encoding" = true ∧ e.2 = ""
  added : ∀ e ∈ t.headers, e ∈ r.headers ∨
    (sameName e.1 "User-Agent" = true ∧ ∀ f ∈ r.headers, sameName f.1 "User-Agent" = false) ∨
    (sameName e.1 "Accept-Encoding" = true ∧
      ∀ f ∈ r.headers, sameName f.1 "Accept-Encoding" = true → f.2 = "")
  distinct : t.headers.Pairwise fun e f => sameName e.1 f.1 = true →
    sameName e.1 "Accept-Encoding" = true ∧
      ∃ g ∈ r.headers, sameName g.1 "Accept-Encoding" = true ∧ g.2 = ""
  agent : ∀ e ∈ r.headers, sameName e.1 "User-Agent" = true →
    Headers.last? "User-Agent" t.headers = some e

variable {r : Request} {t : Transmission}

theorem headers_ofRequest (ht : ofRequest r = .ok t) : t.headers = outgoingHeaders r.headers := by
  obtain ⟨url, -, ht⟩ := bind_eq_ok.1 ht
  rw [← Except.ok.inj ht]

/-- Headers that reach the session have their user agent spelled as that of the client. -/
theorem agent_of_passes (hdistinct : r.headers.HasDistinctNames)
    (ht : t.headers = outgoingHeaders r.headers) (hpasses : t.PassesHeaders r)
    {e : Text × Text} (he : e ∈ r.headers) (hname : sameName e.1 "User-Agent" = true) :
    e.1 = "User-Agent" := by
  have hsent := hpasses.agent e he hname
  obtain ⟨-, hdefault⟩ := Headers.last?_outgoingHeaders hdistinct
  by_contra hspelled
  -- no other header has the name, so that the client names itself
  have hnone : ∀ f ∈ r.headers, f.1 ≠ "User-Agent" := by
    intro f hf hf'
    have hsame : sameName e.1 f.1 = true := by
      rw [hf']
      exact hname
    rw [hdistinct.eq he hf hsame] at hspelled
    exact hspelled hf'
  rw [ht, hdefault hnone] at hsent
  exact hspelled (congrArg Prod.fst (Option.some.inj hsent).symm)

/-- A header of the request shares its name with another that is handed over only if it is an empty
encoding, unless it is a user agent in another spelling. -/
theorem empty_of_sameName (hdistinct : r.headers.HasDistinctNames)
    (hspelled : ∀ e ∈ r.headers, sameName e.1 "User-Agent" = true → e.1 = "User-Agent")
    {e f : Text × Text} (he : e ∈ r.headers) (hf : f ∈ outgoingHeaders r.headers)
    (hne : e ≠ f) (hsame : sameName e.1 f.1 = true) :
    sameName e.1 "Accept-Encoding" = true ∧ e.2 = "" := by
  rcases (Headers.mem_outgoingHeaders hdistinct).1 hf with
    ⟨hf, -⟩ | ⟨rfl, hnone⟩ | ⟨rfl, hencoding⟩
  · exact absurd (hdistinct.eq he hf hsame) hne
  · exact absurd (hspelled e he hsame) (hnone e he)
  · have hname : sameName e.1 "Accept-Encoding" = true := by
      rw [sameName_congr hsame]
      decide
    exact ⟨hname, (Headers.asksNoEncoding_iff hdistinct).1 hencoding e he hname⟩

/-- Headers whose user agent is spelled as that of the client reach the session. -/
theorem passes_of_agent (hdistinct : r.headers.HasDistinctNames)
    (ht : t.headers = outgoingHeaders r.headers)
    (hspelled : ∀ e ∈ r.headers, sameName e.1 "User-Agent" = true → e.1 = "User-Agent") :
    t.PassesHeaders r where
  kept e he := by
    by_cases hempty : e = (("accept-encoding", "") : Text × Text)
    · rw [hempty]
      exact .inr ⟨by decide, rfl⟩
    · rw [ht]
      exact .inl ((Headers.mem_outgoingHeaders hdistinct).2 (.inl ⟨he, hempty⟩))
  added e he := by
    rw [ht] at he
    rcases (Headers.mem_outgoingHeaders hdistinct).1 he with
      ⟨he, -⟩ | ⟨rfl, hnone⟩ | ⟨rfl, hencoding⟩
    · exact .inl he
    · refine .inr (.inl ⟨by decide, fun f hf => Bool.eq_false_iff.2 fun hname => ?_⟩)
      exact hnone f hf (hspelled f hf hname)
    · exact .inr (.inr ⟨by decide, (Headers.asksNoEncoding_iff hdistinct).1 hencoding⟩)
  distinct := by
    rw [ht]
    refine (Headers.nodup_outgoingHeaders hdistinct).of_map.pairwise_of_forall_ne ?_
    intro e he f hf hne hsame
    -- the defaults have different names, so that one of the two is a header of the request
    have hgiven : e ∈ r.headers ∨ f ∈ r.headers := by
      rcases (Headers.mem_outgoingHeaders hdistinct).1 he with
        ⟨he, -⟩ | ⟨rfl, -⟩ | ⟨rfl, -⟩
      · exact .inl he
      all_goals
        rcases (Headers.mem_outgoingHeaders hdistinct).1 hf with
          ⟨hf, -⟩ | ⟨rfl, -⟩ | ⟨rfl, -⟩
      · exact .inr hf
      · exact absurd rfl hne
      · exact absurd hsame (by decide)
      · exact .inr hf
      · exact absurd hsame (by decide)
      · exact absurd rfl hne
    rcases hgiven with he | hf
    · obtain ⟨hname, hempty⟩ := empty_of_sameName hdistinct hspelled he hf hne hsame
      exact ⟨hname, e, he, hname, hempty⟩
    · rw [sameName_comm] at hsame
      obtain ⟨hname, hempty⟩ := empty_of_sameName hdistinct hspelled hf he (Ne.symm hne) hsame
      exact ⟨(sameName_congr hsame _).symm.trans hname, f, hf, hname, hempty⟩
  agent e he hname := by
    rw [ht]
    exact (Headers.last?_outgoingHeaders hdistinct).1 e he (hspelled e he hname)

/-- **When the headers of a request reach the session.** If the names of its headers differ in more
than their case, the session is handed the headers of a request, but for an empty `accept-encoding`,
with the name of the client unless a header is spelled as its own, and with no compression unless
one is asked for. So they reach the session exactly if no user agent is spelled otherwise than as
that of the client: behind one that is, the client names itself, and that is sent. -/
theorem passes_iff (r : Request) (t : Transmission) (hdistinct : r.headers.HasDistinctNames)
    (ht : ofRequest r = .ok t) :
    (∀ e, e ∈ t.headers ↔ (e ∈ r.headers ∧ e ≠ (("accept-encoding", "") : Text × Text)) ∨
      (e = (("User-Agent", userAgent) : Text × Text) ∧ ∀ f ∈ r.headers, f.1 ≠ "User-Agent") ∨
      (e = (("accept-encoding", "identity") : Text × Text) ∧ r.headers.AsksNoEncoding)) ∧
    (t.PassesHeaders r ↔
      ∀ e ∈ r.headers, sameName e.1 "User-Agent" = true → e.1 = "User-Agent") ∧
    ((∀ e ∈ r.headers, e.1 ≠ "User-Agent") →
      Headers.last? "User-Agent" t.headers = some (("User-Agent", userAgent) : Text × Text)) := by
  have hheaders := headers_ofRequest ht
  refine ⟨?_, ⟨?_, passes_of_agent hdistinct hheaders⟩, ?_⟩
  · intro e
    rw [hheaders]
    exact Headers.mem_outgoingHeaders hdistinct
  · intro hpasses e he hname
    exact agent_of_passes hdistinct hheaders hpasses he hname
  · intro hnone
    rw [hheaders]
    exact (Headers.last?_outgoingHeaders hdistinct).2 hnone

/-- A user agent that is spelled as that of the client reaches the session, and an empty encoding
stands beside that of the client. -/
theorem passes_iff_agent :
    ∃ t, ofRequest ⟨"GET", "https", "localhost", 443, "/", "/", [],
        [("User-Agent", "me"), ("Accept-Encoding", "")], []⟩ = .ok t ∧
      t.PassesHeaders ⟨"GET", "https", "localhost", 443, "/", "/", [],
        [("User-Agent", "me"), ("Accept-Encoding", "")], []⟩ ∧
      (("User-Agent", "me") : Text × Text) ∈ t.headers ∧
      (("accept-encoding", "identity") : Text × Text) ∈ t.headers := by
  obtain ⟨t, ht⟩ : ∃ t, ofRequest ⟨"GET", "https", "localhost", 443, "/", "/", [],
      [("User-Agent", "me"), ("Accept-Encoding", "")], []⟩ = .ok t := ⟨_, rfl⟩
  have hdistinct :
      Headers.HasDistinctNames ([("User-Agent", "me"), ("Accept-Encoding", "")] : Headers) := by
    simp [Headers.HasDistinctNames]
    decide
  obtain ⟨hmem, hpasses, -⟩ := passes_iff _ t hdistinct ht
  refine ⟨t, ht, hpasses.2 (by decide), ?_, ?_⟩
  · exact (hmem _).2 (.inl (by decide))
  · exact (hmem _).2 (.inr (.inr ⟨rfl, by decide⟩))

/-- A user agent in lower case is followed by that of the client. -/
theorem agent_replaced :
    ∃ t, ofRequest ⟨"GET", "https", "localhost", 443, "/", "/", [], [("user-agent", "me")], []⟩ =
        .ok t ∧
      t.headers = ([("user-agent", "me"), ("User-Agent", "cos-sdk-core/1.0.0"),
        ("accept-encoding", "identity")] : Headers) ∧
      ¬ t.PassesHeaders ⟨"GET", "https", "localhost", 443, "/", "/", [],
        [("user-agent", "me")], []⟩ := by
  refine ⟨_, rfl, rfl, fun hpasses => ?_⟩
  have hsent := hpasses.agent ("user-agent", "me") List.mem_cons_self (by decide)
  revert hsent
  decide

end Transmission

end ServiceClient
