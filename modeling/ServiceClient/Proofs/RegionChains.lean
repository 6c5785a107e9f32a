import ServiceClient.Proofs.ProfileText
import ServiceClient.Region

/-!
# Chains of region providers

A chain asks its providers in turn, and a provider can be a chain itself. However the providers are
grouped, those that are no chains are asked from left to right, up to the first that has a region.

* `RegionProvider.leavesOf`: the providers of a nesting of chains that are no chains.
* `RegionProvider.firstOf_leavesOf`: a list of providers finds and reports what its leaves do.
* `RegionProvider.region?_profile_eq_none`: when a profile has no region.
* `RegionProvider.lookup_nested`: region and records of a nesting of chains.
-/

namespace ServiceClient.RegionProvider

mutual

/-- The providers that are no chains, from left to right. -/
def leaves : RegionProvider → List RegionProvider
  | .chain providers => leavesOf providers
  | p => [p]

def leavesOf : List RegionProvider → List RegionProvider
  | [] => []
  | p :: rest => p.leaves ++ leavesOf rest

end

/-- The region that a provider has, unless it fails or the region is empty. -/
def region? (e : Environment) (p : RegionProvider) : Option String := usable? (lookup e p).result

/-- What is reported when a provider is asked: its own records, and its failure. -/
def recordsOf (e : Environment) (p : RegionProvider) : List Record :=
  (lookup e p).records ++ (reportFailure p (lookup e p).result).records

/-- The providers that are asked in turn: those up to the first that has a region. -/
def asked (e : Environment) : List RegionProvider → List RegionProvider
  | [] => []
  | p :: rest => p :: if (p.region? e).isSome then [] else asked e rest

variable {e : Environment}

/-- No empty region is used. -/
theorem usable?_ne_empty {outcome : Except Failure (Option String)} {region : String}
    (h : usable? outcome = some region) : region.isEmpty = false := by
  unfold usable? at h
  split at h
  · split at h
    · cases h
    · rename_i found hfound
      rw [Option.some.injEq] at h
      rw [← h]
      exact Bool.eq_false_iff.2 hfound
  · cases h

/-! ### One list of providers -/

/-- The first provider is asked, and the others only if it has no region. -/
theorem firstOf_cons (p : RegionProvider) (rest : List RegionProvider) :
    firstOf e (p :: rest) =
      ⟨(p.region? e).or (firstOf e rest).result,
        p.recordsOf e ++ if (p.region? e).isSome then [] else (firstOf e rest).records⟩ := by
  have hregion : usable? (lookup e p).result = p.region? e := rfl
  have hrecords : (lookup e p).records ++ (reportFailure p (lookup e p).result).records =
      p.recordsOf e := rfl
  rw [firstOf]
  simp only [bind, Logged.bind, hregion]
  cases p.region? e with
  | none => simp [← hrecords]
  | some region => simp [← hrecords, pure, Logged.pure]

/-- **The region of a list of providers** is that of the first that has one, and the records are
those of the providers that were asked. -/
theorem firstOf_eq (ps : List RegionProvider) :
    firstOf e ps = ⟨ps.findSome? (region? e), (asked e ps).flatMap (recordsOf e)⟩ := by
  induction ps with
  | nil =>
    rw [firstOf]
    rfl
  | cons p rest ih =>
    rw [firstOf_cons, ih, asked, List.findSome?_cons, List.flatMap_cons]
    cases p.region? e with
    | none => simp
    | some region => simp

/-- The providers that are asked of two lists in a row. -/
theorem asked_append (ps qs : List RegionProvider) :
    asked e (ps ++ qs) = asked e ps ++ if (ps.findSome? (region? e)).isSome then []
      else asked e qs := by
  induction ps with
  | nil => simp [asked]
  | cons p rest ih =>
    rw [List.cons_append, asked, asked, ih, List.findSome?_cons]
    cases p.region? e with
    | none => simp
    | some region => simp

/-- Two lists in a row: the second is asked if the first has no region. -/
theorem firstOf_append (ps qs : List RegionProvider) :
    firstOf e (ps ++ qs) =
      ⟨(firstOf e ps).result.or (firstOf e qs).result,
        (firstOf e ps).records ++
          if (firstOf e ps).result.isSome then [] else (firstOf e qs).records⟩ := by
  rw [firstOf_eq, firstOf_eq, firstOf_eq, asked_append, List.findSome?_append, List.flatMap_append]
  cases ps.findSome? (region? e) with
  | none => simp
  | some region => simp

/-- A provider alone is asked. -/
theorem firstOf_single (p : RegionProvider) : firstOf e [p] = ⟨p.region? e, p.recordsOf e⟩ := by
  rw [firstOf_eq]
  simp [asked]

/-- Whatever follows a provider with a region is not asked. -/
theorem firstOf_of_region {before : List RegionProvider} {p : RegionProvider}
    (h : (p.region? e).isSome = true) (after : List RegionProvider) :
    firstOf e (before ++ p :: after) = firstOf e (before ++ [p]) := by
  have hlast : ∀ rest, firstOf e (p :: rest) = ⟨p.region? e, p.recordsOf e⟩ := by
    intro rest
    obtain ⟨region, hregion⟩ := Option.isSome_iff_exists.1 h
    rw [firstOf_cons, hregion]
    simp
  rw [firstOf_append, firstOf_append, hlast, hlast]

/-! ### Nested chains -/

/-- A chain does not fail, so that its failure is not reported. -/
theorem recordsOf_chain (ps : List RegionProvider) :
    (chain ps).recordsOf e = (firstOf e ps).records := by
  have hrecords : (lookup e (.chain ps)).records = (firstOf e ps).records ++ [] := by
    rw [lookup]
    rfl
  have hresult : (lookup e (.chain ps)).result = .ok (firstOf e ps).result := by
    rw [lookup]
    rfl
  unfold recordsOf
  rw [hrecords, hresult]
  unfold reportFailure
  simp [pure, Logged.pure]

/-- A chain has the region that its providers find. -/
theorem region?_chain (ps : List RegionProvider) :
    (chain ps).region? e = (firstOf e ps).result := by
  have hresult : (lookup e (.chain ps)).result = .ok (firstOf e ps).result := by
    rw [lookup]
    rfl
  unfold region?
  rw [hresult, firstOf_eq]
  -- the region that is found is not empty, and is therefore used again
  cases hfound : ps.findSome? (region? e) with
  | none => rfl
  | some region =>
    obtain ⟨p, -, hp⟩ := List.exists_of_findSome?_eq_some hfound
    have hne := usable?_ne_empty hp
    simp [usable?, hne]

mutual

/-- The leaves of a provider find and report what it does. -/
theorem firstOf_leaves (e : Environment) : ∀ p : RegionProvider,
    firstOf e p.leaves = ⟨p.region? e, p.recordsOf e⟩
  | .chain ps => by
    rw [leaves, firstOf_leavesOf e ps, region?_chain, recordsOf_chain]
  | .override => by simp [leaves, firstOf_single]
  | .profile name file => by simp [leaves, firstOf_single]
  | .custom name outcome => by simp [leaves, firstOf_single]

/-- **A nesting of chains finds and reports what its leaves do.** -/
theorem firstOf_leavesOf (e : Environment) : ∀ ps : List RegionProvider,
    firstOf e (leavesOf ps) = firstOf e ps
  | [] => by rw [leavesOf]
  | p :: rest => by
    rw [leavesOf, firstOf_append, firstOf_leaves e p, firstOf_leavesOf e rest, firstOf_cons]

end

/-- A chain is asked as its leaves are. -/
theorem lookup_chain_leaves (ps : List RegionProvider) :
    lookup e (.chain ps) = ⟨.ok (firstOf e (leavesOf ps)).result,
      (firstOf e (leavesOf ps)).records⟩ := by
  have hlookup :
      lookup e (.chain ps) = ⟨.ok (firstOf e ps).result, (firstOf e ps).records ++ []⟩ := by
    rw [lookup]
    rfl
  rw [hlookup, firstOf_leavesOf, List.append_nil]

/-- A provider without a region may be left out. -/
theorem findSome?_without {before after : List RegionProvider} {p : RegionProvider}
    (h : p.region? e = none) :
    (before ++ p :: after).findSome? (region? e) = (before ++ after).findSome? (region? e) := by
  rw [List.findSome?_append, List.findSome?_append, List.findSome?_cons, h]

/-! ### Profiles without a region -/

theorem nonEmptyOr_none (default : String) : nonEmptyOr default none = default := rfl

/-- Whether a file is there and holds a text. -/
def HasText (e : Environment) (path text : String) : Prop :=
  ∃ content, e.files.lookup path = some content ∧ Utf8.decode content = .ok text

/-- The profiles that a text holds. -/
def profilesIn (path text : String) : Except Failure Profiles :=
  (Profiles.ofLines path ((Profiles.linesOf text.toList).map String.ofList)).run.result

/-- Why no region can be had from a profile of a file. -/
inductive LacksRegion (e : Environment) (path name : String) : Prop
  | missing (hfile : e.files.lookup path = none)
  | undecodable {content : Bytes} {cause : DecodeError}
      (hfile : e.files.lookup path = some content) (htext : Utf8.decode content = .error cause)
  | malformed {text : String} {cause : Failure} (htext : HasText e path text)
      (hread : profilesIn path text = .error cause)
  | unknown {text : String} {profiles : Profiles} (htext : HasText e path text)
      (hread : profilesIn path text = .ok profiles) (hname : profiles.find? name = none)
  | empty {text : String} {profiles : Profiles} {profile : Profile} (htext : HasText e path text)
      (hread : profilesIn path text = .ok profiles) (hname : profiles.find? name = some profile)
      (hregion : profile.get? "region" = none ∨ profile.get? "region" = some "")

/-- A file that cannot be decoded is not read. -/
theorem result_load_undecodable {path : String} {content : Bytes} {cause : DecodeError}
    (hfile : e.files.lookup path = some content) (htext : Utf8.decode content = .error cause) :
    (Profiles.load e path).run.result = .error (.decoding cause) := by
  unfold Profiles.load
  simp only [hfile, htext]
  rfl

theorem result_load_text {path text : String} (h : HasText e path text) :
    (Profiles.load e path).run.result = (profilesIn path text).map some := by
  obtain ⟨content, hfile, htext⟩ := h
  exact Profiles.result_load hfile htext

/-- The region of a profile is looked up in what is read of the file. -/
theorem result_profile (name file : Option String) :
    (lookup e (.profile name file)).result =
      (Profiles.load e (nonEmptyOr e.profileFile file)).run.result.map fun profiles =>
        profiles.bind fun profiles =>
          (profiles.find? (nonEmptyOr e.profileName name)).bind Profile.region? := by
  rw [lookup]
  unfold profileRegion
  rw [Attempt.result_bind]
  cases (Profiles.load e (nonEmptyOr e.profileFile file)).run.result with
  | error f => rfl
  | ok profiles => rfl

/-- A profile has no region to be used if it has none or an empty one. -/
theorem region?_eq_none_iff (profile : Profile) :
    profile.region? = none ↔
      profile.get? "region" = none ∨ profile.get? "region" = some "" := by
  unfold Profile.region?
  cases profile.get? "region" with
  | none => simp
  | some region => simp [Option.filter_eq_none_iff]

/-- What is read of a file and holds no region is not used. -/
theorem usable?_map_region (profile : Profile) :
    usable? (.ok profile.region?) = profile.region? := by
  cases hregion : profile.region? with
  | none => rfl
  | some region =>
    have hne : region ≠ "" := by
      intro hempty
      have hnone := (region?_eq_none_iff profile).2 (.inr ?_)
      · rw [hnone] at hregion
        cases hregion
      · unfold Profile.region? at hregion
        rw [Option.filter_eq_some_iff] at hregion
        rw [hregion.1, hempty]
    simp [usable?, hne]

/-- **A profile has no region** exactly for one of these reasons. -/
theorem region?_profile_eq_none (name file : Option String) :
    (profile name file).region? e = none ↔
      LacksRegion e (nonEmptyOr e.profileFile file) (nonEmptyOr e.profileName name) := by
  generalize hpath : nonEmptyOr e.profileFile file = path
  generalize hwanted : nonEmptyOr e.profileName name = wanted
  have hresult := result_profile (e := e) name file
  rw [hpath, hwanted] at hresult
  unfold region?
  rw [hresult]
  constructor
  · intro hnone
    -- no file, no text, no profile file, no such profile, or one without a region
    cases hfile : e.files.lookup path with
    | none => exact .missing hfile
    | some content =>
      cases htext : Utf8.decode content with
      | error cause => exact .undecodable hfile htext
      | ok text =>
        have hhas : HasText e path text := ⟨content, hfile, htext⟩
        rw [result_load_text hhas] at hnone
        cases hread : profilesIn path text with
        | error cause => exact .malformed hhas hread
        | ok profiles =>
          cases hname : profiles.find? wanted with
          | none => exact .unknown hhas hread hname
          | some profile =>
            rw [hread] at hnone
            have hregion : usable? (.ok profile.region?) = none := by
              simpa [Except.map, hname] using hnone
            rw [usable?_map_region] at hregion
            exact .empty hhas hread hname ((region?_eq_none_iff profile).1 hregion)
  · intro hlacks
    cases hlacks with
    | missing hfile =>
      unfold Profiles.load
      simp only [hfile]
      rfl
    | undecodable hfile htext =>
      rw [result_load_undecodable hfile htext]
      rfl
    | malformed htext hread =>
      rw [result_load_text htext, hread]
      rfl
    | unknown htext hread hname =>
      rw [result_load_text htext, hread]
      simp [Except.map, hname, usable?]
    | empty htext hread hname hregion =>
      rw [result_load_text htext, hread]
      have hnone := (region?_eq_none_iff _).2 hregion
      simp [Except.map, hname, hnone, usable?]

/-! ### Regions of nested chains -/

/-- **Nested chains are one chain.** A nesting of chains never fails: its region is the first that
one of its leaves has, from left to right, and the records are those of the leaves up to that one.
What follows a leaf with a region makes no difference, nor does the grouping. A profile that lacks a
region, for whatever reason, may be left out, also of the standard chain. -/
theorem lookup_nested (e : Environment) (ps : List RegionProvider) :
    lookup e (.chain ps) = ⟨.ok ((leavesOf ps).findSome? (region? e)),
      (asked e (leavesOf ps)).flatMap (recordsOf e)⟩ ∧
    (∀ before p after, leavesOf ps = before ++ p :: after → (p.region? e).isSome = true →
      lookup e (.chain ps) = lookup e (.chain (before ++ [p]))) ∧
    (∀ qs, leavesOf qs = leavesOf ps → lookup e (.chain qs) = lookup e (.chain ps)) ∧
    (∀ name file before after, leavesOf ps = before ++ profile name file :: after →
      LacksRegion e (nonEmptyOr e.profileFile file) (nonEmptyOr e.profileName name) →
      (lookup e (.chain ps)).result = (lookup e (.chain (before ++ after))).result) ∧
    (LacksRegion e e.profileFile e.profileName →
      (lookup e standard).result = (lookup e (.chain [.override])).result) := by
  have hflat : ∀ qs,
      lookup e (.chain qs) = ⟨.ok (firstOf e qs).result, (firstOf e qs).records⟩ := by
    intro qs
    rw [lookup_chain_leaves, firstOf_leavesOf]
  have hwithout : ∀ name file before after,
      LacksRegion e (nonEmptyOr e.profileFile file) (nonEmptyOr e.profileName name) →
      (firstOf e (before ++ profile name file :: after)).result =
        (firstOf e (before ++ after)).result := by
    intro name file before after hlacks
    have hnone := (region?_profile_eq_none name file).2 hlacks
    rw [firstOf_eq, firstOf_eq, findSome?_without hnone]
  refine ⟨?_, ?_, ?_, ?_, ?_⟩
  · rw [lookup_chain_leaves, firstOf_eq]
  · intro before p after hleaves hregion
    rw [lookup_chain_leaves, hleaves, firstOf_of_region hregion, hflat]
  · intro qs hleaves
    rw [lookup_chain_leaves, lookup_chain_leaves, hleaves]
  · intro name file before after hleaves hlacks
    rw [lookup_chain_leaves, hleaves, hflat, hwithout name file before after hlacks]
  · intro hlacks
    have hresult := hwithout none none [.override] []
    rw [nonEmptyOr_none, nonEmptyOr_none] at hresult
    unfold standard
    rw [hflat, hflat, ← List.append_nil [override], ← hresult hlacks, List.singleton_append]

/-- A failing provider, a file that cannot be decoded and an empty region, two levels deep. -/
theorem lookup_nested_undecodable :
    let e : Environment := ⟨"", [], [("/.aws/config", [0xff])]⟩
    let failing := custom "Failing" (.error .codec)
    let blank := custom "Blank" (.ok (some ""))
    let found := custom "Found" (.ok (some "eu-de"))
    let late := custom "Late" (.ok (some "us-east"))
    let nested := chain [chain [failing, profile none none], chain [chain [blank], found], late]
    (lookup e nested).result = .ok (some "eu-de") ∧
    lookup e nested = lookup e (.chain [failing, profile none none, blank, found]) ∧
    lookup e (.chain [failing, chain [profile none none, blank], found, late]) = lookup e nested ∧
    (lookup e nested).result = (lookup e (.chain [failing, blank, found, late])).result ∧
    (lookup e standard).result = (lookup e (.chain [.override])).result := by
  intro e failing blank found late nested
  have hfile : e.files.lookup e.profileFile = some [0xff] := by decide +kernel
  have htext : Utf8.decode [0xff] = .error ⟨.utf8, 0, 1, 0xff, .invalidStart⟩ := by
    unfold Utf8.decode Utf8.decodeFrom
    rfl
  have hlacks : LacksRegion e e.profileFile e.profileName := .undecodable hfile htext
  have hunnamed :
      LacksRegion e (nonEmptyOr e.profileFile none) (nonEmptyOr e.profileName none) := by
    rw [nonEmptyOr_none, nonEmptyOr_none]
    exact hlacks
  obtain ⟨hlookup, hlate, hgroups, hprofile, hstandard⟩ := lookup_nested e
    [chain [failing, profile none none], chain [chain [blank], found], late]
  refine ⟨?_, hlate [failing, profile none none, blank] found [late] rfl rfl,
    hgroups [failing, chain [profile none none, blank], found, late] rfl,
    hprofile none none [failing] [blank, found, late] rfl hunnamed, hstandard hlacks⟩
  have hnone : (profile none none).region? e = none :=
    (region?_profile_eq_none none none).2 hunnamed
  have hleaves : leavesOf [chain [failing, profile none none], chain [chain [blank], found], late] =
      [failing, profile none none, blank, found, late] := rfl
  have hfailing : failing.region? e = none := rfl
  have hblank : blank.region? e = none := rfl
  have hfound : found.region? e = some "eu-de" := rfl
  rw [hlookup, hleaves]
  simp only [List.findSome?_cons, hfailing, hnone, hblank, hfound]

end ServiceClient.RegionProvider
