import ServiceClient.Profiles

/-!
# Regions

The region of a client is looked up with providers: a variable, a profile, a provider that the
caller supplies, or several of them in turn.

* `RegionProvider.lookup`: the region of a provider.
* `RegionProvider.firstOf`: the first region of several; providers that fail are passed over.
* `RegionProvider.standard`: the variable first, then the active profile.
-/

namespace ServiceClient

/-- Where a region comes from. -/
inductive RegionProvider
  /-- The variable that overrides all other sources. -/
  | override
  /-- A profile of a file; those of the environment if they are not named. -/
  | profile (name file : Option String)
  /-- A provider of the caller with its name. -/
  | custom (name : String) (outcome : Except Failure (Option String))
  | chain (providers : List RegionProvider)
deriving Inhabited

namespace RegionProvider

/-- The provider's name in log records. -/
def label : RegionProvider → String
  | override => "AwsEnvVarOverrideRegionProvider"
  | profile .. => "AwsProfileRegionProvider"
  | custom name _ => name
  | chain _ => "AwsRegionProviderChain"

/-- The region of a profile in a file. -/
def profileRegion (e : Environment) (name file : Option String) : Attempt (Option String) := do
  let profiles ← Profiles.load e (nonEmptyOr e.profileFile file)
  return do (← (← profiles).find? (nonEmptyOr e.profileName name)).region?

/-- A region that is not empty. -/
def usable? : Except Failure (Option String) → Option String
  | .ok (some region) => if region.isEmpty then none else some region
  | _ => none

/-- Reports a provider that failed. -/
def reportFailure (p : RegionProvider) : Except Failure (Option String) → Logged Unit
  | .ok _ => return ()
  | .error f => Logged.report (.debug .regions
      ("Unable to load region from " ++ p.label ++ ": " ++ f.message))

mutual

/-- The region of a provider, if it has one. -/
def lookup (e : Environment) : RegionProvider → Logged (Except Failure (Option String))
  | .override => return .ok e.region?
  | .profile name file => (profileRegion e name file).run
  | .custom _ outcome => return outcome
  | .chain providers => do return .ok (← firstOf e providers)

/-- The region of the first provider that has one. Providers that fail are reported and passed
over, and those after the first with a region are not asked. -/
def firstOf (e : Environment) : List RegionProvider → Logged (Option String)
  | [] => return none
  | p :: rest => do
    let outcome ← lookup e p
    reportFailure p outcome
    match usable? outcome with
    | some region => return some region
    | none => firstOf e rest

end

/-- The variable first, then the active profile. -/
def standard : RegionProvider := .chain [.override, .profile none none]

end RegionProvider

end ServiceClient
