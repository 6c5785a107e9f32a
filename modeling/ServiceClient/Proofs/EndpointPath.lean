import ServiceClient.Proofs.UrlReading

/-!
# Paths at an endpoint

The path of a request is the path of the endpoint, followed by the template of the operation with
its placeholders replaced.

* `EndpointText`: an endpoint with a base path of segments.
* `PathTemplate.fill_slashes`: when a filled template starts with two slashes.
* `EndpointText.LosesPath`: when the whole path does.
* `Operation.parts_path`: the path that the parts of a request have.
* `Operation.hasAddress_of_path`: a path has an address unless it starts with two slashes.
-/

namespace ServiceClient

open PathTemplate (isPathChar)

/-- An endpoint: scheme and host, and a base path of segments with slashes at its end. -/
structure EndpointText where
  scheme : List Char
  host : List Char
  segments : List (List Char)
  /-- The number of slashes at the end. -/
  slashes : Nat
  isScheme : Url.IsSchemeText scheme
  isHost : Url.IsHostText host
  isSegment : ∀ s ∈ segments, s ≠ [] ∧ ∀ c ∈ s, Percent.isUnreserved c = true

namespace EndpointText

/-- The base path without slashes at its end. -/
def base (e : EndpointText) : List Char := e.segments.flatMap fun s => '/' :: s

def text (e : EndpointText) : String :=
  String.ofList (e.scheme ++ ':' :: '/' :: '/' ::
    (e.host ++ (e.base ++ List.replicate e.slashes '/')))

variable {e : EndpointText}

theorem isPathChar_base : ∀ c ∈ e.base, isPathChar c = true := by
  intro c hc
  obtain ⟨s, hs, hc⟩ := List.mem_flatMap.1 hc
  unfold isPathChar
  rcases List.mem_cons.1 hc with rfl | hc
  · decide
  · rw [(e.isSegment s hs).2 c hc]
    rfl

theorem isPathChar_path : ∀ c ∈ e.base ++ List.replicate e.slashes '/', isPathChar c = true := by
  intro c hc
  rcases List.mem_append.1 hc with hc | hc
  · exact isPathChar_base c hc
  · rw [(List.mem_replicate.1 hc).2]
    decide

/-- A base path that is not empty starts with a segment, which does not start with a slash. -/
theorem base_eq : e.segments = [] ∧ e.base = [] ∨
    ∃ c rest, e.base = '/' :: c :: rest ∧ c ≠ '/' := by
  unfold base
  cases hs : e.segments with
  | nil => exact .inl ⟨rfl, rfl⟩
  | cons s segments =>
    obtain ⟨hne, hs⟩ := e.isSegment s (by rw [hs]; exact List.mem_cons_self)
    cases s with
    | nil => exact absurd rfl hne
    | cons c s =>
      refine .inr ⟨c, _, rfl, ?_⟩
      rintro rfl
      exact absurd (hs '/' List.mem_cons_self) (by decide)

theorem path_slash : e.base ++ List.replicate e.slashes '/' = [] ∨
    (e.base ++ List.replicate e.slashes '/').head? = some '/' := by
  rcases e.base_eq with ⟨-, hbase⟩ | ⟨c, rest, hbase, -⟩
  · rw [hbase, List.nil_append]
    cases e.slashes with
    | zero => exact .inl rfl
    | succ n => exact .inr rfl
  · rw [hbase]
    exact .inr rfl

/-- The base path ends with a segment. -/
theorem dropFinalSlashes_base :
    Marshalling.dropFinalSlashes (String.ofList (e.base ++ List.replicate e.slashes '/')) =
      String.ofList e.base := by
  -- the last segment is not empty, and has no slash at its end
  have hlast : e.base.reverse.dropWhile (· = '/') = e.base.reverse := by
    have hseg := e.isSegment
    unfold base
    rcases List.eq_nil_or_concat e.segments with hnil | ⟨front, s, hs⟩
    · rw [hnil]
      rfl
    · rw [hs] at hseg ⊢
      obtain ⟨hne, hchars⟩ := hseg s (by simp)
      obtain ⟨c, rest, hrev⟩ := List.exists_cons_of_ne_nil (List.reverse_ne_nil_iff.2 hne)
      have hc : ¬ decide (c = '/') = true := by
        rw [decide_eq_true_eq]
        rintro rfl
        have hmem : '/' ∈ s := List.mem_reverse.1 (by rw [hrev]; exact List.mem_cons_self)
        exact absurd (hchars '/' hmem) (by decide)
      rw [List.concat_eq_append, List.flatMap_append, List.flatMap_singleton, List.reverse_append,
        List.reverse_cons, hrev, List.cons_append, List.cons_append,
        List.dropWhile_cons_of_neg (p := fun c => decide (c = '/')) hc]
  unfold Marshalling.dropFinalSlashes
  rw [String.toList_ofList, List.reverse_append, List.reverse_replicate,
    List.dropWhile_append_of_pos, hlast, List.reverse_reverse]
  intro c hc
  rw [(List.mem_replicate.1 hc).2]
  rfl

end EndpointText

namespace PathTemplate

/-- A template that starts with one slash. -/
def IsRooted (t : PathTemplate) : Prop :=
  ∃ rest, t = .literal '/' :: rest ∧ rest.head? ≠ some (.literal '/')

/-- A placeholder behind the slash in front has a value whose slashes stay, and which starts with
one. -/
def Opens (values : Values) (t : PathTemplate) : Prop :=
  ∃ name rest s, t = .literal '/' :: .parameter name :: rest ∧
    values.lookup name = some (true, s) ∧ s.toList.head? = some '/'

variable {values : Values} {t : PathTemplate}

theorem head?_fill (ht : t.IsRooted) : (fill values t).head? = some '/' := by
  obtain ⟨rest, rfl, -⟩ := ht
  rfl

/-- **A filled template starts with two slashes** exactly if a value makes it so. -/
theorem fill_slashes (hroot : t.IsRooted) (hne : ∀ p ∈ values, p.2.2 ≠ "")
    (hbound : ∀ name, .parameter name ∈ t → (values.lookup name).isSome) :
    (∃ s, fill values t = '/' :: '/' :: s) ↔ t.Opens values := by
  obtain ⟨rest, rfl, hsingle⟩ := hroot
  -- one slash is there; the other one can only come from what stands behind it
  have hfill : (∃ s, fill values (.literal '/' :: rest) = '/' :: '/' :: s) ↔
      (fill values rest).head? = some '/' := by
    rw [fill, List.head?_eq_some_iff]
    exact exists_congr fun s => ⟨fun h => (List.cons.inj h).2, fun h => by rw [h]⟩
  rw [hfill]
  unfold Opens
  cases rest with
  | nil =>
    refine ⟨fun h => (by cases h), ?_⟩
    rintro ⟨name, rest, s, ht, -⟩
    cases ht
  | cons piece rest =>
    cases piece with
    | literal c =>
      constructor
      · intro h
        cases h
        exact absurd rfl hsingle
      · rintro ⟨name, rest, s, ht, -⟩
        cases ht
    | parameter name =>
      -- the value is not empty, so that it starts what stands behind the slash
      obtain ⟨⟨greedy, s⟩, hv⟩ := Option.isSome_iff_exists.1 (hbound name (by simp))
      have hhead : (fill values (.parameter name :: rest)).head? = some '/' ↔
          greedy = true ∧ s.toList.head? = some '/' := by
        have hs : s ≠ "" := by
          obtain ⟨front, back, hvalues, -⟩ := List.lookup_eq_some_iff.1 hv
          exact hne (name, greedy, s) (by rw [hvalues]; simp)
        have hescaped : (escaped (greedy, s)).toList ≠ [] := Percent.encode_ne_nil hs
        have hslash : (escaped (greedy, s)).toList.head? = some '/' ↔
            Binding.keepsInPath greedy '/' = true ∧ s.toList.head? = some '/' :=
          Percent.encode_slash
        have hsafe : Binding.keepsInPath greedy '/' = greedy := Bool.and_true greedy
        have hfill : fill values (.parameter name :: rest) =
            (escaped (greedy, s)).toList ++ fill values rest := by
          rw [fill, hv]
          rfl
        obtain ⟨c, cs, hcons⟩ := List.exists_cons_of_ne_nil hescaped
        rw [hsafe, hcons] at hslash
        rw [hfill, hcons]
        exact hslash
      rw [hhead]
      constructor
      · rintro ⟨rfl, hs⟩
        exact ⟨name, rest, s, rfl, hv, hs⟩
      · rintro ⟨name', rest', s', ht, hv', hs'⟩
        cases ht
        rw [hv] at hv'
        cases hv'
        exact ⟨rfl, hs'⟩

end PathTemplate

namespace EndpointText

variable {e : EndpointText} {values : PathTemplate.Values} {t : PathTemplate}

/-- The base path and the filled template behind it. -/
def pathChars (e : EndpointText) (values : PathTemplate.Values) (t : PathTemplate) : List Char :=
  e.base ++ t.fill values

/-- The path that a template has at an endpoint. -/
def path (e : EndpointText) (values : PathTemplate.Values) (t : PathTemplate) : String :=
  String.ofList (e.pathChars values t)

/-- There is no base path, and a value makes the template start with two slashes. -/
def LosesPath (e : EndpointText) (values : PathTemplate.Values) (t : PathTemplate) : Prop :=
  e.segments = [] ∧ t.Opens values

theorem isPathChar_pathChars (ht : t.IsPlain) :
    ∀ c ∈ e.pathChars values t, isPathChar c = true := by
  intro c hc
  rcases List.mem_append.1 hc with hc | hc
  · exact e.isPathChar_base c hc
  · exact PathTemplate.mem_fill ht c hc

theorem head?_pathChars (ht : t.IsRooted) : (e.pathChars values t).head? = some '/' := by
  unfold pathChars
  rcases e.base_eq with ⟨-, hbase⟩ | ⟨c, rest, hbase, -⟩
  · rw [hbase, List.nil_append, PathTemplate.head?_fill ht]
  · rw [hbase]
    rfl

/-- Two slashes stand in front of a path exactly if it has no base and a value starts with one. -/
theorem pathChars_slashes (ht : t.IsRooted) (hne : ∀ p ∈ values, p.2.2 ≠ "")
    (hbound : ∀ name, .parameter name ∈ t → (values.lookup name).isSome) :
    (∃ s, e.pathChars values t = '/' :: '/' :: s) ↔ e.LosesPath values t := by
  unfold pathChars LosesPath
  rcases e.base_eq with ⟨hnil, hbase⟩ | ⟨c, rest, hbase, hc⟩
  · rw [hbase, List.nil_append, PathTemplate.fill_slashes ht hne hbound]
    exact (and_iff_right hnil).symm
  · rw [hbase]
    constructor
    · rintro ⟨s, hs⟩
      cases hs
      exact absurd rfl hc
    · rintro ⟨hnil, -⟩
      rw [base, hnil] at hbase
      cases hbase

end EndpointText

/-- A path that starts with one slash can be read as the path of a URL. -/
theorem RequestParts.pathReads_of_path {p : RequestParts} {s : List Char}
    (hpath : p.path = String.ofList s) (hs : ∀ c ∈ s, isPathChar c = true)
    (hslash : s.head? = some '/') (hsingle : ¬ ∃ t, s = '/' :: '/' :: t) :
    ∃ plain, p.PathReads plain := by
  have hend : Url.EndsPath [] := .inl rfl
  obtain ⟨u, hu, -, htarget⟩ := Url.parse_path hs hslash hend
  rw [List.append_nil, ← hpath] at hu
  rw [Url.takeAuthority_eq_self.2 hsingle] at htarget
  obtain ⟨plain, hplain⟩ := Url.normalize_path hs hslash hsingle
  refine ⟨plain, ?_, u, hu, ?_⟩
  · rw [hpath, String.toList_ofList]
    exact fun hmem => absurd (hs '?' hmem) (by decide)
  · rw [htarget]
    exact hplain

namespace Operation

/-- Scheme, host and port of an endpoint can be those of a request. -/
def HasHost (o : Operation) (endpoint : String) : Prop :=
  ∃ target, Url.parse endpoint = .ok target ∧ ∃ port, target.port? = .ok port ∧
    ∃ base, (o.parts "/" "" target port [] .null).BaseReads base

variable {o : Operation} {path : String} {s : List Char} {e : EndpointText} {target : Url}

/-- The path at an endpoint follows the base path of the endpoint. -/
theorem parts_path (hpath : path = String.ofList s) (hslash : s.head? = some '/')
    (ht : Url.parse e.text = .ok target) (query : String) (port : Option Nat) (headers : Headers)
    (body : Value) :
    (o.parts path query target port headers body).path = String.ofList (e.base ++ s) := by
  obtain ⟨htarget, -, -⟩ := Url.parse_endpoint e.isScheme e.isHost e.isPathChar_path e.path_slash ht
  obtain ⟨rest, rfl⟩ := List.head?_eq_some_iff.1 hslash
  have hcons : path.toList = '/' :: rest := by rw [hpath, String.toList_ofList]
  show Marshalling.joinPath target.path path = _
  rw [Marshalling.joinPath_of_slash hcons, htarget, e.dropFinalSlashes_base, hpath,
    String.ofList_append]

/-- **A path has an address** wherever there is a host, unless it starts with two slashes. -/
theorem hasAddress_of_path (hpath : path = String.ofList s) (hslash : s.head? = some '/')
    (hs : ∀ c ∈ e.base ++ s, isPathChar c = true) (hhead : (e.base ++ s).head? = some '/')
    (hsingle : ¬ ∃ t, e.base ++ s = '/' :: '/' :: t) (hhost : o.HasHost e.text) :
    o.HasAddress path e.text := by
  obtain ⟨target, ht, port, hport, base, hbase⟩ := hhost
  have hparts := parts_path (o := o) hpath hslash ht "" port [] .null
  have hreads := RequestParts.pathReads_of_path hparts hs hhead hsingle
  exact ⟨target, ht, port, hport, hreads, base, hbase⟩

end Operation

end ServiceClient
