import ServiceClient.Proofs.Areas
import ServiceClient.Proofs.Requests

/-!
# How putting a request together fails

The client has failures of its own, and lets through those of the parts that it is built from.

* `Failure.isClientError`: the client's own failures.
* `Marshalling.finishHeaders_ok`: the headers can be sent unless one of them has a line break, or
  the body has no length.
* `Marshalling.assemble_clientError`: the client's own failure is that of the path.
* `Marshalling.assemble_foreign`: all other failures, at an endpoint with a host.
* `Marshalling.addMembers_clean`: the headers that members leave have no line breaks.
-/

namespace ServiceClient

/-- The failures that the client raises as its own, those of a checksum included. -/
def Failure.isClientError : Failure → Bool
  | .misuse (.unusableName _) => false
  | .misuse _ | .unsupportedLocation _ | .emptyPathParameter _ | .missingPathParameter _
  | .missingRequest | .marshalling _ | .unmarshalling .. | .transport _ | .noRegion
  | .blankProfileName _ | .reported _ | .checksum .. => true
  | _ => false

/-- A step that has no failure of the client's own. -/
def IsForeign {α : Type} (x : Except Failure α) : Prop :=
  ∀ f, x = .error f → f.isClientError = false

namespace IsForeign

variable {α β : Type}

theorem ok (a : α) : IsForeign (.ok a) := by
  intro f h
  cases h

theorem error {f : Failure} (h : f.isClientError = false) :
    IsForeign (.error f : Except Failure α) := by
  intro g hg
  rw [← Except.error.inj hg]
  exact h

theorem bind {x : Except Failure α} {f : α → Except Failure β} (hx : IsForeign x)
    (hf : ∀ a, IsForeign (f a)) : IsForeign (x >>= f) := by
  intro e h
  rcases bind_eq_error.1 h with h | ⟨a, -, h⟩
  · exact hx e h
  · exact hf a e h

theorem mapError {ε : Type} {x : Except ε α} {f : ε → Failure}
    (hf : ∀ e, (f e).isClientError = false) : IsForeign (x.mapError f) := by
  intro g h
  obtain ⟨cause, -, rfl⟩ := mapError_eq_error.1 h
  exact hf cause

theorem ite {p : Prop} [Decidable p] {x y : Except Failure α} (hx : IsForeign x)
    (hy : IsForeign y) : IsForeign (if p then x else y) := by
  split
  · exact hx
  · exact hy

end IsForeign

namespace Url

theorem isForeign_checkAddress (address : List Char) : IsForeign (checkAddress address) := by
  unfold checkAddress
  exact .ite (.ite (.ok _) (.error rfl)) (.ite (.ok _) (.ite (.error rfl) (.error rfl)))

theorem isForeign_checkBrackets (authority : List Char) : IsForeign (checkBrackets authority) := by
  unfold checkBrackets
  exact .ite (.error rfl) (.ite (isForeign_checkAddress _) (.ok _))

theorem isForeign_checkMarks (authority : List Char) : IsForeign (checkMarks authority) := by
  unfold checkMarks
  exact .ite (.error rfl) (.ok _)

theorem isForeign_parse (url : String) : IsForeign (parse url) :=
  .bind (isForeign_checkBrackets _) fun _ => .bind (isForeign_checkMarks _) fun _ => .ok _

theorem isForeign_port (u : Url) : IsForeign u.port? := by
  unfold port?
  exact .ite (.ok _) (.ite (.ite (.error rfl) (.ite (.ok _) (.error rfl))) (.error rfl))

theorem isForeign_normalize (url : String) : IsForeign (normalize url) := by
  exact .bind (isForeign_parse url) fun u => .bind (.mapError fun _ => rfl) fun host =>
    .bind u.isForeign_port fun _ => .ok _

end Url

namespace Headers

variable {h : Headers} {name value : Text}

theorem set_eq_error {f : Failure} :
    h.set name value = .error f ↔ isValue value = false ∧ f = .headerLineBreak := by
  unfold set
  by_cases hv : isValue value = true
  · rw [if_pos hv, hv]
    exact ⟨fun he => (by cases he), fun he => (by cases he.1)⟩
  · rw [if_neg hv, Bool.eq_false_iff.2 hv]
    exact ⟨fun he => ⟨rfl, (Except.error.inj he).symm⟩, fun he => by rw [he.2]⟩

theorem isForeign_set : IsForeign (h.set name value) := by
  intro f hf
  rw [(set_eq_error.1 hf).2]
  rfl

theorem get?_cons {other n v : Text} {g : Headers} :
    get? other ((n, v) :: g) = if sameName n other = true then some v else get? other g := by
  unfold get?
  rw [List.find?_cons]
  cases sameName n other with
  | true => rfl
  | false => rfl

theorem contains_eq {other : Text} : h.contains other = (h.get? other).isSome := by
  unfold contains get?
  rw [Option.isSome_map, List.isSome_find?]

/-- Spellings of one name have one header. -/
theorem get?_congr {a b : Text} (hsame : sameName a b = true) : h.get? a = h.get? b := by
  unfold get?
  congr 2
  funext e
  rw [sameName_comm, sameName_comm e.1, sameName_congr hsame]

theorem contains_congr {a b : Text} (hsame : sameName a b = true) :
    h.contains a = h.contains b := by
  rw [contains_eq, contains_eq, get?_congr hsame]

/-- The header that is put is the first one of its name. -/
theorem get?_put : get? name (h.put name value) = some value := by
  induction h with
  | nil => exact get?_cons.trans (if_pos (sameName_self name))
  | cons e rest ih =>
    rw [put]
    split
    · rw [get?_cons, if_pos (sameName_self name)]
    · rename_i hn
      rw [get?_cons, if_neg hn, ih]

/-- Putting a header leaves the first one of another name. -/
theorem get?_put_of_ne {other : Text} (hne : sameName name other = false) :
    get? other (h.put name value) = get? other h := by
  -- a header of the name is none of the other name
  have hother : ∀ n, sameName n name = true → sameName n other = false := by
    intro n hn
    rw [sameName_congr hn]
    exact hne
  have herase : ∀ g : Headers, get? other (g.erase name) = get? other g := by
    intro g
    unfold erase get?
    rw [List.find?_filter]
    congr 2
    funext e
    by_cases hn : sameName e.1 name = true
    · rw [hn, hother e.1 hn]
      rfl
    · simp [hn]
  induction h with
  | nil => exact get?_cons.trans (if_neg (by rw [hne]; decide))
  | cons e rest ih =>
    rw [put]
    split
    · rename_i hn
      rw [get?_cons, get?_cons, hne, hother _ hn, herase, if_neg (by decide), if_neg (by decide)]
    · rw [get?_cons, get?_cons, ih]

/-- Putting a header leaves those of other names. -/
theorem contains_put {other : Text} (hne : sameName name other = false) :
    contains other (h.put name value) = contains other h := by
  rw [contains_eq, contains_eq, get?_put_of_ne hne]

/-- Putting a header leaves those of other names, and that one. -/
theorem mem_put {e : Text × Text} :
    e ∈ h.put name value ↔ e = (name, value) ∨ e ∈ h ∧ sameName e.1 name = false := by
  induction h with
  | nil => simp [put]
  | cons p rest ih =>
    obtain ⟨n, v⟩ := p
    rw [put]
    by_cases hn : sameName n name = true
    · rw [if_pos hn, List.mem_cons, List.mem_cons]
      unfold erase
      rw [List.mem_filter, Bool.not_eq_true']
      constructor
      · rintro (he | ⟨he, hne⟩)
        · exact .inl he
        · exact .inr ⟨.inr he, hne⟩
      · rintro (he | ⟨rfl | he, hne⟩)
        · exact .inl he
        · rw [hn] at hne
          cases hne
        · exact .inr ⟨he, hne⟩
    · rw [if_neg hn, List.mem_cons, List.mem_cons, ih]
      constructor
      · rintro (rfl | he | ⟨he, hne⟩)
        · exact .inr ⟨.inl rfl, Bool.eq_false_iff.2 hn⟩
        · exact .inl he
        · exact .inr ⟨.inr he, hne⟩
      · rintro (he | ⟨rfl | he, hne⟩)
        · exact .inr (.inl he)
        · exact .inl rfl
        · exact .inr (.inr ⟨he, hne⟩)

/-- Headers whose values have no line breaks. -/
def IsClean (h : Headers) : Prop := ∀ e ∈ h, isValue e.2 = true

/-- A header that is set leaves the headers without line breaks. -/
theorem IsClean.set {g : Headers} (hclean : h.IsClean) (hg : h.set name value = .ok g) :
    g.IsClean := by
  unfold Headers.set at hg
  split at hg
  · rename_i hv
    rw [← Except.ok.inj hg]
    intro e he
    rcases mem_put.1 he with rfl | ⟨he, -⟩
    · exact hv
    · exact hclean e he
  · cases hg

end Headers

namespace Marshalling

variable {m : Marshalling} {body : Value}

/-- The type of the body or the name of the operation is sent and has a line break. -/
def BreaksHeader (m : Marshalling) : Prop :=
  (∃ type, m.contentType = some type ∧ m.headers.contains "Content-Type" = false ∧
    m.writer.isSilent = false ∧ Headers.isValue type = false) ∨
  Headers.isValue m.operation.target = false

/-- The length of a body can be told, unless the body is sent as nothing. -/
def HasLength (body : Value) : Prop := body.isFalsy = true ∨ ∃ n, length? body = some n

theorem lengthHeader_ok :
    (∃ h, m.lengthHeader body = .ok h) ↔ HasLength body := by
  unfold lengthHeader HasLength
  by_cases hfalsy : body.isFalsy = true
  · rw [if_pos hfalsy]
    exact ⟨fun _ => .inl hfalsy, fun _ => ⟨_, rfl⟩⟩
  · rw [if_neg hfalsy]
    cases hlength : length? body with
    | none =>
      constructor
      · rintro ⟨h, hh⟩
        cases hh
      · rintro (h | ⟨n, h⟩)
        · exact absurd h hfalsy
        · cases h
    | some n =>
      have hset : m.headers.set "Content-Length" (toString n) =
          .ok (m.headers.put "Content-Length" (toString n)) := by
        unfold Headers.set
        exact if_pos (Headers.isValue_toString n)
      exact ⟨fun _ => .inr ⟨n, rfl⟩, fun _ => ⟨_, hset⟩⟩

/-- The length is no type. -/
theorem contains_lengthHeader {h : Headers} (hh : m.lengthHeader body = .ok h) :
    h.contains "Content-Type" = m.headers.contains "Content-Type" := by
  unfold lengthHeader at hh
  split at hh
  · rw [Except.ok.inj hh]
  split at hh
  · unfold Headers.set at hh
    split at hh
    · rw [← Except.ok.inj hh]
      exact Headers.contains_put (by decide)
    · cases hh
  · cases hh

theorem typeHeader_ok {h : Headers} : (∃ g, m.typeHeader h = .ok g) ↔
    ¬ ∃ type, m.contentType = some type ∧ h.contains "Content-Type" = false ∧
      m.writer.isSilent = false ∧ Headers.isValue type = false := by
  unfold typeHeader
  cases htype : m.contentType with
  | none =>
    refine ⟨fun _ => ?_, fun _ => ⟨h, rfl⟩⟩
    rintro ⟨type, ht, -⟩
    cases ht
  | some type =>
    dsimp only
    by_cases hleft : (h.contains "Content-Type" || type.isEmpty || m.writer.isSilent) = true
    · rw [if_pos hleft]
      refine ⟨fun _ => ?_, fun _ => ⟨h, rfl⟩⟩
      rintro ⟨type', ht, hcontains, hsilent, hvalue⟩
      cases ht
      rw [hcontains, hsilent, Bool.false_or, Bool.or_false, String.isEmpty_iff] at hleft
      rw [hleft] at hvalue
      cases hvalue
    · rw [if_neg hleft]
      rw [Bool.not_eq_true, Bool.or_eq_false_iff, Bool.or_eq_false_iff] at hleft
      obtain ⟨⟨hcontains, -⟩, hsilent⟩ := hleft
      unfold Headers.set
      by_cases hv : Headers.isValue type = true
      · rw [if_pos hv]
        refine ⟨fun _ => ?_, fun _ => ⟨_, rfl⟩⟩
        rintro ⟨type', ht, -, -, hvalue⟩
        cases ht
        rw [hv] at hvalue
        cases hvalue
      · rw [if_neg hv]
        constructor
        · rintro ⟨g, hg⟩
          cases hg
        · intro hnone
          exact absurd ⟨type, rfl, hcontains, hsilent, Bool.eq_false_iff.2 hv⟩ hnone

theorem targetHeader_ok {h : Headers} :
    (∃ g, m.targetHeader h = .ok g) ↔ ¬ Headers.isValue m.operation.target = false := by
  unfold targetHeader Headers.set
  by_cases hempty : m.operation.target.isEmpty = true
  · have hv : Headers.isValue m.operation.target = true := by
      rw [String.isEmpty_iff.1 hempty]
      rfl
    rw [if_pos hempty, hv]
    exact ⟨fun _ => by decide, fun _ => ⟨h, rfl⟩⟩
  · rw [if_neg hempty]
    by_cases hv : Headers.isValue m.operation.target = true
    · rw [if_pos hv, hv]
      exact ⟨fun _ => by decide, fun _ => ⟨_, rfl⟩⟩
    · rw [if_neg hv, Bool.eq_false_iff.2 hv]
      constructor
      · rintro ⟨g, hg⟩
        cases hg
      · intro h
        exact absurd rfl h

/-- **The headers of a request can be sent** unless the body has no length, or its type or the
name of the operation has a line break. -/
theorem finishHeaders_ok :
    (∃ h, m.finishHeaders body = .ok h) ↔ HasLength body ∧ ¬ m.BreaksHeader := by
  rw [finishHeaders_eq]
  simp only [bind_eq_ok]
  unfold BreaksHeader
  rw [not_or]
  constructor
  · rintro ⟨h, g, ⟨l, hl, hg⟩, hh⟩
    have htype := typeHeader_ok.1 ⟨g, hg⟩
    rw [contains_lengthHeader hl] at htype
    exact ⟨lengthHeader_ok.1 ⟨l, hl⟩, htype, targetHeader_ok.1 ⟨h, hh⟩⟩
  · rintro ⟨hlength, htype, htarget⟩
    obtain ⟨l, hl⟩ := lengthHeader_ok.2 hlength
    rw [← contains_lengthHeader hl] at htype
    obtain ⟨g, hg⟩ := typeHeader_ok.2 htype
    obtain ⟨h, hh⟩ := (targetHeader_ok (h := g)).2 htarget
    exact ⟨h, g, ⟨l, hl, hg⟩, hh⟩

theorem isForeign_finishHeaders : IsForeign (m.finishHeaders body) := by
  rw [finishHeaders_eq]
  refine .bind (.bind ?_ fun h => ?_) fun h => .ite (.ok _) Headers.isForeign_set
  · unfold lengthHeader
    refine .ite (.ok _) ?_
    split
    · exact Headers.isForeign_set
    · exact .error rfl
  · unfold typeHeader
    split
    · exact .ite (.ok _) Headers.isForeign_set
    · exact .ok _

/-- Headers that are finished have no line breaks if those of members have none. -/
theorem finishHeaders_clean (hclean : m.headers.IsClean) {h : Headers}
    (hh : m.finishHeaders body = .ok h) : h.IsClean := by
  rw [finishHeaders_eq] at hh
  obtain ⟨g, hg, hh⟩ := bind_eq_ok.1 hh
  obtain ⟨l, hl, hg⟩ := bind_eq_ok.1 hg
  have hlclean : l.IsClean := by
    unfold lengthHeader at hl
    split at hl
    · rw [← Except.ok.inj hl]
      exact hclean
    split at hl
    · exact hclean.set hl
    · cases hl
  have hgclean : g.IsClean := by
    unfold typeHeader at hg
    split at hg
    · split at hg
      · rw [← Except.ok.inj hg]
        exact hlclean
      · exact hlclean.set hg
    · rw [← Except.ok.inj hg]
      exact hlclean
  unfold targetHeader at hh
  split at hh
  · rw [← Except.ok.inj hh]
    exact hgclean
  · exact hgclean.set hh

/-! ### Headers of members -/

theorem put_clean (p : Part) (hclean : m.headers.IsClean) : (m.put p).2.headers.IsClean := by
  cases p with
  | header name value =>
    cases hset : m.headers.set name value with
    | ok headers =>
      have hput : m.put (.header name value) = (.ok (), { m with headers := headers }) := by
        simp only [put, hset]
      rw [hput]
      exact hclean.set hset
    | error f =>
      have hput : m.put (.header name value) = (.error f, m) := by simp only [put, hset]
      rw [hput]
      exact hclean
  | _ => exact hclean

theorem putAll_clean (parts : List Part) (hclean : m.headers.IsClean) :
    (m.putAll parts).2.headers.IsClean := by
  induction parts generalizing m with
  | nil => exact hclean
  | cons p rest ih =>
    have hp := put_clean p hclean
    rw [putAll]
    split
    · rename_i heq
      rw [heq] at hp
      exact ih hp
    · rename_i heq
      rw [heq] at hp
      exact hp

/-- Members leave headers without line breaks. -/
theorem addMembers_clean {bindings : List Binding} {request : Value} {m' : Marshalling}
    (h : addMembers bindings request m = .ok m') (hclean : m.headers.IsClean) :
    m'.headers.IsClean := by
  induction bindings generalizing m with
  | nil =>
    rw [← Except.ok.inj h]
    exact hclean
  | cons b rest ih =>
    obtain ⟨v, -, h⟩ := bind_eq_ok.1 h
    have hadd : (m.add b v).2.headers.IsClean := by
      have hparts := putAll_clean (m.contributionOf b v).parts hclean
      unfold add contribute
      split
      · rename_i heq _
        rw [heq] at hparts
        exact hparts
      · exact hparts
    obtain ⟨u, -, h⟩ := bind_eq_ok.1 h
    exact ih h hadd

end Marshalling

namespace PathTemplate

/-- A template that is not expanded has a parameter without a value. -/
theorem expandChars_eq_error {parameters : List (String × String)} {t : PathTemplate}
    {f : Failure} (h : expandChars parameters t = .error f) :
    ∃ name, .parameter name ∈ t ∧ f = .missingPathParameter name := by
  induction t with
  | nil => cases h
  | cons piece rest ih =>
    have hrest : expandChars parameters rest = .error f →
        ∃ name, .parameter name ∈ piece :: rest ∧ f = .missingPathParameter name := by
      intro h
      obtain ⟨name, hname, hf⟩ := ih h
      exact ⟨name, List.mem_cons_of_mem _ hname, hf⟩
    cases piece with
    | literal c =>
      rw [expandChars] at h
      rcases bind_eq_error.1 h with h | ⟨tail, -, h⟩
      · exact hrest h
      · cases h
    | parameter name =>
      rw [expandChars] at h
      split at h
      · exact ⟨name, List.mem_cons_self, (Except.error.inj h).symm⟩
      · rcases bind_eq_error.1 h with h | ⟨tail, -, h⟩
        · exact hrest h
        · cases h

end PathTemplate

theorem isForeign_displayed (v : Value) : IsForeign v.displayed := by
  unfold Value.displayed
  split
  · exact .ok _
  · exact .error rfl

theorem isForeign_utf8Of (t : Text) : IsForeign (utf8Of t) := .mapError fun _ => rfl

theorem isForeign_toBytes (v : Value) : IsForeign (toBytes .utf8 .refuse v) := by
  unfold toBytes
  split
  · exact .mapError fun _ => rfl
  · exact .ok _

namespace Form

theorem isForeign_component (v : Value) : IsForeign (component v) := by
  unfold component
  dsimp only
  split
  · exact .bind (.ok _) fun _ => .ok _
  · exact .bind (isForeign_displayed _) fun t => .bind (isForeign_utf8Of t) fun _ => .ok _

theorem isForeign_pairs (entries : List (Value × Value)) : IsForeign (pairs entries) := by
  induction entries with
  | nil => exact .ok _
  | cons e rest ih =>
    exact .bind (isForeign_component _) fun _ => .bind (isForeign_component _) fun _ =>
      .bind ih fun _ => .ok _

theorem isForeign_attachAll (parts : Multipart) (entries : List (Value × Value)) :
    IsForeign (attachAll parts entries) := by
  induction entries with
  | nil => exact .ok _
  | cons e rest ih => exact .bind (.mapError fun _ => rfl) fun _ => ih

theorem isForeign_write (parts : Multipart) (entries : List (Value × Value)) (headers : Headers) :
    IsForeign (write parts entries headers) := by
  unfold write encode
  refine .bind (isForeign_attachAll parts _) fun _ => .ite ?_ (.ite ?_ (.ok _))
  · exact .bind (.mapError fun _ => rfl) fun _ => .ok _
  · exact .bind (.bind (isForeign_pairs _) fun _ => .ok _) fun _ => .ok _

end Form

namespace Request

theorem isForeign_bodyOf (parts : Multipart) (body : Value) (headers : Headers) :
    IsForeign (bodyOf parts body headers) := by
  unfold bodyOf
  refine .ite (Form.isForeign_write _ _ _) ?_
  split
  · exact .ok _
  · exact Form.isForeign_write _ _ _
  · exact .error rfl

theorem isForeign_make (p : RequestParts) (parts : Multipart) : IsForeign (make p parts) := by
  unfold make
  refine .bind ?_ fun headers => .bind (isForeign_toBytes _) fun data => ?_
  · unfold Headers.check
    exact .ite (.ok _) (.error rfl)
  refine .ite (.bind (.error rfl) fun _ => ?_) ?_
  all_goals
    refine .bind (Url.isForeign_parse _) fun target => ?_
    refine .bind (Url.isForeign_normalize _) fun path => ?_
    dsimp only
    refine .bind (Url.isForeign_normalize _) fun text => ?_
    refine .bind (Url.isForeign_parse _) fun base => ?_
    refine .ite (.bind (.error rfl) fun _ => ?_) ?_
    all_goals exact .bind (isForeign_bodyOf _ _ _) fun sent => .ok _

end Request

namespace Marshalling

variable {m : Marshalling} {body : Value} {endpoint : String} {parts : Multipart}

/-- The client's own failure is that of a path without a value for one of its parameters. -/
theorem resolvedPath_eq_error {f : Failure} (h : m.resolvedPath = .error f) :
    f.isClientError = true := by
  obtain ⟨name, -, rfl⟩ := PathTemplate.expandChars_eq_error (map_eq_error.1 h)
  rfl

theorem isForeign_queryString : IsForeign m.queryString := by
  have hname : ∀ v : Value, IsForeign (queryName v) := by
    intro v
    unfold queryName
    split
    · exact .ok _
    · exact .bind (isForeign_displayed _) fun t => isForeign_utf8Of t
  have hpairs : ∀ pairs, IsForeign (queryPairs pairs) := by
    intro pairs
    induction pairs with
    | nil => exact .ok _
    | cons p rest ih =>
      exact .bind (hname _) fun _ => .bind (isForeign_utf8Of _) fun _ => .bind ih fun _ => .ok _
  exact .bind (hpairs _) fun _ => .ok _

/-- The steps behind the path. -/
theorem assemble_eq (m : Marshalling) (endpoint : String) (parts : Multipart) (body : Value) :
    ∃ rest : Headers → String → Except Failure Request, (∀ h path, IsForeign (rest h path)) ∧
      m.assemble endpoint parts body =
        m.finishHeaders body >>= fun h => m.resolvedPath >>= fun path => rest h path := by
  refine ⟨fun h path => Url.parse endpoint >>= fun target => m.queryString >>= fun query =>
    target.port? >>= fun port =>
      Request.make (m.operation.parts path query target port h body) parts, fun h path => ?_, rfl⟩
  exact .bind (Url.isForeign_parse _) fun target => .bind isForeign_queryString fun query =>
    .bind target.isForeign_port fun port => Request.isForeign_make _ _

/-- **The client's own failure** to put a request together is that of its path, behind headers
that can be sent. -/
theorem assemble_clientError :
    (∃ f, m.assemble endpoint parts body = .error f ∧ f.isClientError = true) ↔
      (∃ h, m.finishHeaders body = .ok h) ∧ ∃ f, m.resolvedPath = .error f := by
  obtain ⟨rest, hrest, heq⟩ := m.assemble_eq endpoint parts body
  rw [heq]
  constructor
  · rintro ⟨f, h, hclient⟩
    rcases bind_eq_error.1 h with h | ⟨headers, hheaders, h⟩
    · rw [isForeign_finishHeaders f h] at hclient
      cases hclient
    rcases bind_eq_error.1 h with h | ⟨path, -, h⟩
    · exact ⟨⟨headers, hheaders⟩, f, h⟩
    · rw [hrest headers path f h] at hclient
      cases hclient
  · rintro ⟨⟨headers, hheaders⟩, f, hpath⟩
    refine ⟨f, ?_, resolvedPath_eq_error hpath⟩
    exact bind_eq_error.2 (.inr ⟨headers, hheaders, bind_eq_error.2 (.inl hpath)⟩)

/-- All other failures come from the headers, or from what stands behind the path. -/
theorem assemble_foreign :
    (∃ f, m.assemble endpoint parts body = .error f ∧ f.isClientError = false) ↔
      (¬ ∃ h, m.finishHeaders body = .ok h) ∨
        (∃ path, m.resolvedPath = .ok path) ∧ ¬ ∃ r, m.assemble endpoint parts body = .ok r := by
  obtain ⟨rest, hrest, heq⟩ := m.assemble_eq endpoint parts body
  rw [heq]
  constructor
  · rintro ⟨f, h, hforeign⟩
    rcases bind_eq_error.1 h with hh | ⟨headers, hheaders, hh⟩
    · refine .inl ?_
      rintro ⟨g, hg⟩
      rw [hh] at hg
      cases hg
    rcases bind_eq_error.1 hh with hh | ⟨path, hpath, -⟩
    · rw [resolvedPath_eq_error hh] at hforeign
      cases hforeign
    · refine .inr ⟨⟨path, hpath⟩, ?_⟩
      rintro ⟨r, hr⟩
      rw [h] at hr
      cases hr
  · rintro (hheaders | ⟨⟨path, hpath⟩, hnone⟩)
    · cases hh : m.finishHeaders body with
      | ok g => exact absurd ⟨g, hh⟩ hheaders
      | error f => exact ⟨f, rfl, isForeign_finishHeaders f hh⟩
    · cases hh : m.finishHeaders body >>= fun h => m.resolvedPath >>= fun path => rest h path with
      | ok r => exact absurd ⟨r, hh⟩ hnone
      | error f =>
        refine ⟨f, rfl, ?_⟩
        rcases bind_eq_error.1 hh with hh | ⟨headers, -, hh⟩
        · exact isForeign_finishHeaders f hh
        rcases bind_eq_error.1 hh with hh | ⟨path', -, hh⟩
        · rw [hpath] at hh
          cases hh
        · exact hrest headers path' f hh

/-! ### The end of the body -/

/-- A body that is complete is put together with the rest. -/
theorem finish_of_body (hbody : m.finishBody.1 = .ok body) :
    (m.finish endpoint parts).1 = m.finishBody.2.assemble endpoint parts body := by
  unfold finish
  dsimp only
  rw [hbody]
  rfl

/-- A call does not open or close a writer. -/
theorem perform_isSilent (c : Document.Call) (w : BodyWriter) :
    (w.perform c).2.isSilent = w.isSilent := by
  unfold BodyWriter.perform
  cases w with
  | silent => rfl
  | document encoding d =>
    dsimp only
    split
    · rfl
    · rfl

/-- The end of the document does not open or close the writer. -/
theorem finishBody_isSilent : m.finishBody.2.writer.isSilent = m.writer.isSilent := by
  unfold finishBody
  split
  rename_i heq
  split at heq
  · rw [← (Prod.mk.inj heq).2]
  · rw [← (Prod.mk.inj heq).2]
    exact perform_isSilent .endObject m.writer

theorem finishBody_breaksHeader : m.finishBody.2.BreaksHeader ↔ m.BreaksHeader := by
  have hclosed := m.finishBody_changesOnly
  unfold BreaksHeader
  rw [finishBody_isSilent, hclosed.contentType, hclosed.headers (by decide), hclosed.operation]

theorem finishBody_resolvedPath : m.finishBody.2.resolvedPath = m.resolvedPath := by
  have hclosed := m.finishBody_changesOnly
  unfold resolvedPath
  rw [hclosed.operation, hclosed.path (by decide)]

end Marshalling

namespace Dialect

variable {d : Dialect} {o : Operation}

/-- A marshalling can start unless the operation belongs to a gateway. -/
theorem marshalling_exists (d : Dialect) (hgate : o.protocol ≠ .apiGateway) :
    ∃ m, d.marshalling o = .ok m := by
  have hempty : ∃ empty, o.emptyBody = .ok empty := by
    rw [Operation.emptyBody, if_neg hgate]
    exact ⟨_, rfl⟩
  obtain ⟨empty, hempty⟩ := hempty
  have hstart : ∃ m, (Marshalling.new o (some d.contentType) empty (d.writer o)).start =
      (.ok (), m) := by
    unfold Marshalling.start writer Marshalling.new
    dsimp only
    cases o.hasBodyMember with
    | true => exact ⟨_, rfl⟩
    | false =>
      -- no value is there yet, so that an object can be opened
      cases o.hasPayload || decide (o.protocol = .awsJson) with
      | true => exact ⟨_, rfl⟩
      | false => exact ⟨_, rfl⟩
  obtain ⟨m, hm⟩ := hstart
  exact ⟨m, Dialect.marshalling_eq_ok.2 ⟨empty, hempty, hm⟩⟩

/-- The start of a marshalling opens the document of its body and does nothing else. -/
theorem marshalling_changesOnly {m : Marshalling} (h : d.marshalling o = .ok m) :
    ∃ empty, Marshalling.ChangesOnly .body
      (Marshalling.new o (some d.contentType) empty (d.writer o)) m := by
  obtain ⟨empty, -, hm⟩ := Dialect.marshalling_eq_ok.1 h
  have hchanges := Marshalling.start_changesOnly
    (m := Marshalling.new o (some d.contentType) empty (d.writer o))
  rw [hm] at hchanges
  exact ⟨empty, hchanges⟩

/-- A marshalling starts with nothing but a document. -/
theorem marshalling_start {m : Marshalling} (h : d.marshalling o = .ok m) :
    m.operation = o ∧ m.headers = [] ∧ m.path = [] := by
  obtain ⟨empty, hchanges⟩ := marshalling_changesOnly h
  exact ⟨hchanges.operation, hchanges.headers (by decide), hchanges.path (by decide)⟩

theorem marshalling_contentType {m : Marshalling} (h : d.marshalling o = .ok m) :
    m.contentType = some d.contentType := by
  obtain ⟨empty, hchanges⟩ := marshalling_changesOnly h
  exact hchanges.contentType

theorem marshalling_query {m : Marshalling} (h : d.marshalling o = .ok m) : m.query = [] := by
  obtain ⟨empty, hchanges⟩ := marshalling_changesOnly h
  exact hchanges.query (by decide)

end Dialect

end ServiceClient
