import ServiceClient.Proofs.Outcome
import ServiceClient.Service.Marshalling

/-!
# Where the parts of a member go

A request is put together in four areas: its body, its headers, its query string and its path.
All parts of a member go to the area that its binding names.

* `Binding.area_contribution`: the area of a member's parts.
* `Marshalling.add_changesOnly`: a member changes no other area.
* `Marshalling.addMembers_kept`: no member changes what the operation has decided.
* `Marshalling.start_changesOnly`, `Marshalling.finishBody_changesOnly`: so do the steps that open
  and close the document of the body.
-/

namespace ServiceClient

/-- An area of a request under construction. -/
inductive Area
  | body
  | header
  | query
  | path
deriving DecidableEq, Repr

/-- The area that a part goes to. -/
def Part.area : Part → Area
  | .call _ | .body _ => .body
  | .header .. => .header
  | .query .. => .query
  | .path .. => .path

/-- The area that a location names. -/
def Location.area : Location → Area
  | .payload | .unknown _ => .body
  | .header => .header
  | .query => .query
  | .path | .greedyPath => .path

namespace Contribution

theorem mem_append {a b : Contribution} {p : Part} (h : p ∈ (a.append b).parts) :
    p ∈ a.parts ∨ p ∈ b.parts := by
  unfold append at h
  split at h
  · exact List.mem_append.1 h
  · exact .inl h

theorem mem_concat {cs : List Contribution} {p : Part} (h : p ∈ (concat cs).parts) :
    ∃ c ∈ cs, p ∈ c.parts := by
  induction cs with
  | nil => cases h
  | cons c rest ih =>
    rw [concat] at h
    rcases mem_append h with hp | hp
    · exact ⟨c, List.mem_cons_self, hp⟩
    · obtain ⟨d, hd, hp⟩ := ih hp
      exact ⟨d, List.mem_cons_of_mem _ hd, hp⟩

theorem mem_ofExcept {x : Except Failure Part} {p : Part} (h : p ∈ (ofExcept x).parts) :
    x = .ok p := by
  cases x with
  | ok q => rw [List.mem_singleton.1 h]
  | error f => cases h

end Contribution

namespace Binding

variable {b : Binding} {v : Value} {p : Part}

theorem area_payload (h : p ∈ (b.payloadContribution v).parts) : p.area = .body := by
  rcases Contribution.mem_append h with hp | hp
  · rw [List.mem_singleton.1 hp]; rfl
  · obtain ⟨w, -, hw⟩ := bind_eq_ok.1 (Contribution.mem_ofExcept hp)
    rw [← Except.ok.inj hw]; rfl

/-- A step that makes parts of one area makes no others. -/
theorem area_ofExcept {α : Type} {x : Except Failure α} {f : α → Except Failure Part} {a : Area}
    (hf : ∀ y q, f y = .ok q → q.area = a) (h : p ∈ (Contribution.ofExcept (x >>= f)).parts) :
    p.area = a := by
  obtain ⟨y, -, hy⟩ := bind_eq_ok.1 (Contribution.mem_ofExcept h)
  exact hf y p hy

theorem area_header (h : p ∈ (b.headerContribution v).parts) : p.area = .header := by
  have hone : ∀ {name text : Except Failure Text},
      p ∈ (Contribution.ofExcept (do
        let value ← text
        return .header (← name) value)).parts → p.area = .header := by
    refine fun hp => area_ofExcept (fun value q hq => ?_) hp
    obtain ⟨_, -, hq⟩ := bind_eq_ok.1 hq
    rw [← Except.ok.inj hq]; rfl
  unfold headerContribution at h
  split at h
  · exact hone h
  · split at h
    · cases h
    · obtain ⟨c, hc, hp⟩ := Contribution.mem_concat h
      obtain ⟨⟨k, x⟩, -, rfl⟩ := List.mem_map.1 hc
      exact hone hp
  · exact hone h
  · exact hone h

theorem area_query (h : p ∈ (b.queryContribution v).parts) : p.area = .query := by
  have hone : ∀ {name : Value} {text : Except Failure Text},
      p ∈ (Contribution.ofExcept (do return .query name (← text))).parts → p.area = .query :=
    fun hp => area_ofExcept (fun _ _ hq => by rw [← Except.ok.inj hq]; rfl) hp
  unfold queryContribution at h
  dsimp only at h
  split at h
  · split at h
    · cases h
    · obtain ⟨c, hc, hp⟩ := Contribution.mem_concat h
      obtain ⟨⟨k, x⟩, -, rfl⟩ := List.mem_map.1 hc
      dsimp only at hp
      split at hp
      · obtain ⟨c, hc, hp⟩ := Contribution.mem_concat hp
        obtain ⟨y, -, rfl⟩ := List.mem_map.1 hc
        exact hone hp
      · obtain ⟨c, hc, hp⟩ := Contribution.mem_concat hp
        obtain ⟨y, -, rfl⟩ := List.mem_map.1 hc
        exact hone hp
      · exact hone hp
  · split at h
    · cases h
    · obtain ⟨c, hc, hp⟩ := Contribution.mem_concat h
      obtain ⟨y, -, rfl⟩ := List.mem_map.1 hc
      exact hone hp
  · exact hone h

/-- A parameter of the path is one part, the escaped text of the value. The text is a string. -/
theorem mem_pathContribution {greedy : Bool} (h : p ∈ (b.pathContribution greedy v).parts) :
    ∃ text : String, memberText (b.timestampFormat .iso8601) v = .ok text ∧
      text.isEmpty = false ∧ p = .path b.name (Percent.encode (keepsInPath greedy) text) := by
  obtain ⟨text, ht, hp⟩ := bind_eq_ok.1 (Contribution.mem_ofExcept h)
  obtain ⟨hne, hp⟩ := check_eq_ok.1 hp
  obtain ⟨bytes, hbytes, hp⟩ := bind_eq_ok.1 hp
  obtain ⟨s, rfl, rfl⟩ := utf8Of_eq_ok.1 hbytes
  rw [Text.isEmpty_ofString] at hne
  exact ⟨s, ht, Bool.eq_false_iff.2 hne, (Except.ok.inj hp).symm⟩

theorem area_path {greedy : Bool} (h : p ∈ (b.pathContribution greedy v).parts) :
    p.area = .path := by
  obtain ⟨text, -, -, rfl⟩ := mem_pathContribution h
  rfl

/-- **The parts of a member go to the area of its location.** -/
theorem area_contribution (h : p ∈ (b.contribution v).parts) : p.area = b.location.area := by
  unfold contribution at h
  split at h <;> rename_i hloc <;> rw [hloc]
  · exact area_payload h
  · exact area_header h
  · exact area_query h
  · exact area_path h
  · exact area_path h
  · cases h

/-- What a member sends to the body is a field of it. -/
theorem mem_payloadContribution (h : p ∈ (b.contribution v).parts) (hp : p.area = .body) :
    p ∈ (b.payloadContribution v).parts := by
  have harea : .body = b.location.area := hp.symm.trans (area_contribution h)
  unfold contribution at h
  split at h <;> rename_i hlocation <;> rw [hlocation] at harea
  case h_1 => exact h
  case h_6 => cases h
  all_goals cases harea

/-- What is the whole body goes to the body. -/
theorem area_bodyContribution (h : p ∈ (b.bodyContribution v).parts) : p.area = .body := by
  unfold bodyContribution at h
  split at h
  · obtain ⟨s, -, hs⟩ := bind_eq_ok.1 (Contribution.mem_ofExcept h)
    rw [← Except.ok.inj hs]; rfl
  · obtain ⟨s, -, hs⟩ := bind_eq_ok.1 (Contribution.mem_ofExcept h)
    rw [← Except.ok.inj hs]; rfl
  · rw [List.mem_singleton.1 h]; rfl

/-- The value of a member in a request, null if it is not set. -/
def valueIn (request : Fields) (b : Binding) : Value :=
  (Fields.get? (.text b.member) request).getD .null

/-- The area of a member: the body for one that is the whole body. -/
def area (b : Binding) : Area := if b.isBody then .body else b.location.area

/-- A member sends headers, or parameters of the query string, exactly if it is not the whole body
and its location says so. -/
theorem area_eq_of_location {location : Location} (hl : location = .header ∨ location = .query) :
    b.area = location.area ↔ b.isBody = false ∧ b.location = location := by
  unfold area
  cases hbody : b.isBody with
  | true => rcases hl with rfl | rfl <;> exact ⟨fun h => (by cases h), fun h => (by cases h.1)⟩
  | false =>
    -- no two locations share the area of headers or that of the query string
    have hsame : b.location.area = location.area ↔ b.location = location := by
      rcases hl with rfl | rfl <;> cases b.location <;> simp [Location.area]
    rw [if_neg (by decide), hsame]
    simp

end Binding

namespace Marshalling

theorem area_contributionOf {b : Binding} {v : Value} {m : Marshalling} {p : Part}
    (h : p ∈ (m.contributionOf b v).parts) : p.area = b.area := by
  unfold contributionOf at h
  unfold Binding.area
  split at h
  · rw [if_pos ‹b.isBody = true›]
    unfold emptyContribution at h
    split at h
    · cases h
    · simp only [List.mem_cons, List.not_mem_nil, or_false] at h
      rcases h with rfl | rfl <;> rfl
  · rw [if_pos ‹b.isBody = true›]
    exact Binding.area_bodyContribution h
  · cases h
  · rw [if_neg (by rw [‹b.isBody = false›]; decide)]
    exact Binding.area_contribution h

/-- A member that is set has its part of the request, one that is not set has none, unless it is
the whole body. -/
theorem contributionOf_set {b : Binding} (hbody : b.isBody = false) {v : Value} (hv : v ≠ .null)
    (m : Marshalling) : m.contributionOf b v = b.contribution v := by
  unfold contributionOf
  rw [hbody]
  cases v <;> first | exact absurd rfl hv | rfl

theorem add_unset {b : Binding} (hbody : b.isBody = false) (m : Marshalling) :
    m.add b .null = (.ok (), m) := by
  unfold add contributionOf
  rw [hbody]
  rfl

/-- Members are added one after the other. -/
theorem addMembers_cons {b : Binding} {rest : List Binding} {request : Fields}
    {m m' : Marshalling} : addMembers (b :: rest) (.map request) m = .ok m' ↔
      ∃ m₁, m.add b (b.valueIn request) = (.ok (), m₁) ∧
        addMembers rest (.map request) m₁ = .ok m' := by
  have hmember : memberOf (.map request) b.member = .ok (b.valueIn request) := rfl
  rw [addMembers, hmember]
  show (m.add b (b.valueIn request)).1 >>= _ = .ok m' ↔ _
  rw [bind_eq_ok]
  constructor
  · rintro ⟨u, hu, h⟩
    exact ⟨_, Prod.ext hu rfl, h⟩
  · rintro ⟨m₁, hadd, h⟩
    refine ⟨(), by rw [hadd], ?_⟩
    show addMembers rest (.map request) (m.add b (b.valueIn request)).2 = .ok m'
    rw [hadd]
    exact h

/-- Nothing but one area of a request under construction changes. -/
structure ChangesOnly (a : Area) (m m' : Marshalling) : Prop where
  operation : m'.operation = m.operation
  contentType : m'.contentType = m.contentType
  emptyBody : m'.emptyBody = m.emptyBody
  body : a ≠ .body → m'.writer = m.writer ∧ m'.body = m.body
  headers : a ≠ .header → m'.headers = m.headers
  query : a ≠ .query → m'.query = m.query
  path : a ≠ .path → m'.path = m.path

variable {a : Area} {m : Marshalling}

theorem ChangesOnly.refl : ChangesOnly a m m :=
  ⟨rfl, rfl, rfl, fun _ => ⟨rfl, rfl⟩, fun _ => rfl, fun _ => rfl, fun _ => rfl⟩

theorem ChangesOnly.trans {m₁ m₂ : Marshalling} (h : ChangesOnly a m m₁)
    (h' : ChangesOnly a m₁ m₂) : ChangesOnly a m m₂ where
  operation := h'.operation.trans h.operation
  contentType := h'.contentType.trans h.contentType
  emptyBody := h'.emptyBody.trans h.emptyBody
  body hb := ⟨(h'.body hb).1.trans (h.body hb).1, (h'.body hb).2.trans (h.body hb).2⟩
  headers hb := (h'.headers hb).trans (h.headers hb)
  query hb := (h'.query hb).trans (h.query hb)
  path hb := (h'.path hb).trans (h.path hb)

/-- A part changes its area only, also when it fails. -/
theorem put_changesOnly (p : Part) : ChangesOnly p.area m (m.put p).2 := by
  cases p with
  | call c =>
    exact ⟨rfl, rfl, rfl, fun h => absurd rfl h, fun _ => rfl, fun _ => rfl, fun _ => rfl⟩
  | body v =>
    exact ⟨rfl, rfl, rfl, fun h => absurd rfl h, fun _ => rfl, fun _ => rfl, fun _ => rfl⟩
  | header name value =>
    cases hset : m.headers.set name value with
    | ok headers =>
      have hput : m.put (.header name value) = (.ok (), { m with headers := headers }) := by
        simp only [put, hset]
      rw [hput]
      exact ⟨rfl, rfl, rfl, fun _ => ⟨rfl, rfl⟩, fun h => absurd rfl h, fun _ => rfl, fun _ => rfl⟩
    | error f =>
      have hput : m.put (.header name value) = (.error f, m) := by simp only [put, hset]
      rw [hput]
      exact .refl
  | query name value =>
    exact ⟨rfl, rfl, rfl, fun _ => ⟨rfl, rfl⟩, fun _ => rfl, fun h => absurd rfl h, fun _ => rfl⟩
  | path name value =>
    exact ⟨rfl, rfl, rfl, fun _ => ⟨rfl, rfl⟩, fun _ => rfl, fun _ => rfl, fun h => absurd rfl h⟩

theorem putAll_changesOnly {parts : List Part} (h : ∀ p ∈ parts, p.area = a) :
    ChangesOnly a m (m.putAll parts).2 := by
  induction parts generalizing m with
  | nil => exact .refl
  | cons p rest ih =>
    rw [List.forall_mem_cons] at h
    have hp : ChangesOnly a m (m.put p).2 := by
      rw [← h.1]
      exact put_changesOnly p
    rw [putAll]
    split
    · rename_i heq
      rw [heq] at hp
      exact hp.trans (ih h.2)
    · rename_i heq
      rw [heq] at hp
      exact hp

/-- Opening the document changes the body only. -/
theorem start_changesOnly : ChangesOnly .body m m.start.2 := by
  unfold start
  split
  · exact .refl
  · exact put_changesOnly (.call .startObject)

/-- Closing the document changes the body only. -/
theorem finishBody_changesOnly : ChangesOnly .body m m.finishBody.2 := by
  unfold finishBody
  split
  rename_i heq
  split at heq
  · rw [← (Prod.mk.inj heq).2]
    exact .refl
  · rw [← (Prod.mk.inj heq).2]
    exact put_changesOnly (.call .endObject)

/-- **A member changes the area of its binding only**, also when it fails. -/
theorem add_changesOnly (b : Binding) (v : Value) : ChangesOnly b.area m (m.add b v).2 := by
  have hparts := putAll_changesOnly (m := m)
    fun p (hp : p ∈ (m.contributionOf b v).parts) => area_contributionOf hp
  unfold add contribute
  split
  · rename_i heq _
    rw [heq] at hparts
    exact hparts
  · exact hparts

/-- Members leave the operation and the type of the body as they are. -/
theorem addMembers_kept {bindings : List Binding} {request : Value} {m' : Marshalling}
    (h : addMembers bindings request m = .ok m') :
    m'.operation = m.operation ∧ m'.contentType = m.contentType := by
  induction bindings generalizing m with
  | nil =>
    rw [← Except.ok.inj h]
    exact ⟨rfl, rfl⟩
  | cons b rest ih =>
    obtain ⟨v, -, h⟩ := bind_eq_ok.1 h
    obtain ⟨u, -, h⟩ := bind_eq_ok.1 h
    have hadd := add_changesOnly (m := m) b v
    obtain ⟨hoperation, htype⟩ := ih h
    exact ⟨hoperation.trans hadd.operation, htype.trans hadd.contentType⟩

end Marshalling

end ServiceClient
