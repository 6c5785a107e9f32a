import ServiceClient.Proofs.AnnouncedBodies
import ServiceClient.Proofs.JsonWritten

/-!
# Documents that are embedded in a body

A member can be given as the text of a JSON document. What the text says is written as a field of
the body, as any value is: without the fields of its objects that are null.

* `Document.write_eq_ok`: a value that is written is one value, whatever its keys are.
* `Marshalling.add_document`, `Marshalling.addMembers_document`: the document as a field, and among
  other members.
* `Json.parse_field`: a document is read from its field, whatever the other fields are.
* `Json.normalForm_eq_self_iff`: which documents stay as they are.
* `Dialect.document_embedded`: what is read where a document has been given.
-/

namespace ServiceClient

/-! ### Values of any kind -/

namespace Document

variable {convert : Value → Value}

/-- A value that is written had a place. -/
theorem add_eq_ok {v : Value} {d e : Document} (h : d.add v = .ok e) :
    ∃ name d₁, d.place = .ok (name, d₁) ∧ e = d₁.attach name v := by
  obtain ⟨⟨name, d₁⟩, hplace, h⟩ := bind_eq_ok.1 h
  exact ⟨name, d₁, hplace, (Except.ok.inj h).symm⟩

theorem startObject_eq_ok {d e : Document} (h : d.startObject = .ok e) :
    ∃ name d₁, d.place = .ok (name, d₁) ∧
      e = { d₁ with frames := (name, .object []) :: d₁.frames } := by
  obtain ⟨⟨name, d₁⟩, hplace, h⟩ := bind_eq_ok.1 h
  exact ⟨name, d₁, hplace, (Except.ok.inj h).symm⟩

theorem startArray_eq_ok {d e : Document} (h : d.startArray = .ok e) :
    ∃ name d₁, d.place = .ok (name, d₁) ∧
      e = { d₁ with frames := (name, .array []) :: d₁.frames } := by
  obtain ⟨⟨name, d₁⟩, hplace, h⟩ := bind_eq_ok.1 h
  exact ⟨name, d₁, hplace, (Except.ok.inj h).symm⟩

/-- In an object, only a value with a name has a place, and takes its name along. -/
theorem place_object_eq_ok {root n name : Option Value} {fields : Fields}
    {rest : List (Option Value × Frame)} {pending : Option Value} {d : Document}
    (h : place ⟨root, (n, .object fields) :: rest, pending⟩ = .ok (name, d)) :
    d = ⟨root, (n, .object fields) :: rest, none⟩ := by
  unfold place at h
  dsimp only at h
  split at h
  · cases h
  · split at h
    · cases h
      rfl
    · cases h

/-- A name of any kind only waits for its value. -/
theorem fieldName_frames {d e : Document} {k : Value} (h : d.fieldName k = .ok e) :
    ∃ pending, e = { d with pending := pending } := by
  unfold fieldName at h
  split at h
  · exact ⟨_, (Except.ok.inj h).symm⟩
  · cases h

mutual

/-- **A value that is written is written as one value**, whatever its keys are: it goes where a
value may be placed, if no name is left over. -/
theorem write_eq_ok : ∀ (v : Value) {d e : Document}, write convert v d = .ok e →
    ∃ name d₁, d.place = .ok (name, d₁) ∧ (d₁.pending = none → ∃ w, e = d₁.attach name w)
  | .map fields, d, e, h => by
    rw [write] at h
    obtain ⟨f, hstart, h⟩ := bind_eq_ok.1 h
    obtain ⟨g, hfields, hend⟩ := bind_eq_ok.1 h
    obtain ⟨name, ⟨root, frames, pending⟩, hplace, rfl⟩ := startObject_eq_ok hstart
    refine ⟨name, _, hplace, fun hnone => ?_⟩
    obtain rfl : pending = none := hnone
    obtain ⟨gs, rfl⟩ := writeFields_eq_ok fields hfields
    exact ⟨.map gs, (Except.ok.inj hend).symm⟩
  | .list items, d, e, h | .tuple items, d, e, h => by
    rw [write] at h
    obtain ⟨f, hstart, h⟩ := bind_eq_ok.1 h
    obtain ⟨g, hitems, hend⟩ := bind_eq_ok.1 h
    obtain ⟨name, ⟨root, frames, pending⟩, hplace, rfl⟩ := startArray_eq_ok hstart
    refine ⟨name, _, hplace, fun hnone => ?_⟩
    obtain rfl : pending = none := hnone
    obtain ⟨ys, rfl⟩ := writeItems_eq_ok items hitems
    exact ⟨.list ys, (Except.ok.inj hend).symm⟩
  | .null, d, e, h => by
    rw [write_null] at h
    obtain ⟨name, d₁, hplace, rfl⟩ := add_eq_ok h
    exact ⟨name, d₁, hplace, fun _ => ⟨_, rfl⟩⟩
  | .bool _, d, e, h | .int _, d, e, h | .double _, d, e, h | .decimal _, d, e, h
  | .text _, d, e, h | .loose _, d, e, h | .bytes .., d, e, h | .timestamp _, d, e, h
  | .set _, d, e, h | .symbol _, d, e, h | .tagged .., d, e, h | .simple _, d, e, h
  | .undefined, d, e, h => by
    rw [write_scalar rfl] at h
    obtain ⟨name, d₁, hplace, rfl⟩ := add_eq_ok h
    exact ⟨name, d₁, hplace, fun _ => ⟨_, rfl⟩⟩

/-- Items leave their array open. -/
theorem writeItems_eq_ok : ∀ (items : List Value) {root n : Option Value} {xs : List Value}
    {rest : List (Option Value × Frame)} {e : Document},
    writeItems convert items ⟨root, (n, .array xs) :: rest, none⟩ = .ok e →
      ∃ ys, e = ⟨root, (n, .array ys) :: rest, none⟩
  | [], root, n, xs, rest, e, h => by
    rw [writeItems] at h
    exact ⟨xs, (Except.ok.inj h).symm⟩
  | v :: items, root, n, xs, rest, e, h => by
    rw [writeItems] at h
    obtain ⟨f, hv, h⟩ := bind_eq_ok.1 h
    obtain ⟨name, d₁, hplace, hwritten⟩ := write_eq_ok v hv
    cases hplace
    obtain ⟨w, rfl⟩ := hwritten rfl
    exact writeItems_eq_ok items h

/-- Fields leave their object open. -/
theorem writeFields_eq_ok : ∀ (fields : List (Value × Value)) {root n : Option Value}
    {fs : Fields} {rest : List (Option Value × Frame)} {e : Document},
    writeFields convert fields ⟨root, (n, .object fs) :: rest, none⟩ = .ok e →
      ∃ gs, e = ⟨root, (n, .object gs) :: rest, none⟩
  | [], root, n, fs, rest, e, h => by
    rw [writeFields] at h
    exact ⟨fs, (Except.ok.inj h).symm⟩
  | (k, v) :: fields, root, n, fs, rest, e, h => by
    by_cases hv : v = .null
    · rw [hv, writeFields_null] at h
      exact writeFields_eq_ok fields h
    · rw [writeFields_cons hv] at h
      obtain ⟨f, hname, h⟩ := bind_eq_ok.1 h
      obtain ⟨g, hwrite, h⟩ := bind_eq_ok.1 h
      obtain ⟨pending, rfl⟩ := fieldName_frames hname
      obtain ⟨name, d₁, hplace, hwritten⟩ := write_eq_ok v hwrite
      obtain rfl := place_object_eq_ok hplace
      obtain ⟨w, rfl⟩ := hwritten rfl
      exact writeFields_eq_ok fields h

end

/-- A plain value is written in normal form where a value may be placed. -/
theorem write_plain {scalar : Value → Prop} {v : Value} (h : v.Plain scalar) {d e : Document}
    {name : Option Value} (hplace : d.place = .ok (name, e)) (hnone : e.pending = none) :
    d.write convert v = .ok (e.attach name (v.normalForm convert)) := by
  rw [write_eq_run v d h.hasTextKeys, run_calls _ hplace hnone, Tree.value_ofValue h]

/-- A document whose root is an object that is still open. -/
def object (fields : Fields) : Document := ⟨none, [(none, .object fields)], none⟩

/-- A named value goes into the open object. -/
theorem write_named {name : String} {v : Value} {fields : Fields} {e : Document}
    (h : write convert v { object fields with pending := some (.text name) } = .ok e) :
    ∃ w, e = object (fields.put (.text name) w) := by
  obtain ⟨taken, d, hplace, hwritten⟩ := write_eq_ok v h
  cases hplace
  exact hwritten rfl

end Document

/-! ### Members of an open document -/

namespace Binding

/-- The value that a field of the body is written with: what a text says for a document. -/
def written (b : Binding) (v : Value) : Except Failure Value :=
  match b.type, v.text? with
  | .jsonValue, some document => (Json.read document).mapError .json
  | _, _ => .ok v

/-- A member is named before its value is looked at. -/
theorem payloadContribution_eq (b : Binding) (v : Value) :
    b.payloadContribution v =
      (Contribution.one (.call (.fieldName (.text b.name)))).append
        (.ofExcept do return .call (.value (← b.written v))) := rfl

theorem payloadContribution_of_ok {b : Binding} {v x : Value} (h : b.written v = .ok x) :
    b.payloadContribution v = ⟨[.call (.fieldName (.text b.name)), .call (.value x)], none⟩ := by
  rw [payloadContribution_eq, h]
  rfl

theorem payloadContribution_of_error {b : Binding} {v : Value} {f : Failure}
    (h : b.written v = .error f) :
    b.payloadContribution v = ⟨[.call (.fieldName (.text b.name))], some f⟩ := by
  rw [payloadContribution_eq, h]
  rfl

end Binding

namespace Marshalling

variable {m m' : Marshalling} {e : Encoding} {fields : Fields} {b : Binding} {v : Value}

/-- A member that is set in the body is named, and then written as what it says. -/
theorem add_payload (hown : b.isBody = false) (hloc : b.location = .payload) (hv : v ≠ .null)
    (hw : m.writer = .document e (.object fields)) :
    m.add b v =
      let named : Document := { Document.object fields with pending := some (.text b.name) }
      match b.written v with
      | .error f => (.error f, { m with writer := .document e named })
      | .ok x =>
        match Document.write e.convert x named with
        | .error r => (.error (.misuse r.cause), { m with writer := .document e r.state })
        | .ok d => (.ok (), { m with writer := .document e d }) := by
  have hname : (Document.object fields).perform e.convert (.fieldName (.text b.name)) =
      .ok { Document.object fields with pending := some (.text b.name) } := rfl
  rw [add, contributionOf_set hown hv, Binding.contribution, hloc]
  dsimp only
  cases hx : b.written v with
  | error f =>
    rw [Binding.payloadContribution_of_error hx, contribute]
    simp only [putAll, put, call, hw, BodyWriter.perform, hname]
  | ok x =>
    rw [Binding.payloadContribution_of_ok hx, contribute]
    simp only [putAll, put, call, hw, BodyWriter.perform, hname]
    rw [Document.perform]
    cases Document.write e.convert x
      { Document.object fields with pending := some (.text b.name) } <;> rfl

/-- A member that has been added to the body is a field of it. -/
theorem add_payload_eq_ok (hown : b.isBody = false) (hloc : b.location = .payload) (hv : v ≠ .null)
    (hw : m.writer = .document e (.object fields)) (h : m.add b v = (.ok (), m')) :
    ∃ w, m'.writer = .document e (.object (fields.put (.text b.name) w)) := by
  rw [add_payload hown hloc hv hw] at h
  dsimp only at h
  split at h
  · cases h
  · split at h
    · cases h
    · rename_i d hwrite
      obtain ⟨w, rfl⟩ := Document.write_named hwrite
      cases h
      exact ⟨w, rfl⟩

/-- **A document that is given as text is always added**, in normal form. -/
theorem add_document (hown : b.isBody = false) (hloc : b.location = .payload)
    (htype : b.type = .jsonValue) (hw : m.writer = .document e (.object fields)) {t : Text}
    (hread : Json.read t = .ok v) {scalar : Value → Prop} (hv : v.Plain scalar) :
    m.add b (.ofText t) = (.ok (), { m with
      writer := .document e (.object (fields.put (.text b.name) (v.normalForm e.convert))) }) := by
  have hwritten : b.written (.ofText t) = .ok v := by
    unfold Binding.written
    rw [htype, Value.text?_ofText]
    exact mapError_eq_ok.2 hread
  have hset : Value.ofText t ≠ .null := by
    intro hnull
    have htext := Value.text?_ofText t
    rw [hnull] at htext
    cases htext
  have hplace : Document.place { Document.object fields with pending := some (.text b.name) } =
      .ok (some (.text b.name), Document.object fields) := rfl
  rw [add_payload hown hloc hset hw]
  dsimp only
  rw [hwritten]
  dsimp only
  rw [Document.write_plain hv hplace rfl]
  rfl

/-- A member that has been added leaves the document of the body as it is, or is a field of it. -/
theorem add_eq_ok (hown : b.isBody = false) (hw : m.writer = .document e (.object fields))
    (h : m.add b v = (.ok (), m')) : m'.writer = m.writer ∨ b.location = .payload ∧
      ∃ w, m'.writer = .document e (.object (fields.put (.text b.name) w)) := by
  by_cases hv : v = .null
  · rw [hv, add_unset hown] at h
    cases h
    exact .inl rfl
  · have hchanges := add_changesOnly (m := m) b v
    have harea : b.area = b.location.area := by rw [Binding.area, hown]; rfl
    rw [h] at hchanges
    cases hloc : b.location with
    | payload => exact .inr ⟨rfl, add_payload_eq_ok hown hloc hv hw h⟩
    | unknown name =>
      rw [add, contributionOf_set hown hv, Binding.contribution, hloc] at h
      cases h
    | _ => exact .inl (hchanges.body (by rw [harea, hloc]; decide)).1

/-- **A document among members** is a field of the body, behind all of them. -/
theorem addMembers_document {request : Fields} {bindings : List Binding}
    (hown : ∀ c ∈ bindings, c.isBody = false)
    (hname : ∀ c ∈ bindings, c.location = .payload → c.name = b.name → c = b)
    (hbody : b.isBody = false) (hloc : b.location = .payload) (htype : b.type = .jsonValue)
    {t : Text} (ht : b.valueIn request = .ofText t) (hread : Json.read t = .ok v)
    {scalar : Value → Prop} (hv : v.Plain scalar)
    (hw : m.writer = .document e (.object fields)) (hfields : fields.IsNamed)
    (hset : b ∈ bindings ∨ Fields.get? (.text b.name) fields = some (v.normalForm e.convert))
    (h : addMembers bindings (.map request) m = .ok m') :
    ∃ written : Fields, m'.writer = .document e (.object written) ∧ written.IsNamed ∧
      Fields.get? (.text b.name) written = some (v.normalForm e.convert) := by
  -- once the document is a field it stays one, since no other member has its name
  induction bindings generalizing m fields with
  | nil =>
    cases h
    exact ⟨fields, hw, hfields, hset.resolve_left List.not_mem_nil⟩
  | cons c rest ih =>
    rw [List.forall_mem_cons] at hown hname
    obtain ⟨m₁, hadd, hrest⟩ := addMembers_cons.1 h
    by_cases hc : c = b
    · subst hc
      rw [ht, add_document hbody hloc htype hw hread hv] at hadd
      cases hadd
      refine ih hown.2 hname.2 rfl (hfields.put _ _) (.inr ?_) hrest
      rw [hfields.get?_put, if_pos rfl]
    · have hset : b ∈ rest ∨ Fields.get? (.text b.name) fields = some (v.normalForm e.convert) :=
        hset.imp_left fun hmem => (List.mem_cons.1 hmem).resolve_left (Ne.symm hc)
      rcases add_eq_ok hown.1 hw hadd with hsame | ⟨hpayload, w, hput⟩
      · exact ih hown.2 hname.2 (hsame.trans hw) hfields hset hrest
      · refine ih hown.2 hname.2 hput (hfields.put _ _) (hset.imp_right fun hfield => ?_) hrest
        rw [hfields.get?_put, if_neg fun heq => hc (hname.1 hpayload heq)]
        exact hfield

end Marshalling

/-! ### Reading the body -/

namespace Json

/-- The scalars of a document but numbers with a fraction or an exponent. -/
def IsDiscrete : Value → Prop
  | .bool _ | .int _ | .text _ | .loose _ => True
  | _ => False

/-- A text that is printed for a document is read as the document. -/
theorem read_printed {v : Value} (h : v.Held IsExact) {s : String}
    (hp : print compact v = .ok s.toList) : read s = .ok v := by
  obtain ⟨cs, hp', hread⟩ := read_print h
  obtain rfl := Except.ok.inj (hp'.symm.trans hp)
  refine mapError_eq_ok.2 ?_
  rw [surrogatesOf_ofString, Text.replaced_ofString]
  exact hread

/-- What is read for a value: the value itself, if JSON holds it. -/
def AsHeld (v w : Value) : Prop := v.Held IsExact → w = v

theorem readsAs_print_of_held {v : Value} {cs : List Char} (h : print compact v = .ok cs) :
    ∃ w, AsHeld v w ∧ ReadsAs cs w := by
  by_cases hv : v.Held IsExact
  · obtain ⟨w, rfl, hread⟩ := reads_of_exists (print_of_held hv) cs h
    exact ⟨v, fun _ => rfl, hread⟩
  · obtain ⟨w, -, hread⟩ := readsAs_print v cs h
    exact ⟨w, fun hheld => absurd hheld hv, hread⟩

/-- Pairs under the same names, with values in a relation. -/
def Alike (R : Value → Value → Prop) (p q : Text × Value) : Prop := q.1 = p.1 ∧ R p.2 q.2

/-- Fields that are named by strings are read under their names. -/
theorem exists_named_of_fieldReads {R : Value → Value → Prop} {pairs : List (Text × Value)}
    (hnames : ∀ p ∈ pairs, ∃ s : String, p.1 = s) {read : Fields}
    (h : List.Forall₂ (FieldReads R) (Fields.named pairs) read) :
    ∃ kept : List (Text × Value), read = Fields.named kept ∧ List.Forall₂ (Alike R) pairs kept := by
  induction pairs generalizing read with
  | nil =>
    cases h
    exact ⟨[], rfl, .nil⟩
  | cons p pairs ih =>
    rw [List.forall_mem_cons] at hnames
    rw [Fields.named_cons] at h
    cases h with
    | @cons _ q _ _ hfield hrest =>
      obtain ⟨⟨key, hkey, hq⟩, hv⟩ := hfield
      obtain ⟨s, hs⟩ := hnames.1
      rw [keyText_ofText] at hkey
      rw [← Except.ok.inj hkey, hs, Text.joined_of_isJoined (Text.isJoined_ofString s), ← hs] at hq
      obtain ⟨kept, rfl, hkept⟩ := ih hnames.2 hrest
      exact ⟨(p.1, q.2) :: kept, by rw [Fields.named_cons, ← hq], .cons ⟨rfl, hv⟩ hkept⟩

/-- Pairs in a relation have the same names. -/
theorem names_of_forall₂ {R : Value → Value → Prop} {pairs kept : List (Text × Value)}
    (h : List.Forall₂ (Alike R) pairs kept) : kept.map (·.1) = pairs.map (·.1) := by
  induction h with
  | nil => rfl
  | cons hfield _ ih => rw [List.map_cons, List.map_cons, hfield.1, ih]

theorem lookup_of_forall₂ {R : Value → Value → Prop} {pairs kept : List (Text × Value)}
    (h : List.Forall₂ (Alike R) pairs kept) {name : Text} {v : Value}
    (hv : pairs.lookup name = some v) : ∃ w, kept.lookup name = some w ∧ R v w := by
  induction h with
  | nil => cases hv
  | @cons p q pairs kept hfield _ ih =>
    rw [List.lookup_cons] at hv ⊢
    rw [hfield.1]
    split at hv
    · cases hv
      exact ⟨q.2, rfl, hfield.2⟩
    · exact ih hv

/-- **A document in the body is read as it was written** if JSON holds it, whatever the other fields
are. -/
theorem parse_field {fields : Fields} (hfields : fields.IsNamed) {body : Bytes}
    (hbody : Encoding.json.encode (.map fields) = .ok body) {name : String} {v : Value}
    (hfield : Fields.get? (.text name) fields = some v) :
    ∃ read, Encoding.json.parse body = .ok (.map read) ∧
      (v.Held IsExact → Fields.get? (.text name) read = some v) := by
  obtain ⟨pairs, rfl, hd, hstrings⟩ := hfields
  obtain ⟨cs, hprint, hbody⟩ := bind_eq_ok.1 hbody
  obtain rfl := Except.ok.inj hbody
  have hprint := mapError_eq_ok.1 hprint
  rw [print] at hprint
  obtain ⟨content, hcontent, hprint⟩ := bind_eq_ok.1 hprint
  obtain rfl := Except.ok.inj hprint
  obtain ⟨read, hreads, hread⟩ := readsAs_map (R := AsHeld)
    (fun p _ cs hp => readsAs_print_of_held hp) hcontent
  obtain ⟨kept, rfl, hkept⟩ := exists_named_of_fieldReads hstrings hreads
  have hnames : (kept.map (·.1)).Nodup := by
    rw [names_of_forall₂ hkept]
    exact hd
  rw [Fields.ofPairs_of_nodup hnames] at hread
  rw [← Value.ofText_ofString, Fields.get?_named] at hfield
  obtain ⟨w, hw, hsame⟩ := lookup_of_forall₂ hkept hfield
  refine ⟨Fields.named kept, Encoding.parse_json_of_read (readChars_of_readsAs hread), fun hv => ?_⟩
  rw [← Value.ofText_ofString, Fields.get?_named, hw, hsame hv]

/-- A field of a body has nothing that JSON is not read as. -/
theorem held_of_get? {body : Bytes} {fields : Fields}
    (h : Encoding.json.parse body = .ok (.map fields)) {name : String} {v : Value}
    (hfield : Fields.get? (.text name) fields = some v) : v.Held IsRead := by
  cases Encoding.held_of_parse_json h with
  | scalar hv _ => cases hv
  | @map pairs _ _ hpairs =>
    rw [← Value.ofText_ofString, Fields.get?_named] at hfield
    obtain ⟨before, after, rfl, -⟩ := List.lookup_eq_some_iff.1 hfield
    exact hpairs ((name : Text), v) (by simp)

/-- What is read and has no double is held as it is. -/
theorem held_isExact {v : Value} (h : v.Held IsRead) (hv : v.Held IsDiscrete) :
    v.Held IsExact := by
  refine (h.and hv).imp fun w hw => ⟨hw.1, ?_⟩
  rintro d rfl
  exact hw.2

end Json

/-! ### The finished request -/

namespace Marshalling

variable {m : Marshalling} {e : Encoding} {fields : Fields}

/-- The document of the body is closed at the end. -/
theorem finishBody_document (hbody : m.operation.hasBodyMember = false)
    (hw : m.writer = .document e (.object fields)) :
    m.finishBody.2.writer = .document e ⟨some (.map fields), [], none⟩ := by
  rw [finishBody, hbody]
  show (m.writer.perform .endObject).2 = _
  rw [hw]
  rfl

/-- What is written is the body of the request, unless it is announced in chunks. -/
theorem body_of_assemble {endpoint : String} {s : Bytes} (hne : s ≠ []) {parts : Multipart}
    {r : Request} (h : m.assemble endpoint parts (.blob s) = .ok r)
    (hwhole : Request.isChunked r.headers = false) : r.body = s := by
  obtain ⟨headers, -, path, -, target, -, query, -, port, -, hmake⟩ := assemble_eq_ok.1 h
  obtain ⟨-, plain, -, base, -, sent, hsent, rfl⟩ := Request.make_eq_ok.1 hmake
  have hwhole : Request.isChunked sent.2 = false := hwhole
  have hsame : sent = (s, Form.withLength s.length headers) :=
    Except.ok.inj (hsent.symm.trans (Request.bodyOf_blob parts hne headers))
  rw [RequestParts.request_body, if_neg (by rw [hwhole]; decide), hsame]

end Marshalling

namespace Dialect

variable {d : Dialect} {o : Operation} {bindings : List Binding} {request : Value}
  {m : Marshalling} {body : Value}

/-- Behind a request there is a marshalling with all members and a body. -/
theorem exists_completes_of_request {endpoint : String} {parts : Multipart} {r : Request}
    (h : d.request o bindings request endpoint parts = .ok r) :
    ∃ m body, d.Completes o bindings request m body ∧
      m.finishBody.2.assemble endpoint parts body = .ok r := by
  obtain ⟨started, hstart, h⟩ := bind_eq_ok.1 h
  obtain ⟨m, hadd, h⟩ := bind_eq_ok.1 h
  obtain ⟨body, hbody, hassemble⟩ := Marshalling.finish_eq_ok.1 h
  refine ⟨m, body, ⟨?_, hbody⟩, hassemble⟩
  rw [hstart]
  exact hadd

/-- Unless a member is the whole body, the body is what has been written. -/
theorem Completes.written (h : d.Completes o bindings request m body)
    (hown : ∀ c ∈ bindings, c.isBody = false) :
    ∃ s, body = .blob s ∧ m.finishBody.2.writer.bytes = .ok s := by
  rcases Marshalling.finishBody_body h.complete with hmember | ⟨-, s, hs, hwritten⟩
  · obtain ⟨b, hb, v, -, hput⟩ := h.bodyOf hmember
    have hbody := hput.isBody
    rw [hown b hb] at hbody
    cases hbody
  · exact ⟨s, hs, hwritten⟩

/-- **A request whose only member is a document is made** for an operation at the root. -/
theorem request_of_document (hjson : d.encoding = .json) (hgate : o.protocol ≠ .apiGateway)
    (hbody : o.hasBodyMember = false) (hpayload : o.hasPayload = true ∨ o.protocol = .awsJson)
    {b : Binding} (hown : b.isBody = false) (hloc : b.location = .payload)
    (htype : b.type = .jsonValue) {request : Fields} {t : Text}
    (ht : b.valueIn request = .ofText t) {v : Value} (hread : Json.read t = .ok v)
    (hv : v.Held Json.IsExact) (hcontent : Headers.isValue d.contentType = true)
    (htarget : Headers.isValue o.target = true) (huri : o.uri = "/") {e : DnsEndpoint}
    (hroot : e.tail = []) (parts : Multipart) :
    ∃ r, d.request o [b] (.map request) e.text parts = .ok r ∧
      Request.isChunked r.headers = false ∧
      Encoding.json.encode (.map [(.text b.name, v.normalForm Encoding.json.convert)]) =
        .ok r.body := by
  obtain ⟨empty, hopen⟩ := d.marshalling_eq hgate hbody hpayload
  rw [hjson] at hopen
  have hplain : v.Plain Json.Scalar := hv.plain fun _ h => .inl h
  have hmember : (Marshalling.ofFields o d.contentType empty .json []).add b (b.valueIn request) =
      (.ok (), .ofFields o d.contentType empty .json
        [(.text b.name, v.normalForm Encoding.json.convert)]) := by
    have hwriter : (Marshalling.ofFields o d.contentType empty .json []).writer =
        .document .json (.object []) := rfl
    rw [ht]
    exact Marshalling.add_document hown hloc htype hwriter hread hplain
  have hadd : Marshalling.addMembers [b] (.map request) _ = .ok _ :=
    Marshalling.addMembers_cons.2 ⟨_, hmember, rfl⟩
  have hmarshalled : (d.marshalling o >>= Marshalling.addAll [b] (.map request)) =
      .ok (.ofFields o d.contentType empty .json
        [(.text b.name, v.normalForm Encoding.json.convert)]) := by
    rw [hopen]
    show (Marshalling.addMembers [b] (.map request) _).mapError Failure.marshalling = _
    rw [hadd]
    rfl
  -- a document has at least its braces
  have hheld : Value.Held Json.IsExact
      (.map (Fields.named [((b.name : Text), v.normalForm Encoding.json.convert)])) := by
    refine .map (List.nodup_singleton _) (fun p hp => ?_) fun p hp => ?_
    · rw [List.mem_singleton.1 hp]
      exact Json.isExact_ofText (Text.isJoined_ofString b.name)
    · rw [List.mem_singleton.1 hp]
      exact Json.held_normalForm hplain
  rw [Fields.named_cons, Value.ofText_ofString] at hheld
  obtain ⟨bytes, hencoded, hparse⟩ := Encoding.parse_encode_json hheld
  have hne : bytes ≠ [] := by
    rintro rfl
    exact Encoding.parse_json_nil _ hparse
  have hcomplete : (Marshalling.ofFields o d.contentType empty .json
      [(.text b.name, v.normalForm Encoding.json.convert)]).finishBody.1 = .ok (.blob bytes) := by
    have hencoded : Encoding.json.encode
        (.map [(.text b.name, v.normalForm Encoding.json.convert)]) = .ok bytes := hencoded
    rw [Marshalling.finishBody_fields hbody, hencoded]
    rfl
  have hcompletes : d.Completes o [b] (.map request) _ (.blob bytes) := ⟨hmarshalled, hcomplete⟩
  have hsilent : (d.writer o).isSilent = false := by
    rw [← hcompletes.isSilent, Marshalling.finishBody_document hbody rfl]
    rfl
  obtain ⟨r, hr, rfl, hheaders⟩ := hcompletes.payload_exists hne rfl hsilent hcontent htarget
    (Marshalling.resolvedPath_root huri) rfl (Operation.pathReadsAt_root hroot) parts
  refine ⟨r, ?_, ?_, hencoded⟩
  · exact (hcompletes.request_eq _ _).trans ((Marshalling.finish_of_body hcomplete).symm.trans hr)
  · rw [hheaders]
    exact Operation.isChunked_payload _ _ _

end Dialect

/-! ### Documents that are embedded as they are -/

namespace Value

mutual

/-- Whether a map in a value has a field that is null. -/
def hasNullField : Value → Bool
  | .map fields => fieldsHaveNull fields
  | .list items | .tuple items => itemsHaveNullField items
  | _ => false

def itemsHaveNullField : List Value → Bool
  | [] => false
  | v :: rest => v.hasNullField || itemsHaveNullField rest

def fieldsHaveNull : List (Value × Value) → Bool
  | [] => false
  | (_, .null) :: _ => true
  | (_, v) :: rest => v.hasNullField || fieldsHaveNull rest

end

variable {convert : Value → Value}

theorem fieldsHaveNull_null (k : Value) (rest : List (Value × Value)) :
    fieldsHaveNull ((k, .null) :: rest) = true := by
  rw [fieldsHaveNull]

theorem fieldsHaveNull_cons {v : Value} (hv : v ≠ .null) (k : Value)
    (rest : List (Value × Value)) :
    fieldsHaveNull ((k, v) :: rest) = (v.hasNullField || fieldsHaveNull rest) := by
  cases v <;> first | exact absurd rfl hv | rfl

/-- No field is added. -/
theorem length_normalPairs_le (convert : Value → Value) (pairs : List (Text × Value)) :
    (normalPairs convert pairs).length ≤ pairs.length := by
  have hnames : ((normalPairs convert pairs).map (·.1)).Sublist _ := names_normalPairs pairs
  have hlength := hnames.length_le
  rwa [List.length_map, List.length_map] at hlength

theorem normalItems_eq_self_iff {items : List Value}
    (h : ∀ v ∈ items, v.normalForm convert = v ↔ v.hasNullField = false) :
    normalItems convert items = items ↔ itemsHaveNullField items = false := by
  induction items with
  | nil => exact iff_of_true rfl rfl
  | cons v rest ih =>
    rw [List.forall_mem_cons] at h
    rw [normalItems, itemsHaveNullField, List.cons.injEq, h.1, ih h.2, Bool.or_eq_false_iff]

theorem normalPairs_eq_self_iff {pairs : List (Text × Value)}
    (h : ∀ p ∈ pairs, p.2.normalForm convert = p.2 ↔ p.2.hasNullField = false) :
    normalPairs convert pairs = pairs ↔ fieldsHaveNull (Fields.named pairs) = false := by
  induction pairs with
  | nil => exact iff_of_true rfl rfl
  | cons p rest ih =>
    obtain ⟨name, v⟩ := p
    rw [List.forall_mem_cons] at h
    rw [Fields.named_cons]
    by_cases hv : v = .null
    · -- without the field there are too few
      subst hv
      rw [normalPairs_null, fieldsHaveNull_null]
      refine iff_of_false (fun heq => ?_) (by decide)
      have hlength := length_normalPairs_le convert rest
      rw [heq, List.length_cons] at hlength
      omega
    · rw [normalPairs_cons hv, fieldsHaveNull_cons hv, List.cons.injEq, Prod.mk.injEq,
        Bool.or_eq_false_iff, ih h.2, ← h.1]
      exact and_congr_left fun _ => and_iff_right rfl

end Value

/-- **A document in normal form is the document itself** exactly if no object in it has a field
that is null. -/
theorem Json.normalForm_eq_self_iff {v : Value} (h : v.Held Json.IsDiscrete) :
    v.normalForm Encoding.json.convert = v ↔ v.hasNullField = false := by
  induction h with
  | null => exact iff_of_true rfl rfl
  | @scalar v hv h =>
    rw [Value.normalForm_scalar hv]
    cases v <;> first | exact iff_of_true rfl rfl | exact False.elim h
  | list _ ih =>
    rw [Value.normalForm, Value.hasNullField, Value.list.injEq]
    exact Value.normalItems_eq_self_iff ih
  | map hd _ _ ih =>
    rw [Value.normalForm, Value.hasNullField, Value.map.injEq, Value.normalFields_named,
      ← Value.normalPairs_eq_self_iff ih]
    exact ⟨fun heq => Fields.named_injective heq, fun heq => by rw [heq]⟩

namespace Dialect

/-- **What becomes of a document that is given as text.** In a client of JSON, a member whose
value says a document without fractions is always added to the body. The body of a finished
request that is sent as a whole is read with a field under the name of the member: the normal form
of the document, unless two surrogates in it would make a pair. So the field is the document itself
exactly if no object in the document has a field that is null, which is dropped, and no such
surrogates stand in its texts, which become one character. -/
theorem document_embedded (d : Dialect) (hjson : d.encoding = .json) (o : Operation)
    (hbody : o.hasBodyMember = false) (hpayload : o.hasPayload = true ∨ o.protocol = .awsJson)
    (bindings : List Binding) (hown : ∀ c ∈ bindings, c.isBody = false) (b : Binding)
    (hb : b ∈ bindings) (hloc : b.location = .payload) (htype : b.type = .jsonValue)
    (hname : ∀ c ∈ bindings, c.location = .payload → c.name = b.name → c = b)
    (request : Fields) (t : Text) (ht : b.valueIn request = .ofText t) (v : Value)
    (hread : Json.read t = .ok v) (hv : v.Held Json.IsDiscrete) :
    (∀ (m : Marshalling) (fields : Fields), m.writer = .document d.encoding (.object fields) →
      m.add b (.ofText t) = (.ok (), { m with writer := .document d.encoding (.object
        (fields.put (.text b.name) (v.normalForm d.encoding.convert))) })) ∧
    ∀ endpoint parts r, d.request o bindings (.map request) endpoint parts = .ok r →
      Request.isChunked r.headers = false → ∃ fields,
        d.encoding.parse r.body = .ok (.map fields) ∧
        (v.Held Json.IsExact →
          Fields.get? (.text b.name) fields = some (v.normalForm d.encoding.convert)) ∧
        (Fields.get? (.text b.name) fields = some v ↔
          v.hasNullField = false ∧ v.Held Json.IsExact) := by
  have hplain : v.Plain Json.IsDiscrete := hv.plain fun _ h => h
  rw [hjson]
  refine ⟨fun m fields hw => Marshalling.add_document (hown b hb) hloc htype hw hread hplain,
    fun endpoint parts r hr hwhole => ?_⟩
  obtain ⟨m, body, hm, hassemble⟩ := exists_completes_of_request hr
  obtain ⟨started, hstart, hadd⟩ := bind_eq_ok.1 hm.marshalled
  have hgate : o.protocol ≠ .apiGateway := by
    intro hgateway
    obtain ⟨empty, hempty, -⟩ := Dialect.marshalling_eq_ok.1 hstart
    rw [Operation.emptyBody, if_pos hgateway] at hempty
    cases hempty
  obtain ⟨empty, hopen⟩ := d.marshalling_eq hgate hbody hpayload
  obtain rfl := Except.ok.inj (hopen.symm.trans hstart)
  rw [hjson] at hadd
  -- the members write the fields of the body, and the document is one of them
  obtain ⟨written, hw, hnamed, hfield⟩ := Marshalling.addMembers_document hown hname (hown b hb)
    hloc htype ht hread hplain rfl Fields.isNamed_nil (.inl hb) (Marshalling.addAll_eq_ok hadd)
  obtain ⟨bytes, rfl, hbytes⟩ := hm.written hown
  rw [Marshalling.finishBody_document (by rw [hm.kept.1, hbody]) hw] at hbytes
  have hencoded : Encoding.json.encode (.map written) = .ok bytes := hbytes
  obtain ⟨read, hparse, hget⟩ := Json.parse_field hnamed hencoded hfield
  have hne : bytes ≠ [] := by
    rintro rfl
    exact Encoding.parse_json_nil _ hparse
  have hnormal : v.Held Json.IsExact →
      Fields.get? (.text b.name) read = some (v.normalForm Encoding.json.convert) :=
    fun hexact => hget (Json.held_normalForm (hexact.plain fun _ h => .inl h))
  rw [Marshalling.body_of_assemble hne hassemble hwhole]
  refine ⟨read, hparse, hnormal, fun hsame => ?_, ?_⟩
  · -- what is read back has no such surrogates
    have hexact := Json.held_isExact (Json.held_of_get? hparse hsame) hv
    have heq := Option.some.inj ((hnormal hexact).symm.trans hsame)
    exact ⟨(Json.normalForm_eq_self_iff hv).1 heq, hexact⟩
  · rintro ⟨hnull, hexact⟩
    rw [hnormal hexact, (Json.normalForm_eq_self_iff hv).2 hnull]

/-- A null that is an item of an array stays. -/
theorem document_embedded_nested :
    ∃ r fields, Dialect.request ⟨⟨"1.1", none, false, false, .root, []⟩, .json, []⟩
        ⟨.awsJson, "/", "POST", none, false, true⟩
        [⟨.jsonValue, .payload, "Doc", none, false, none⟩]
        (.map [(.text "Doc", .text "[null,\x7b\"a\":[\"x\",true]\x7d]")])
        DnsEndpoint.localhost.text (.withoutFiles "b") = .ok r ∧
      Encoding.json.parse r.body = .ok (.map fields) ∧
      Fields.get? (.text "Doc") fields =
        some (.list [.null, .map [(.text "a", .list [.text "x", .bool true])]]) := by
  have hheld : ∀ {scalar : Value → Prop}, (∀ s, scalar (.text s)) → scalar (.bool true) →
      (Value.list [.null, .map (Fields.named [("a", .list [.text "x", .bool true])])]).Held
        scalar := by
    intro scalar htext hbool
    refine .list (List.forall_mem_cons.2 ⟨.null, List.forall_mem_singleton.2 ?_⟩)
    refine .map (List.nodup_singleton _) (List.forall_mem_singleton.2 (htext "a"))
      (List.forall_mem_singleton.2 (.list ?_))
    exact List.forall_mem_cons.2 ⟨.scalar rfl (htext "x"),
      List.forall_mem_singleton.2 (.scalar rfl hbool)⟩
  have hexact := @hheld Json.IsExact Json.isExact_text ⟨trivial, fun _ => Value.noConfusion⟩
  have hread := @Json.read_printed _ hexact "[null,\x7b\"a\":[\"x\",true]\x7d]" rfl
  obtain ⟨r, hr, hwhole, -⟩ := @request_of_document
    ⟨⟨"1.1", none, false, false, .root, []⟩, .json, []⟩
    ⟨.awsJson, "/", "POST", none, false, true⟩ rfl (by decide) rfl (.inl rfl)
    ⟨.jsonValue, .payload, "Doc", none, false, none⟩ rfl rfl rfl
    [(.text "Doc", .text "[null,\x7b\"a\":[\"x\",true]\x7d]")] _ rfl _ hread hexact (by decide) rfl
    rfl .localhost rfl (.withoutFiles "b")
  obtain ⟨fields, hparse, -, hsame⟩ := (document_embedded
    ⟨⟨"1.1", none, false, false, .root, []⟩, .json, []⟩ rfl
    ⟨.awsJson, "/", "POST", none, false, true⟩ rfl (.inl rfl)
    [⟨.jsonValue, .payload, "Doc", none, false, none⟩]
    (fun c hc => by rw [List.mem_singleton.1 hc]) ⟨.jsonValue, .payload, "Doc", none, false, none⟩
    List.mem_cons_self rfl rfl (fun c hc _ _ => List.mem_singleton.1 hc)
    [(.text "Doc", .text "[null,\x7b\"a\":[\"x\",true]\x7d]")] _ rfl _ hread
    (hheld (fun _ => trivial) trivial)).2 _ _ r hr hwhole
  exact ⟨r, fields, hr, hparse, hsame.2 ⟨rfl, hexact⟩⟩

/-- A null that is a field of an object is dropped. -/
theorem document_not_embedded :
    Json.read "\x7b\"a\":null\x7d" = .ok (.map [(.text "a", .null)]) ∧
    ∃ r, Dialect.request ⟨⟨"1.1", none, false, false, .root, []⟩, .json, []⟩
        ⟨.awsJson, "/", "POST", none, false, true⟩
        [⟨.jsonValue, .payload, "Doc", none, false, none⟩]
        (.map [(.text "Doc", .text "\x7b\"a\":null\x7d")]) DnsEndpoint.localhost.text
        (.withoutFiles "b") = .ok r ∧
      Encoding.json.parse r.body = .ok (.map [(.text "Doc", .map [])]) := by
  have hheld : (Value.map (Fields.named [("a", .null)])).Held Json.IsExact :=
    .map (List.nodup_singleton _) (List.forall_mem_singleton.2 (Json.isExact_text "a"))
      (List.forall_mem_singleton.2 .null)
  have hread := @Json.read_printed _ hheld "\x7b\"a\":null\x7d" rfl
  obtain ⟨r, hr, -, hencoded⟩ := @request_of_document
    ⟨⟨"1.1", none, false, false, .root, []⟩, .json, []⟩
    ⟨.awsJson, "/", "POST", none, false, true⟩ rfl (by decide) rfl (.inl rfl)
    ⟨.jsonValue, .payload, "Doc", none, false, none⟩ rfl rfl rfl
    [(.text "Doc", .text "\x7b\"a\":null\x7d")] _ rfl _ hread hheld (by decide) rfl rfl
    .localhost rfl (.withoutFiles "b")
  have hempty : (Value.map (Fields.named [("Doc", .map (Fields.named []))])).Held Json.IsExact :=
    .map (List.nodup_singleton _) (List.forall_mem_singleton.2 (Json.isExact_text "Doc"))
      (List.forall_mem_singleton.2
        (.map List.nodup_nil (List.forall_mem_nil _) (List.forall_mem_nil _)))
  obtain ⟨bytes, hbytes, hparse⟩ := Encoding.parse_encode_json hempty
  obtain rfl : bytes = r.body := Except.ok.inj (hbytes.symm.trans hencoded)
  exact ⟨hread, r, hr, hparse⟩

end Dialect

end ServiceClient
