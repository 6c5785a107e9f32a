import ServiceClient.Proofs.Acceptance

/-!
# Refused calls

A call is refused before it changes anything. For a nested value this is so because only the place
of its first bracket can be wrong: inside of what it opened itself, each of its calls is accepted.

* `Document.write_of_place`: a nested value is written wherever a value may be written.
* `Document.state_of_refusal`: a refused call leaves the document as it was.
* `BodyWriter.accepted_run`: a run with refused calls ends as the run without them.
-/

namespace ServiceClient

namespace Document

variable {convert : Value → Value}

/-- The kinds of the open containers, the innermost first. -/
def kinds (d : Document) : List Kind := d.frames.map (kindOf ·.2)

theorem kinds_attach_eq (name : Option Value) (v : Value) (d : Document) :
    (d.attach name v).kinds = d.kinds := kinds_attach name v d

theorem kinds_of_place {d e : Document} {name : Option Value} (h : d.place = .ok (name, e)) :
    e.kinds = d.kinds := by
  unfold kinds
  rw [frames_of_place h]

theorem frames_of_array {d : Document} {ks : List Kind} (h : d.kinds = .array :: ks) :
    ∃ name items rest, d.frames = (name, .array items) :: rest ∧ rest.map (kindOf ·.2) = ks := by
  obtain ⟨name, f, rest, hframes, hf, hrest⟩ := frames_of_kinds h
  cases f with
  | object fields => cases hf
  | array items => exact ⟨name, items, rest, hframes, hrest⟩

theorem frames_of_object {d : Document} {ks : List Kind} (h : d.kinds = .object :: ks) :
    ∃ name fields rest, d.frames = (name, .object fields) :: rest ∧
      rest.map (kindOf ·.2) = ks := by
  obtain ⟨name, f, rest, hframes, hf, hrest⟩ := frames_of_kinds h
  cases f with
  | array items => cases hf
  | object fields => exact ⟨name, fields, rest, hframes, hrest⟩

/-- An open array can be ended. -/
theorem endArray_of_kinds {d : Document} {ks : List Kind} (h : d.kinds = .array :: ks) :
    ∃ f, d.endArray = .ok f ∧ f.kinds = ks := by
  obtain ⟨name, items, rest, hframes, hrest⟩ := frames_of_array h
  refine ⟨{ d with frames := rest }.attach name (.list items), ?_, ?_⟩
  · unfold endArray
    rw [hframes]
  · rw [kinds_attach_eq]
    exact hrest

/-- An open object can be ended, whatever name is pending. -/
theorem endObject_of_kinds {d : Document} {ks : List Kind} (h : d.kinds = .object :: ks) :
    ∃ f, d.endObject = .ok f ∧ f.kinds = ks := by
  obtain ⟨name, fields, rest, hframes, hrest⟩ := frames_of_object h
  refine ⟨{ d with frames := rest }.attach name (.map fields), ?_, ?_⟩
  · unfold endObject
    rw [hframes]
  · rw [kinds_attach_eq]
    exact hrest

/-! ### Values are written as a whole -/

theorem write_scalar_of_place {v : Value} (hv : v.isScalar = true) {d e : Document}
    {name : Option Value} (h : d.place = .ok (name, e)) :
    ∃ f, write convert v d = .ok f ∧ f.kinds = d.kinds := by
  refine ⟨e.attach name (convert v), ?_, ?_⟩
  · rw [write_scalar hv, add_of_place h]
  · rw [kinds_attach_eq, kinds_of_place h]

mutual

/-- **A nested value is written wherever a value may be written**, and leaves the same containers
open. -/
theorem write_of_place : ∀ (v : Value) {d e : Document} {name : Option Value},
    v.hasTextKeys = true → d.place = .ok (name, e) →
      ∃ f, write convert v d = .ok f ∧ f.kinds = d.kinds
  | .map fields, d, e, name, hkeys, hplace => by
    rw [Value.hasTextKeys] at hkeys
    -- the map is open in the place of its value
    have hopen : ({ e with frames := (name, .object []) :: e.frames } : Document).kinds =
        .object :: d.kinds := by
      rw [← kinds_of_place hplace]
      rfl
    obtain ⟨f, hfields, hkinds⟩ := writeFields_of_object fields hkeys hopen
    obtain ⟨g, hend, hclosed⟩ := endObject_of_kinds hkinds
    refine ⟨g, ?_, hclosed⟩
    rw [write, startObject_of_place hplace]
    show writeFields convert fields _ >>= endObject = _
    rw [hfields]
    exact hend
  | .list items, d, e, name, hkeys, hplace => by
    rw [Value.hasTextKeys] at hkeys
    obtain ⟨g, hitems, hclosed⟩ := writeArray_of_place items hkeys hplace
    exact ⟨g, by rw [write]; exact hitems, hclosed⟩
  | .tuple items, d, e, name, hkeys, hplace => by
    rw [Value.hasTextKeys] at hkeys
    obtain ⟨g, hitems, hclosed⟩ := writeArray_of_place items hkeys hplace
    exact ⟨g, by rw [write]; exact hitems, hclosed⟩
  | .null, d, e, name, _, hplace => by
    refine ⟨e.attach name .null, ?_, ?_⟩
    · rw [write_null, add_of_place hplace]
    · rw [kinds_attach_eq, kinds_of_place hplace]
  | .bool _, _, _, _, _, h | .int _, _, _, _, _, h | .double _, _, _, _, _, h
  | .decimal _, _, _, _, _, h | .text _, _, _, _, _, h | .loose _, _, _, _, _, h
  | .bytes .., _, _, _, _, h | .timestamp _, _, _, _, _, h | .set _, _, _, _, _, h
  | .symbol _, _, _, _, _, h | .tagged .., _, _, _, _, h | .simple _, _, _, _, _, h
  | .undefined, _, _, _, _, h => write_scalar_of_place rfl h

/-- An array of items, with its brackets. -/
theorem writeArray_of_place : ∀ (items : List Value) {d e : Document} {name : Option Value},
    Value.itemsHaveTextKeys items = true → d.place = .ok (name, e) →
      ∃ f, (d.startArray >>= fun d => writeItems convert items d >>= endArray) = .ok f ∧
        f.kinds = d.kinds
  | items, d, e, name, hkeys, hplace => by
    have hopen : ({ e with frames := (name, .array []) :: e.frames } : Document).kinds =
        .array :: d.kinds := by
      rw [← kinds_of_place hplace]
      rfl
    obtain ⟨f, hitems, hkinds⟩ := writeItems_of_array items hkeys hopen
    obtain ⟨g, hend, hclosed⟩ := endArray_of_kinds hkinds
    refine ⟨g, ?_, hclosed⟩
    rw [startArray_of_place hplace]
    show writeItems convert items _ >>= endArray = _
    rw [hitems]
    exact hend

/-- Items are written to an open array. -/
theorem writeItems_of_array : ∀ (items : List Value) {d : Document} {ks : List Kind},
    Value.itemsHaveTextKeys items = true → d.kinds = .array :: ks →
      ∃ f, writeItems convert items d = .ok f ∧ f.kinds = .array :: ks
  | [], d, ks, _, hkinds => ⟨d, by rw [writeItems], hkinds⟩
  | v :: items, d, ks, hkeys, hkinds => by
    rw [Value.itemsHaveTextKeys, Bool.and_eq_true] at hkeys
    obtain ⟨name, xs, rest, hframes, -⟩ := frames_of_array hkinds
    obtain ⟨f, hv, hf⟩ := write_of_place v hkeys.1 (place_array hframes)
    obtain ⟨g, hitems, hg⟩ := writeItems_of_array items hkeys.2 (hf.trans hkinds)
    refine ⟨g, ?_, hg⟩
    rw [writeItems, hv]
    exact hitems

/-- Fields are written to an open object: each names its value first. -/
theorem writeFields_of_object : ∀ (fields : List (Value × Value)) {d : Document} {ks : List Kind},
    Value.fieldsHaveTextKeys fields = true → d.kinds = .object :: ks →
      ∃ f, writeFields convert fields d = .ok f ∧ f.kinds = .object :: ks
  | [], d, ks, _, hkinds => ⟨d, by rw [writeFields], hkinds⟩
  | (k, v) :: fields, d, ks, hkeys, hkinds => by
    rw [Value.fieldsHaveTextKeys, Bool.and_eq_true, Bool.and_eq_true] at hkeys
    obtain ⟨⟨hkey, hvalue⟩, hrest⟩ := hkeys
    obtain ⟨text, htext⟩ := Option.isSome_iff_exists.1 hkey
    obtain rfl := Value.text?_eq_some.1 htext
    by_cases hnull : v = .null
    · rw [hnull, writeFields_null]
      exact writeFields_of_object fields hrest hkinds
    · obtain ⟨name, fs, rest, hframes, -⟩ := frames_of_object hkinds
      obtain ⟨f, hv, hf⟩ := write_of_place v hvalue (place_object hframes text)
      have hkept : f.kinds = .object :: ks := hf.trans hkinds
      obtain ⟨g, hfields, hg⟩ := writeFields_of_object fields hrest hkept
      refine ⟨g, ?_, hg⟩
      rw [writeFields_cons hnull, fieldName_object hframes]
      show write convert v _ >>= writeFields convert fields = _
      rw [hv]
      exact hfields

end

/-- Where no value may be written, the document stays as it is. -/
theorem state_of_place {d : Document} {r : Refusal} (h : d.place = .error r) : r.state = d := by
  unfold place at h
  split at h
  · split at h <;> cases h
    rfl
  · cases h
  · split at h
    · cases h
      rfl
    · split at h <;> cases h
      rfl

/-- Where no value may be written, none is begun. -/
theorem write_of_place_error {d : Document} {r : Refusal} (h : d.place = .error r) (v : Value) :
    write convert v d = .error r := by
  -- whichever way a value is written, it asks for a place first
  have hobject : d.startObject = .error r := by
    unfold startObject
    rw [h]
    rfl
  have harray : d.startArray = .error r := by
    unfold startArray
    rw [h]
    rfl
  have hadd : ∀ w, d.add w = .error r := by
    intro w
    unfold add
    rw [h]
    rfl
  cases v with
  | map fields =>
    rw [write, hobject]
    rfl
  | list items | tuple items =>
    rw [write, harray]
    rfl
  | null => rw [write_null, hadd]
  | _ => rw [write_scalar rfl, hadd]

/-- A nested value is refused exactly where no value may be written. -/
theorem write_eq_error {v : Value} (hkeys : v.hasTextKeys = true) {d : Document} {r : Refusal} :
    write convert v d = .error r ↔ d.place = .error r := by
  constructor
  · intro h
    cases hplace : d.place with
    | error s =>
      rw [write_of_place_error hplace] at h
      rw [Except.error.inj h]
    | ok placed =>
      have hwritten : ∃ f, write convert v d = .ok f ∧ f.kinds = d.kinds :=
        write_of_place v hkeys hplace
      obtain ⟨f, hwrite, -⟩ := hwritten
      rw [hwrite] at h
      cases h
  · intro h
    exact write_of_place_error h v

/-- Whether the maps that a call writes have texts as keys. -/
def Call.hasTextKeys : Call → Bool
  | .value v => v.hasTextKeys
  | _ => true

/-- **A refused call leaves the document as it was.** -/
theorem state_of_refusal {d : Document} {c : Call} {r : Refusal} (hkeys : c.hasTextKeys = true)
    (h : d.perform convert c = .error r) : r.state = d := by
  cases c with
  | startObject =>
    rcases bind_eq_error.1 h with hplace | ⟨placed, -, hok⟩
    · exact state_of_place hplace
    · cases hok
  | startArray =>
    rcases bind_eq_error.1 h with hplace | ⟨placed, -, hok⟩
    · exact state_of_place hplace
    · cases hok
  | endObject =>
    rw [perform, endObject] at h
    split at h
    · cases h
    · cases h
      rfl
  | endArray =>
    rw [perform, endArray] at h
    split at h
    · cases h
    · cases h
      rfl
  | fieldName name =>
    change d.fieldName name = .error r at h
    unfold fieldName at h
    split at h
    · cases h
    · cases h
      rfl
  | value v => exact state_of_place ((write_eq_error hkeys).1 h)

/-- The calls of a tree begin with one that is refused exactly where no value may be written. -/
theorem exists_first_call (convert : Value → Value) (t : Tree) : ∃ c rest, t.calls = c :: rest ∧
    ∀ (d : Document) (r : Refusal), d.perform convert c = .error r ↔ d.place = .error r := by
  have hvalue : ∀ v : Value, v.hasTextKeys = true → ∀ (d : Document) (r : Refusal),
      d.perform convert (.value v) = .error r ↔ d.place = .error r := by
    intro v hkeys d r
    exact write_eq_error hkeys
  cases t with
  | null => exact ⟨.value .null, [], by rw [Tree.calls], hvalue .null rfl⟩
  | scalar v hv =>
    have hkeys : v.hasTextKeys = true := by
      cases v <;> first | rfl | exact Bool.noConfusion hv
    exact ⟨.value v, [], by rw [Tree.calls], hvalue v hkeys⟩
  | array items =>
    refine ⟨.startArray, _, by rw [Tree.calls], fun d r => ?_⟩
    rw [perform, startArray, bind_eq_error]
    constructor
    · rintro (hplace | ⟨placed, -, hok⟩)
      · exact hplace
      · cases hok
    · exact fun hplace => .inl hplace
  | object fields =>
    refine ⟨.startObject, _, by rw [Tree.calls], fun d r => ?_⟩
    rw [perform, startObject, bind_eq_error]
    constructor
    · rintro (hplace | ⟨placed, -, hok⟩)
      · exact hplace
      · cases hok
    · exact fun hplace => .inl hplace

end Document

namespace BodyWriter

open Document (Call)

/-- The writer after calls, whichever of them were refused. -/
def after : List Call → BodyWriter → BodyWriter
  | [], w => w
  | c :: rest, w => after rest (w.perform c).2

/-- The calls that are accepted where they are made. -/
def accepted : List Call → BodyWriter → List Call
  | [], _ => []
  | c :: rest, w =>
    match w.perform c with
    | (.ok (), w) => c :: accepted rest w
    | (.error _, w) => accepted rest w

/-- A writer refuses what its document refuses. -/
theorem perform_eq_error {encoding : Encoding} {d : Document} {c : Call} {f : Failure}
    {w : BodyWriter} : (document encoding d).perform c = (.error f, w) ↔
      ∃ r, d.perform encoding.convert c = .error r ∧ .misuse r.cause = f ∧
        document encoding r.state = w := by
  cases hperform : d.perform encoding.convert c with
  | ok e =>
    have hok : (document encoding d).perform c = (.ok (), document encoding e) := by
      simp only [perform, hperform]
    rw [hok]
    simp
  | error r =>
    have herror : (document encoding d).perform c =
        (.error (.misuse r.cause), document encoding r.state) := by
      simp only [perform, hperform]
    rw [herror]
    simp

/-- A refused call leaves the writer as it was. -/
theorem writer_of_refusal {w w' : BodyWriter} {c : Call} {f : Failure}
    (hkeys : c.hasTextKeys = true) (h : w.perform c = (.error f, w')) : w' = w := by
  cases w with
  | silent => cases h
  | document encoding d =>
    obtain ⟨r, hr, -, hw⟩ := perform_eq_error.1 h
    rw [← hw, Document.state_of_refusal hkeys hr]

/-- The accepted calls of a run are accepted without the others, and end in the same state. -/
theorem performAll_accepted {calls : List Call} (hkeys : ∀ c ∈ calls, c.hasTextKeys = true)
    (w : BodyWriter) : performAll (accepted calls w) w = (.ok (), after calls w) := by
  induction calls generalizing w with
  | nil => rfl
  | cons c rest ih =>
    rw [List.forall_mem_cons] at hkeys
    rw [accepted, after]
    match hperform : w.perform c with
    | (.ok (), next) =>
      dsimp only
      rw [performAll, hperform]
      exact ih hkeys.2 next
    | (.error f, next) =>
      -- the call has changed nothing, so that the next ones find what they would find without it
      obtain rfl := writer_of_refusal hkeys.1 hperform
      exact ih hkeys.2 next

/-- A nested value is refused exactly if the first of its calls is. -/
theorem exists_first_refused {v : Value} (hkeys : v.hasTextKeys = true) (w : BodyWriter) :
    ∃ c rest, (Tree.ofValue v).calls = c :: rest ∧ ∀ f,
      w.perform (.value v) = (.error f, w) ↔ w.perform c = (.error f, w) := by
  cases w with
  | silent =>
    obtain ⟨c, rest, hcalls, -⟩ := Document.exists_first_call id (Tree.ofValue v)
    refine ⟨c, rest, hcalls, fun f => ?_⟩
    constructor
    · intro h
      cases h
    · intro h
      cases h
  | document encoding d =>
    obtain ⟨c, rest, hcalls, hfirst⟩ :=
      Document.exists_first_call encoding.convert (Tree.ofValue v)
    have hvalue : ∀ r, d.perform encoding.convert (.value v) = .error r ↔ d.place = .error r := by
      intro r
      exact Document.write_eq_error hkeys
    refine ⟨c, rest, hcalls, fun f => ?_⟩
    simp only [perform_eq_error, hfirst, hvalue]

/-- **A refused call leaves no trace.** A run in which calls are refused ends with the writer, and
so with the body, of the run without them, in which none is refused. Each refused call leaves the
writer as it was, and a nested value is refused before any part of it is written: exactly where the
first of its calls would be. -/
theorem accepted_run (w : BodyWriter) {calls : List Call}
    (hkeys : ∀ c ∈ calls, c.hasTextKeys = true) :
    performAll (accepted calls w) w = (.ok (), after calls w) ∧
    (performAll (accepted calls w) w).2.bytes = (after calls w).bytes ∧
    (∀ c, c.hasTextKeys = true → ∀ f w', w.perform c = (.error f, w') → w' = w) ∧
    ∀ v : Value, v.hasTextKeys = true → ∃ c rest, (Tree.ofValue v).calls = c :: rest ∧ ∀ f,
      w.perform (.value v) = (.error f, w) ↔ w.perform c = (.error f, w) := by
  have hrun := performAll_accepted hkeys w
  refine ⟨hrun, ?_, ?_, ?_⟩
  · rw [hrun]
  · intro c hc f w' h
    exact writer_of_refusal hc h
  · intro v hv
    exact exists_first_refused hv w

/-- An array that is not open, a value without a name, and one behind the root. -/
theorem accepted_run_nested :
    let nested : Value := .map [(.text "a", .list [.map [(.text "b", .int 1)]])]
    let calls : List Call := [.endArray, .startObject, .value nested, .fieldName (.text "c"),
      .endArray, .value nested, .endObject, .value nested]
    let w := after calls (new .json)
    accepted calls (new .json) =
      [.startObject, .fieldName (.text "c"), .value nested, .endObject] ∧
    performAll [.startObject, .fieldName (.text "c"), .value nested, .endObject] (new .json) =
      (.ok (), w) ∧
    w.bytes = .ok (Utf8.encode "\x7b\"c\":\x7b\"a\":[\x7b\"b\":1\x7d]\x7d\x7d") ∧
    ∃ c rest, (Tree.ofValue nested).calls = c :: rest ∧ ∀ f,
      w.perform (.value nested) = (.error f, w) ↔ w.perform c = (.error f, w) := by
  intro nested calls w
  have haccepted : accepted calls (new .json) =
      [.startObject, .fieldName (.text "c"), .value nested, .endObject] := rfl
  have hkeys : ∀ c ∈ calls, c.hasTextKeys = true := by decide
  obtain ⟨hrun, -, -, -⟩ := accepted_run (new .json) hkeys
  obtain ⟨-, -, -, hfirst⟩ := accepted_run w hkeys
  rw [haccepted] at hrun
  exact ⟨haccepted, hrun, rfl, hfirst nested rfl⟩

end BodyWriter

end ServiceClient
