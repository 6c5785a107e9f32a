import ServiceClient.Proofs.ErrorReading
import ServiceClient.Proofs.FieldNames

/-!
# The class of an error

Where all errors of a service are modelled, the code of a response decides the class of its error.
What else is in the body only sets members, unless a field is named by something that is no name:
then nothing is left of the class.

* `ErrorShape.classFor`: the class that the shapes of a service give to a code.
* `ErrorReader.find?_modelled`: the reader of a code makes errors of its class.
* `ErrorReader.setMembers_of_names`, `ErrorReader.setMembers_of_noName`: what fields do to an error.
* `Dialect.error_of_code`: the class and the message of an error in every encoding.
-/

namespace ServiceClient

/-- A key that can be compared with the names of members: texts, and byte strings of two kinds. -/
def Value.isName : Value → Bool
  | .text _ | .loose _ | .bytes .fixed _ | .bytes .array _ => true
  | _ => false

theorem Fields.HaveTextKeys.isName {fields : Fields} (h : fields.HaveTextKeys) :
    ∀ f ∈ fields, f.1.isName = true := by
  intro f hf
  obtain ⟨name, hname⟩ := h f hf
  rw [hname]
  rcases Value.ofText_cases name with ⟨s, -, htext⟩ | ⟨l, -, htext⟩ <;> rw [htext] <;> rfl

namespace ErrorShape

/-- The class of a code: that of the first shape with it, or else the base class. -/
def classFor (shapes : List ErrorShape) (base : ErrorClass) (code : Option Text) : ErrorClass :=
  ((shapes.find? fun s => some s.code == code).bind errorClass).getD base

end ErrorShape

namespace ErrorReader

variable {shapes : List ErrorShape} {base : ErrorClass}

/-- **The reader of a code makes errors of its class** where all shapes have classes. -/
theorem find?_modelled (h : ∀ s ∈ shapes, s.custom = none ∧ s.errorClass.isSome)
    (code : Option Text) : ∃ bound, find? (ofShapes shapes base).result code =
      some (standard (ErrorShape.classFor shapes base code) bound) := by
  rw [result_ofShapes]
  induction shapes with
  | nil => exact ⟨none, rfl⟩
  | cons s rest ih =>
    obtain ⟨⟨hcustom, hclass⟩, hrest⟩ := List.forall_mem_cons.1 h
    obtain ⟨c, hc⟩ := Option.isSome_iff_exists.1 hclass
    have hreader : s.reader? = some (standard c (some s.code)) := by
      unfold ErrorShape.reader?
      rw [hcustom, hc]
    have haccepts : (standard c (some s.code)).accepts code = (some s.code == code) := rfl
    rw [List.filterMap_cons_some hreader, List.cons_append]
    by_cases hcode : (some s.code == code) = true
    · -- the first shape with the code is this one
      have hfirst : (s :: rest).find? (fun t => some t.code == code) = some s :=
        List.find?_cons_of_pos hcode
      have hclassFor : ErrorShape.classFor (s :: rest) base code = c := by
        rw [ErrorShape.classFor, hfirst, Option.bind_some, hc]
        rfl
      rw [hclassFor]
      exact ⟨some s.code, List.find?_cons_of_pos (haccepts.trans hcode)⟩
    · obtain ⟨bound, hfind⟩ := ih hrest
      have hskip : (s :: rest).find? (fun t => some t.code == code) =
          rest.find? (fun t => some t.code == code) :=
        List.find?_cons_of_neg hcode
      have hclassFor : ErrorShape.classFor (s :: rest) base code =
          ErrorShape.classFor rest base code := by
        rw [ErrorShape.classFor, hskip]
        rfl
      rw [hclassFor]
      refine ⟨bound, ?_⟩
      rw [find?, List.find?_cons_of_neg (by rw [haccepts]; exact hcode)]
      exact hfind

/-- **Fields with names set members** and nothing else. -/
theorem setMembers_of_names {fields : Fields} (h : ∀ f ∈ fields, f.1.isName = true)
    (e : ServiceError) :
    ∃ members, setMembers fields e = .ok { e with members := members } := by
  induction fields generalizing e with
  | nil => exact ⟨e.members, rfl⟩
  | cons f rest ih =>
    obtain ⟨k, v⟩ := f
    obtain ⟨hname, hrest⟩ := List.forall_mem_cons.1 h
    cases k with
    | text name =>
      rw [setMembers]
      cases e.errorClass.member? name with
      | none => exact ih hrest e
      | some m => exact ih hrest (e.setMember m v)
    | loose l => exact ih hrest e
    | bytes kind s =>
      cases kind with
      | fixed => exact ih hrest e
      | array => exact ih hrest e
      | view => cases hname
    | _ => cases hname

/-- **A field without a name fails the reader**, whatever is in front of it. -/
theorem setMembers_of_noName {fields : Fields} (h : ∃ f ∈ fields, f.1.isName = false)
    (e : ServiceError) : ∃ failure, setMembers fields e = .error failure := by
  induction fields generalizing e with
  | nil =>
    obtain ⟨f, hf, -⟩ := h
    cases hf
  | cons f rest ih =>
    obtain ⟨k, v⟩ := f
    rw [List.exists_mem_cons_iff] at h
    have hlater : k.isName = true → ∃ f ∈ rest, f.1.isName = false := by
      intro hname
      refine h.resolve_left fun hnone => ?_
      rw [hname] at hnone
      cases hnone
    -- a name is passed, with or without a member; any other key fails at once
    cases k with
    | text name =>
      rw [setMembers]
      cases e.errorClass.member? name with
      | none => exact ih (hlater rfl) e
      | some m => exact ih (hlater rfl) (e.setMember m v)
    | loose l => exact ih (hlater rfl) e
    | bytes kind s =>
      cases kind with
      | fixed => exact ih (hlater rfl) e
      | array => exact ih (hlater rfl) e
      | view => exact ⟨_, rfl⟩
    | _ => exact ⟨_, rfl⟩

end ErrorReader

namespace Dialect

/-- A body that is a map has its fields. -/
theorem readFields_of_parse {d : Dialect} {body : Bytes} {fields : Fields}
    (h : d.encoding.parse body = .ok (.map fields)) : (d.readFields body).result = fields := by
  have hsome : body ≠ [] := by
    rintro rfl
    exact Encoding.parse_nil_ne_map d.encoding fields h
  have hfilled : body.isEmpty = false := by simp [hsome]
  unfold readFields
  rw [hfilled, if_neg (by decide), h]
  rfl

/-- What the reader of a code makes of fields where all shapes have classes: an error of the class,
or one of the root class. -/
theorem makeError_modelled {shapes : List ErrorShape} {base : ErrorClass}
    (h : ∀ s ∈ shapes, s.custom = none ∧ s.errorClass.isSome) (code message : Option Text)
    (fields : Fields) :
    let made := (makeError (ErrorReader.ofShapes shapes base).result code fields message).result
    ((∀ f ∈ fields, f.1.isName = true) → ∃ members, made =
      { ServiceError.new (ErrorShape.classFor shapes base code) message with members := members }) ∧
    ((∃ f ∈ fields, f.1.isName = false) → made = .new .root (some (unreadable : Text))) := by
  intro made
  obtain ⟨bound, hfind⟩ := @ErrorReader.find?_modelled shapes base h code
  have hmade : made = _ := result_makeError hfind fields message
  have hstandard : (ErrorReader.standard (ErrorShape.classFor shapes base code) bound).read
      fields message = ErrorReader.setMembers fields
        (.new (ErrorShape.classFor shapes base code) message) := rfl
  rw [hstandard] at hmade
  refine ⟨fun hnames => ?_, fun hnone => ?_⟩
  · obtain ⟨members, hset⟩ := ErrorReader.setMembers_of_names hnames
      (.new (ErrorShape.classFor shapes base code) message)
    rw [hset] at hmade
    exact ⟨members, hmade⟩
  · obtain ⟨failure, hset⟩ := ErrorReader.setMembers_of_noName hnone
      (.new (ErrorShape.classFor shapes base code) message)
    rw [hset] at hmade
    exact hmade

/-- **The class and the message of an error.** Where all errors of a service are modelled, an error
response whose body is a map becomes an error of the first shape with its code, or of the base
class if no shape has it, with the message of the response, as long as every key in the body is a
name. A single key that is none leaves an error of the root class that has no such message; only
CBOR has such keys. There is no error at all exactly if an integer in the value that the code or
the message is taken from is too long to be written, which JSON does not have. -/
theorem error_of_code (s : ServiceMetadata) (w : Switches)
    (hshapes : ∀ t ∈ s.shapes, t.custom = none ∧ t.errorClass.isSome)
    (codeField serviceName : Option String) (r : Response) (fields : Fields)
    (hfields : (s.encoding w).parse r.body = .ok (.map fields)) :
    let read := ((Dialect.ofMetadata s w).result.readError codeField serviceName r).run.result
    (∀ e, read = .ok e → ∃ code message, errorCode r.headers fields codeField = .ok code ∧
      errorMessage r.headers fields = .ok message ∧
      ((∀ f ∈ fields, f.1.isName = true) →
        e.errorClass = ErrorShape.classFor s.shapes s.baseError code ∧ e.message = message) ∧
      ((∃ f ∈ fields, f.1.isName = false) →
        e.errorClass = .root ∧ e.message = some (unreadable : Text))) ∧
    (∀ f, read = .error f ↔ f = .longInteger ∧
      ((∃ v ∈ codeValue? r.headers fields codeField, v.hasLongInteger = true) ∨
        ∃ v ∈ messageValue? r.headers fields, v.hasLongInteger = true)) ∧
    (s.encoding w ≠ .cbor → ∀ f ∈ fields, f.1.isName = true) ∧
    (s.encoding w = .json → ∃ e, read = .ok e) := by
  intro read
  have hread : read = _ := result_readError (readFields_of_parse hfields) codeField serviceName
  have hreaders : (Dialect.ofMetadata s w).result.readers =
      (ErrorReader.ofShapes s.shapes s.baseError).result := rfl
  refine ⟨fun e he => ?_, fun f => ?_, fun hcbor => ?_, fun hjson => ?_⟩
  · rw [hread] at he
    obtain ⟨code, hcode, he⟩ := bind_eq_ok.1 he
    obtain ⟨message, hmessage, he⟩ := bind_eq_ok.1 he
    obtain rfl := Except.ok.inj he
    obtain ⟨hmodelled, hroot⟩ :=
      @makeError_modelled s.shapes s.baseError hshapes code message fields
    refine ⟨code, message, hcode, hmessage, fun hnames => ?_, fun hnone => ?_⟩
    · obtain ⟨members, hmade⟩ := hmodelled hnames
      -- a message that the reader has set is not filled in once more
      have honce : (message <|> message) = message := by cases message <;> rfl
      rw [hreaders, hmade]
      exact ⟨rfl, honce⟩
    · rw [hreaders, hroot hnone]
      exact ⟨rfl, rfl⟩
  · rw [hread, bind_eq_error, errorCode_eq_error]
    constructor
    · rintro (⟨hlong, rfl⟩ | ⟨code, -, h⟩)
      · exact ⟨rfl, .inl hlong⟩
      · obtain h | ⟨message, -, h⟩ := bind_eq_error.1 h
        · obtain ⟨hlong, rfl⟩ := errorMessage_eq_error.1 h
          exact ⟨rfl, .inr hlong⟩
        · cases h
    · rintro ⟨rfl, hlong | hlong⟩
      · exact .inl ⟨hlong, rfl⟩
      · -- a code that cannot be written fails before the message does
        have hmessage := errorMessage_eq_error.2 ⟨hlong, rfl⟩
        cases hcode : errorCode r.headers fields codeField with
        | error f => exact .inl ⟨(errorCode_eq_error.1 hcode).1, rfl⟩
        | ok code =>
          refine .inr ⟨code, rfl, ?_⟩
          rw [hmessage]
          rfl
  · have hkeyed := Encoding.textKeyed_of_parse hcbor hfields
    exact (hkeyed fields rfl).isName
  · exact exists_readError hjson codeField serviceName r

/-- A byte string as a key does not keep an error from its class. -/
theorem error_of_code_bytes :
    Encoding.cbor.parse [0xa1, 0x41, 0x61, 0x01] = .ok (.map [(.blob [0x61], .int 1)]) ∧
    ∃ e, ((Dialect.ofMetadata ⟨"1.1", none, true, false, .root, [⟨"NotFound",
        some ⟨"NotFound", ["ServiceException"], "NotFound", 404, true, []⟩, none⟩]⟩
      ⟨false, false⟩).result.readError none none ⟨404, [("x-amzn-ErrorType", "NotFound"),
        ("x-amzn-error-message", "gone")], [0xa1, 0x41, 0x61, 0x01]⟩).run.result = .ok e ∧
    e.errorClass.name = "NotFound" ∧ e.message = some ("gone" : Text) := by
  have hparse : Encoding.cbor.parse [0xa1, 0x41, 0x61, 0x01] =
      .ok (.map [(.blob [0x61], .int 1)]) := rfl
  obtain ⟨hclass, -, -⟩ := error_of_code ⟨"1.1", none, true, false, .root, [⟨"NotFound",
      some ⟨"NotFound", ["ServiceException"], "NotFound", 404, true, []⟩, none⟩]⟩ ⟨false, false⟩
    (by intro t ht; rw [List.mem_singleton.1 ht]; exact ⟨rfl, rfl⟩) none none
    ⟨404, [("x-amzn-ErrorType", "NotFound"), ("x-amzn-error-message", "gone")],
      [0xa1, 0x41, 0x61, 0x01]⟩ [(.blob [0x61], .int 1)] hparse
  obtain ⟨code, message, hcode, hmessage, hnames, -⟩ := hclass _ rfl
  obtain ⟨hname, htext⟩ := hnames (by simp [Value.isName])
  cases hcode
  cases hmessage
  exact ⟨hparse, _, rfl, congrArg ErrorClass.name hname, htext⟩

/-- A number as a key leaves nothing of the class that the code names. -/
theorem error_loses_class :
    Encoding.cbor.parse [0xa1, 0x01, 0x01] = .ok (.map [(.int 1, .int 1)]) ∧
    (ErrorShape.classFor [⟨"NotFound", some ⟨"NotFound", ["ServiceException"], "NotFound", 404,
        true, []⟩, none⟩] .root (some ("NotFound" : Text))).name = "NotFound" ∧
    errorCode ([("x-amzn-ErrorType", "NotFound")] : Headers) [(.int 1, .int 1)] none =
      .ok (some ("NotFound" : Text)) ∧
    ∃ e, ((Dialect.ofMetadata ⟨"1.1", none, true, false, .root, [⟨"NotFound",
        some ⟨"NotFound", ["ServiceException"], "NotFound", 404, true, []⟩, none⟩]⟩
      ⟨false, false⟩).result.readError none none
        ⟨404, [("x-amzn-ErrorType", "NotFound")], [0xa1, 0x01, 0x01]⟩).run.result = .ok e ∧
      e.errorClass.name = "ServiceException" := by
  have hparse : Encoding.cbor.parse [0xa1, 0x01, 0x01] = .ok (.map [(.int 1, .int 1)]) := rfl
  exact ⟨hparse, rfl, rfl, _, rfl, rfl⟩

end Dialect

end ServiceClient
