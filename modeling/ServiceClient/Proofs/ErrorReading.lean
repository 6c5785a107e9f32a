import ServiceClient.Proofs.DisplayedValues
import ServiceClient.Proofs.JsonReading
import ServiceClient.Service.Reply

/-!
# How an error response is classified

An error response becomes an error, unless the code or the message in its body cannot be written.
Which class it has is a matter of its code, and what members it has is a matter of the fields of
its body.

* `errorCode_eq_error`, `errorMessage_eq_error`: the codes and messages that cannot be written.
* `ErrorReader.IsFirst`: the reader that the shapes of a service give to a code.
* `ErrorClass.fieldFor`: the value that the fields of a body give to a member.
* `Dialect.result_readError`: the error of a response, from the error that the reader makes.
* `Dialect.error_of_json`: the classification by a service that speaks JSON.
-/

namespace ServiceClient

/-! ### Codes and messages -/

section Told

variable {h : Headers} {fields : Fields} {field : Option String} {f : Failure}

/-- The value in a body that a code is taken from; a header goes before it. -/
def codeValue? (h : Headers) (fields : Fields) (field : Option String) : Option Value :=
  match filledHeader? "x-amzn-ErrorType" h with
  | some _ => none
  | none => filledField? ((field.filter fun f => !f.isEmpty).getD codeField) fields

/-- The value in a body that a message is taken from; a header goes before it. -/
def messageValue? (h : Headers) (fields : Fields) : Option Value :=
  match filledHeader? "x-amzn-error-message" h with
  | some _ => none
  | none => messageFields.findSome? fun name => filledField? name fields

theorem displayedOf_eq_error {v : Option Value} :
    displayedOf v = .error f ↔ (∃ w ∈ v, w.hasLongInteger = true) ∧ f = .longInteger := by
  cases v with
  | none => simp [displayedOf]
  | some w =>
    have hmem : (∃ u ∈ some w, u.hasLongInteger = true) ↔ w.hasLongInteger = true := by simp
    rw [displayedOf, map_eq_error, Value.displayed_eq_error, hmem]

/-- **A code that cannot be written** is taken from a value with too long an integer. -/
theorem errorCode_eq_error : errorCode h fields field = .error f ↔
    (∃ v ∈ codeValue? h fields field, v.hasLongInteger = true) ∧ f = .longInteger := by
  unfold errorCode codeValue?
  cases filledHeader? "x-amzn-ErrorType" h with
  | some v => simp
  | none =>
    dsimp only
    rw [map_eq_error, displayedOf_eq_error]

/-- **A message that cannot be written** is taken from a value with too long an integer. -/
theorem errorMessage_eq_error : errorMessage h fields = .error f ↔
    (∃ v ∈ messageValue? h fields, v.hasLongInteger = true) ∧ f = .longInteger := by
  unfold errorMessage messageValue?
  cases filledHeader? "x-amzn-error-message" h with
  | some v => simp
  | none =>
    dsimp only
    rw [displayedOf_eq_error]

theorem mem_of_filledField? {name : String} {v : Value} (hv : filledField? name fields = some v) :
    Fields.get? (.text name) fields = some v := by
  unfold filledField? at hv
  split at hv
  · cases hv
  · cases hv
  · next hget =>
    cases hv
    exact hget

theorem mem_of_get? {key v : Value} (hv : Fields.get? key fields = some v) :
    ∃ k, (k, v) ∈ fields := by
  induction fields with
  | nil => cases hv
  | cons p rest ih =>
    obtain ⟨k, w⟩ := p
    rw [Fields.get?] at hv
    split at hv
    · cases hv
      exact ⟨k, List.mem_cons_self⟩
    · obtain ⟨k', hk'⟩ := ih hv
      exact ⟨k', List.mem_cons_of_mem _ hk'⟩

/-- The value that a code is taken from is in the body. -/
theorem mem_of_codeValue? {v : Value} (hv : v ∈ codeValue? h fields field) :
    ∃ k, (k, v) ∈ fields := by
  unfold codeValue? at hv
  split at hv
  · cases hv
  · exact mem_of_get? (mem_of_filledField? hv)

/-- The value that a message is taken from is in the body. -/
theorem mem_of_messageValue? {v : Value} (hv : v ∈ messageValue? h fields) :
    ∃ k, (k, v) ∈ fields := by
  unfold messageValue? at hv
  split at hv
  · cases hv
  · obtain ⟨name, -, hname⟩ := List.exists_of_findSome?_eq_some hv
    exact mem_of_get? (mem_of_filledField? hname)

/-- **Where no integer is too long** code and message can be written. -/
theorem exists_code_message (hshort : ∀ p ∈ fields, p.2.hasLongInteger = false) (h : Headers)
    (field : Option String) : ∃ code message, errorCode h fields field = .ok code ∧
      errorMessage h fields = .ok message := by
  cases hcode : errorCode h fields field with
  | error f =>
    obtain ⟨⟨v, hv, hlong⟩, -⟩ := errorCode_eq_error.1 hcode
    obtain ⟨k, hk⟩ := mem_of_codeValue? hv
    rw [hshort _ hk] at hlong
    cases hlong
  | ok code =>
    cases hmessage : errorMessage h fields with
    | error f =>
      obtain ⟨⟨v, hv, hlong⟩, -⟩ := errorMessage_eq_error.1 hmessage
      obtain ⟨k, hk⟩ := mem_of_messageValue? hv
      rw [hshort _ hk] at hlong
      cases hlong
    | ok message => exact ⟨code, message, rfl, rfl⟩

end Told

namespace ErrorReader

/-- The reader is bound to the code, or to none. -/
def Reads (r : ErrorReader) (code : Option Text) : Prop := r.code = none ∨ r.code = code

/-- The reader of a code: that of the first shape whose reader reads the code, or else the one
that reads every error as one of the base class. -/
inductive IsFirst (shapes : List ErrorShape) (base : ErrorClass) (code : Option Text) :
    ErrorReader → Prop
  | shape {earlier later : List ErrorShape} {s : ErrorShape} {r : ErrorReader}
      (hs : shapes = earlier ++ s :: later) (hr : s.reader? = some r) (hreads : r.Reads code)
      (hearlier : ∀ t ∈ earlier, ∀ q, t.reader? = some q → ¬ q.Reads code) :
      IsFirst shapes base code r
  | base (hnone : ∀ t ∈ shapes, ∀ q, t.reader? = some q → ¬ q.Reads code) :
      IsFirst shapes base code (standard base none)

theorem accepts_iff (r : ErrorReader) (code : Option Text) :
    r.accepts code = true ↔ r.Reads code := by
  unfold accepts Reads
  rw [Bool.or_eq_true, Option.isNone_iff_eq_none, beq_iff_eq]

/-- A shape without a reader plays no part. -/
theorem result_ofShapes (shapes : List ErrorShape) (base : ErrorClass) :
    (ofShapes shapes base).result =
      shapes.filterMap ErrorShape.reader? ++ [standard base none] := by
  induction shapes with
  | nil => rfl
  | cons s rest ih =>
    unfold ofShapes
    cases hr : s.reader? with
    | none =>
      rw [List.filterMap_cons_none hr, ← ih]
      rfl
    | some r =>
      rw [List.filterMap_cons_some hr, List.cons_append, ← ih]
      rfl

/-- **Every code has a reader**, the first one. -/
theorem find?_ofShapes (shapes : List ErrorShape) (base : ErrorClass) (code : Option Text) :
    ∃ r, find? (ofShapes shapes base).result code = some r ∧ IsFirst shapes base code r := by
  rw [result_ofShapes]
  induction shapes with
  | nil => exact ⟨_, rfl, .base (by intro t ht; cases ht)⟩
  | cons s rest ih =>
    obtain ⟨r, hfind, hfirst⟩ := ih
    -- a shape that does not read the code leaves the choice to the others
    have hskip : (∀ q, s.reader? = some q → ¬ q.Reads code) →
        IsFirst (s :: rest) base code r := by
      intro hs
      cases hfirst with
      | @shape earlier later t r hshapes hr hreads hearlier =>
        refine .shape (by rw [hshapes]; rfl : s :: rest = (s :: earlier) ++ t :: later) hr hreads ?_
        exact List.forall_mem_cons.2 ⟨hs, hearlier⟩
      | base hnone => exact .base (List.forall_mem_cons.2 ⟨hs, hnone⟩)
    cases hr : s.reader? with
    | none =>
      rw [List.filterMap_cons_none hr]
      exact ⟨r, hfind, hskip (by intro q hq; rw [hr] at hq; cases hq)⟩
    | some q =>
      rw [List.filterMap_cons_some hr, List.cons_append]
      by_cases hreads : q.Reads code
      · have hnone : ∀ t ∈ ([] : List ErrorShape), ∀ p, t.reader? = some p → ¬ p.Reads code := by
          intro t ht; cases ht
        refine ⟨q, ?_, .shape (rfl : s :: rest = [] ++ s :: rest) hr hreads hnone⟩
        exact List.find?_cons_of_pos ((accepts_iff q code).2 hreads)
      · refine ⟨r, ?_, hskip ?_⟩
        · have hneg : q.accepts code = false :=
            Bool.eq_false_iff.2 fun h => hreads ((accepts_iff q code).1 h)
          rw [find?, List.find?_cons, hneg]
          exact hfind
        · intro p hp
          rw [hr] at hp
          cases hp
          exact hreads

end ErrorReader

namespace ErrorClass

/-- Whether a key of a body is the name of a member in some spelling. -/
def isKeyOf (member : String) (key : Value) : Bool := key.text?.any fun name => sameName member name

/-- The value that the fields of a body give to a member: that of the last one with its name. -/
def fieldFor (member : String) (fields : Fields) : Option Value :=
  (fields.reverse.find? fun f => isKeyOf member f.1).map (·.2)

/-- A member that a class declares and that comes from bodies. -/
def Models (c : ErrorClass) (member : String) : Prop :=
  member ∈ c.members ∧ isModelled member = true

instance (c : ErrorClass) (member : String) : Decidable (c.Models member) :=
  inferInstanceAs (Decidable (_ ∧ _))

/-- The members that come from bodies differ in more than their spelling. -/
def HasDistinctMembers (c : ErrorClass) : Prop :=
  ∀ m n, c.Models m → c.Models n → sameName m n = true → m = n

/-- A field sets a member that has its name in some spelling. -/
theorem member?_eq_some {c : ErrorClass} (hc : c.HasDistinctMembers) {field : Text}
    {m : String} : c.member? field = some m ↔ c.Models m ∧ sameName m field = true := by
  constructor
  · intro h
    have hmem := List.mem_of_find?_eq_some h
    have hname := List.find?_some h
    rw [List.mem_reverse, List.mem_filter] at hmem
    exact ⟨hmem, hname⟩
  · rintro ⟨hm, hname⟩
    have hmem : m ∈ (c.members.filter isModelled).reverse := by
      rw [List.mem_reverse, List.mem_filter]
      exact hm
    cases hfind : c.member? field with
    | none => exact absurd hname (List.find?_eq_none.1 hfind m hmem)
    | some n =>
      have hn := List.mem_of_find?_eq_some hfind
      have hfield := List.find?_some hfind
      rw [List.mem_reverse, List.mem_filter] at hn
      have hsame : sameName n m = true := by
        rw [sameName_congr hfield, sameName_comm]
        exact hname
      rw [hc n m hn hm hsame]

/-- A later field of a name hides an earlier one. -/
theorem fieldFor_cons (m : String) (p : Text × Value) (pairs : List (Text × Value)) :
    fieldFor m (Fields.named (p :: pairs)) =
      (fieldFor m (Fields.named pairs)).or (if sameName m p.1 then some p.2 else none) := by
  unfold fieldFor
  rw [Fields.named_cons, List.reverse_cons, List.find?_append, Option.map_or]
  congr 1
  have hkey : isKeyOf m (.ofText p.1) = sameName m p.1 := by
    rw [isKeyOf, Value.text?_ofText, Option.any_some]
  rw [List.find?_singleton, hkey]
  split <;> rfl

end ErrorClass

namespace ErrorReader

/-- A field that is named by a text sets the member with that name, if there is one. -/
theorem setMembers_cons (p : Text × Value) (rest : Fields) (e : ServiceError) :
    setMembers ((.ofText p.1, p.2) :: rest) e =
      setMembers rest ((e.errorClass.member? p.1).elim e fun m => e.setMember m p.2) := by
  obtain ⟨name, v⟩ := p
  dsimp only
  rcases Value.ofText_cases name with ⟨s, rfl, hname⟩ | ⟨l, rfl, hname⟩
  · rw [hname, setMembers]
    cases e.errorClass.member? s <;> rfl
  · have hnone : e.errorClass.member? l.text = none := by
      refine List.find?_eq_none.2 fun m _ => ?_
      rw [sameName_loose]
      decide
    rw [hname, setMembers, hnone]
    rfl

/-- **Fields named by texts set members** and nothing else: each member that comes from bodies
has the value of the last field with its name, or the value that it had. -/
theorem setMembers_named {c : ErrorClass} (hc : c.HasDistinctMembers)
    (pairs : List (Text × Value)) {e : ServiceError} (he : e.errorClass = c) :
    ∃ members, setMembers (Fields.named pairs) e = .ok { e with members := members } ∧
      ∀ m, members.lookup m =
        (if c.Models m then ErrorClass.fieldFor m (Fields.named pairs) else none).or
          (e.members.lookup m) := by
  -- the members of `e` are what the fields before `pairs` have set
  induction pairs generalizing e with
  | nil =>
    refine ⟨e.members, rfl, fun m => ?_⟩
    have hnone : ErrorClass.fieldFor m (Fields.named []) = none := rfl
    rw [hnone, ite_self, Option.none_or]
  | cons p pairs ih =>
    cases hmember : c.member? p.1 with
    | none =>
      have hclass : e.errorClass.member? p.1 = none := by rw [he]; exact hmember
      obtain ⟨members, hset, hlookup⟩ := ih he
      refine ⟨members, ?_, fun m => ?_⟩
      · rw [Fields.named_cons, setMembers_cons, hclass]
        exact hset
      · rw [hlookup m]
        by_cases hm : c.Models m
        · have hname : ¬ sameName m p.1 = true := by
            intro hname
            rw [(ErrorClass.member?_eq_some hc).2 ⟨hm, hname⟩] at hmember
            cases hmember
          rw [if_pos hm, if_pos hm, ErrorClass.fieldFor_cons, if_neg hname, Option.or_none]
        · rw [if_neg hm, if_neg hm]
    | some k =>
      have hclass : e.errorClass.member? p.1 = some k := by rw [he]; exact hmember
      obtain ⟨hk, hname⟩ := (ErrorClass.member?_eq_some hc).1 hmember
      -- by distinct names, `k` is the only member that this field can set
      obtain ⟨members, hset, hlookup⟩ := ih (e := e.setMember k p.2) he
      refine ⟨members, ?_, fun m => ?_⟩
      · rw [Fields.named_cons, setMembers_cons, hclass]
        exact hset
      · have hput : (e.setMember k p.2).members.lookup m =
            if m = k then some p.2 else e.members.lookup m :=
          Association.lookup_put k m p.2 e.members
        rw [hlookup m, hput]
        by_cases hm : c.Models m
        · rw [if_pos hm, if_pos hm, ErrorClass.fieldFor_cons, Option.or_assoc]
          by_cases hmk : m = k
          · subst hmk
            rw [if_pos rfl, if_pos hname, Option.some_or]
          · have hother : ¬ sameName m p.1 = true := by
              intro hother
              have hsame : sameName m k = true := by
                rw [sameName_congr hother, sameName_comm]
                exact hname
              exact hmk (hc m k hm hk hsame)
            rw [if_neg hmk, if_neg hother, Option.none_or]
        · have hmk : m ≠ k := fun h => hm (h ▸ hk)
          rw [if_neg hm, if_neg hm, if_neg hmk]

end ErrorReader

namespace Json

/-- What is read has no integer that is too long to be written again. -/
theorem hasLongInteger_of_held {v : Value} (h : v.Held IsRead) : v.hasLongInteger = false := by
  have hscalar : ∀ w : Value, w.isScalar = true → IsRead w → w.hasLongInteger = false := by
    intro w hw hread
    cases w with
    | int n =>
      rw [Value.hasLongInteger, isLongInteger, decide_eq_false_iff_not, Nat.not_lt]
      exact length_decimalDigits_le hread
    | _ => first | rfl | exact Bool.noConfusion hw | exact False.elim hread
  induction h with
  | null => rfl
  | scalar hv hread => exact hscalar _ hv hread
  | list _ ih =>
    rw [Value.hasLongInteger]
    exact Value.itemsHaveLongInteger_eq_false.2 ih
  | map _ hn _ ih =>
    rw [Value.hasLongInteger]
    refine Value.fieldsHaveLongInteger_eq_false.2 (List.forall_mem_map.2 fun p hp => ⟨?_, ih p hp⟩)
    exact hscalar _ (isScalar_ofText p.1) (hn p hp)

end Json

namespace Encoding

/-- The fields of an error's body: none unless it is a map. -/
def fieldsIn (encoding : Encoding) (body : Bytes) : Fields :=
  match encoding.parse body with
  | .ok (.map fields) => fields
  | _ => []

/-- The fields of a body in JSON are named by texts, and no integer in them is too long. -/
theorem named_fieldsIn (body : Bytes) : ∃ pairs, json.fieldsIn body = Fields.named pairs ∧
    ∀ p ∈ json.fieldsIn body, p.2.hasLongInteger = false := by
  unfold fieldsIn
  split
  · rename_i fields h
    have hread := held_of_parse_json h
    cases hread with
    | scalar hv => cases hv
    | @map pairs _ _ hpairs =>
      refine ⟨pairs, rfl, List.forall_mem_map.2 fun p hp => ?_⟩
      exact Json.hasLongInteger_of_held (hpairs p hp)
  · exact ⟨[], rfl, List.forall_mem_nil _⟩

end Encoding

/-- An error with all that its response told, whatever made the error. -/
def ServiceError.fill (e : ServiceError) (code message : Option Text) (serviceName : Option String)
    (r : Response) : ServiceError :=
  { e with
    code := (code.filter fun c => !c.isEmpty).getD e.code
    message := e.message <|> message
    statusCode := r.status
    side := Dialect.sideOf r.status
    requestId := r.headers.get? requestIdHeader
    serviceName := serviceName
    headers := r.headers
    raw := r.body }

namespace Dialect

theorem result_readFields {d : Dialect} (hjson : d.encoding = .json) (body : Bytes) :
    (d.readFields body).result = Encoding.json.fieldsIn body := by
  unfold readFields Encoding.fieldsIn
  rw [hjson]
  cases body with
  | nil =>
    cases hp : Encoding.json.parse [] with
    | ok v => exact absurd hp (Encoding.parse_json_nil v)
    | error f => rfl
  | cons b rest =>
    cases hp : Encoding.json.parse (b :: rest) with
    | ok v => cases v <;> rfl
    | error f => rfl

/-- The reader of a code makes the error; if it fails, the error is one of the root class. -/
theorem result_makeError {readers : List ErrorReader} {code : Option Text} {reader : ErrorReader}
    (h : ErrorReader.find? readers code = some reader) (fields : Fields) (message : Option Text) :
    (makeError readers code fields message).result =
      match reader.read fields message with
      | .ok e => e
      | .error _ => .new .root (some (unreadable : Text)) := by
  unfold makeError
  simp only [h]
  cases reader.read fields message <;> rfl

/-- The error of a response is that of the reader, with all that the response told. -/
theorem result_readError {d : Dialect} {r : Response} {fields : Fields}
    (hfields : (d.readFields r.body).result = fields) (codeField serviceName : Option String) :
    (d.readError codeField serviceName r).run.result = do
      let code ← errorCode r.headers fields codeField
      let message ← errorMessage r.headers fields
      return (makeError d.readers code fields message).result.fill code message serviceName r := by
  unfold readError
  simp only [Attempt.result_bind, Attempt.result_logged, Attempt.result_except]
  rw [← hfields]
  rfl

/-- In JSON an error response always becomes an error. -/
theorem exists_readError {d : Dialect} (hjson : d.encoding = .json)
    (codeField serviceName : Option String) (r : Response) :
    ∃ e, (d.readError codeField serviceName r).run.result = .ok e := by
  obtain ⟨-, -, hshort⟩ := Encoding.named_fieldsIn r.body
  obtain ⟨code, message, hcode, hmessage⟩ := exists_code_message hshort r.headers codeField
  rw [result_readError (result_readFields hjson r.body), hcode, hmessage]
  exact ⟨_, rfl⟩

/-- **An error response of a service that speaks JSON** becomes an error of the first reader of
its code, or one of the root class if that reader fails; all that the response told is filled in.
A standard reader never fails: its error has exactly its class, and exactly the members that
the fields of the body name in any spelling, each with the value of the last such field. -/
theorem error_of_json (s : ServiceMetadata) (w : Switches) (hjson : s.encoding w = .json)
    (codeField serviceName : Option String) (r : Response) :
    let fields := Encoding.json.fieldsIn r.body
    ∃ code message e reader, errorCode r.headers fields codeField = .ok code ∧
      errorMessage r.headers fields = .ok message ∧
      ((Dialect.ofMetadata s w).result.readError codeField serviceName r).run.result = .ok e ∧
      ErrorReader.IsFirst s.shapes s.baseError code reader ∧
      (∀ made, reader.read fields message = .ok made → e = made.fill code message serviceName r) ∧
      (∀ f, reader.read fields message = .error f →
        e = (ServiceError.new .root (some (unreadable : Text))).fill code message serviceName r) ∧
      ∀ c bound, reader = .standard c bound → c.HasDistinctMembers →
        e = ({ ServiceError.new c message with members := e.members }).fill code message
          serviceName r ∧
        ∀ m, e.members.lookup m =
          if c.Models m then ErrorClass.fieldFor m fields else none := by
  intro fields
  obtain ⟨pairs, hpairs, hshort⟩ := Encoding.named_fieldsIn r.body
  obtain ⟨code, message, hcode, hmessage⟩ := exists_code_message hshort r.headers codeField
  obtain ⟨reader, hfind, hfirst⟩ := ErrorReader.find?_ofShapes s.shapes s.baseError code
  -- code and message are there, which leaves the reader of the code
  have hread : ((ofMetadata s w).result.readError codeField serviceName r).run.result = _ :=
    result_readError (result_readFields (d := (ofMetadata s w).result) hjson r.body) _ _
  rw [hcode, hmessage] at hread
  have hmake : (makeError (ofMetadata s w).result.readers code fields message).result = _ :=
    result_makeError hfind fields message
  refine ⟨code, message, _, reader, hcode, hmessage, hread, hfirst, fun made hmade => ?_,
    fun f hf => ?_, fun c bound hr hc => ?_⟩
  · rw [hmake, hmade]
  · rw [hmake, hf]
  · obtain ⟨members, hset, hlookup⟩ := ErrorReader.setMembers_named hc pairs
      (e := ServiceError.new c message) rfl
    have hmade : reader.read fields message =
        .ok { ServiceError.new c message with members := members } := by
      rw [hr, ← hset, ← hpairs]
      rfl
    rw [hmake, hmade]
    refine ⟨rfl, fun m => ?_⟩
    have hnew : (ServiceError.new c message).members.lookup m = none := rfl
    have hmember := hlookup m
    rw [hnew, Option.or_none, ← hpairs] at hmember
    exact hmember

/-- A modelled error whose member comes twice, after a shape without a reader. -/
theorem error_of_json_modelled :
    ∃ body e, Encoding.json.encode (.map [(.text "__type", .text "ns#NotFound"),
        (.text "resource", .text "a"), (.text "RESOURCE", .text "b")]) = .ok body ∧
      ((Dialect.ofMetadata ⟨"1.1", none, false, false, .root, [⟨"Gone", none, none⟩,
        ⟨"NotFound", some ⟨"NotFound", ["ServiceException"], "NotFound", 404, false, ["Resource"]⟩,
          none⟩]⟩ ⟨false, false⟩).result.readError none none ⟨404, [], body⟩).run.result = .ok e ∧
      e.errorClass.name = "NotFound" ∧ e.code = "NotFound" ∧
        e.members.lookup "Resource" = some (.text "b") := by
  have hheld : (Value.map (Fields.named [("__type", .text "ns#NotFound"),
      ("resource", .text "a"), ("RESOURCE", .text "b")])).Held Json.IsExact := by
    refine .map (by decide) (fun p hp => ?_) fun p hp => ?_
    · simp only [List.mem_cons, List.not_mem_nil, or_false] at hp
      rcases hp with rfl | rfl | rfl <;> exact Json.isExact_ofText (Text.isJoined_ofString _)
    · simp only [List.mem_cons, List.not_mem_nil, or_false] at hp
      rcases hp with rfl | rfl | rfl <;> exact .scalar rfl (Json.isExact_text _)
  obtain ⟨body, henc, hparse⟩ := Encoding.parse_encode_json hheld
  have hfields : Encoding.json.fieldsIn body = [(.text "__type", .text "ns#NotFound"),
      (.text "resource", .text "a"), (.text "RESOURCE", .text "b")] := by
    rw [Encoding.fieldsIn, hparse]
    rfl
  obtain ⟨code, message, e, reader, hcode, -, hread, hfirst, -, -, hstandard⟩ := error_of_json
    ⟨"1.1", none, false, false, .root, [⟨"Gone", none, none⟩, ⟨"NotFound", some ⟨"NotFound",
      ["ServiceException"], "NotFound", 404, false, ["Resource"]⟩, none⟩]⟩ ⟨false, false⟩ rfl none
    none ⟨404, [], body⟩
  rw [hfields] at hcode hstandard
  obtain rfl : code = some (Text.ofString "NotFound") := by
    have hnamed : errorCode [] [(.text "__type", .text "ns#NotFound"),
        (.text "resource", .text "a"), (.text "RESOURCE", .text "b")] none =
          .ok (some (Text.ofString "NotFound")) := by rfl
    exact Except.ok.inj (hcode.symm.trans hnamed)
  -- the first shape has no reader, and the second reads the code
  have hreader : reader = .standard ⟨"NotFound", ["ServiceException"], "NotFound", 404, false,
      ["Resource"]⟩ (some "NotFound") := by
    cases hfirst with
    | @shape earlier later t _ hs hr hreads hearlier =>
      rcases earlier with _ | ⟨x, _ | ⟨y, earlier⟩⟩
      · cases hs
        cases hr
      · cases hs
        cases hr
        rfl
      · have hlength := congrArg List.length hs
        simp at hlength
    | base hnone =>
      have hnot := hnone _ (List.mem_cons_of_mem _ (List.mem_singleton.2 rfl)) _ rfl
      exact absurd (.inr rfl) hnot
  obtain ⟨he, hmembers⟩ := hstandard _ _ hreader (by
    rintro m n ⟨hm, -⟩ ⟨hn, -⟩ -
    rw [List.mem_singleton.1 hm, List.mem_singleton.1 hn])
  refine ⟨body, e, henc, hread, congrArg (·.errorClass.name) he, congrArg ServiceError.code he, ?_⟩
  exact (hmembers "Resource").trans rfl

end Dialect

end ServiceClient
