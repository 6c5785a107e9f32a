import ServiceClient.Proofs.AnnouncedBodies
import ServiceClient.Proofs.RootRequests

/-!
# The headers of a request, write by write

The members of a request, the length of its body, the type of the body and the name of the
operation write headers one after the other. What they leave is one header for each name, as it
was written last.

* `Headers.Follow`, `Headers.follow_write`: the headers that a series of writes leaves.
* `Binding.headersOf`: the headers that the value of a member writes.
* `Marshalling.add_header`: when a member of the headers is added, and what it leaves.
* `Marshalling.addMembers_headers`: the headers of all members.
* `Dialect.Completes.headers`, `Dialect.Completes.headers_sent`: those of a finished request.
-/

namespace ServiceClient

namespace Headers

variable {h writes : Headers} {name value : Text} {e : Text × Text}

/-! ### A series of writes -/

/-- Writes headers one after the other. -/
def write (h writes : Headers) : Headers := writes.foldl (fun h w => h.put w.1 w.2) h

/-- The last write to a name, however it is spelled. -/
def last? (name : Text) (writes : Headers) : Option (Text × Text) :=
  writes.reverse.find? fun w => sameName w.1 name

/-- The names of headers differ in more than their case. -/
def HasDistinctNames (h : Headers) : Prop := h.Pairwise fun e f => sameName e.1 f.1 = false

/-- Whether headers are what a series of writes leaves: one for each name, as it was written
last. -/
structure Follow (h writes : Headers) : Prop where
  distinct : h.HasDistinctNames
  mem_iff (e : Text × Text) : e ∈ h ↔ last? e.1 writes = some e

theorem write_append (h a b : Headers) : h.write (a ++ b) = (h.write a).write b :=
  List.foldl_append

theorem write_singleton (h : Headers) (name value : Text) :
    h.write [(name, value)] = h.put name value := rfl

theorem last?_concat (other : Text) :
    last? other (writes ++ [(name, value)]) =
      if sameName name other = true then some (name, value) else last? other writes := by
  unfold last?
  rw [List.reverse_append, List.reverse_singleton, List.singleton_append, List.find?_cons]
  cases sameName name other with
  | true => rfl
  | false => rfl

theorem last?_singleton (name value : Text) :
    last? name [(name, value)] = some (name, value) := by
  rw [← List.nil_append [(name, value)], last?_concat, if_pos (sameName_self name)]

/-- Writes behind others are the last ones of their names. -/
theorem last?_append (other : Text) (a b : Headers) :
    last? other (a ++ b) = (last? other b).or (last? other a) := by
  unfold last?
  rw [List.reverse_append, List.find?_append]

theorem last?_of_forall (hne : ∀ w ∈ writes, sameName w.1 name = false) :
    last? name writes = none := by
  refine List.find?_eq_none.2 fun w hw => ?_
  rw [hne w (List.mem_reverse.1 hw)]
  decide

theorem mem_of_last? (hlast : last? name writes = some e) :
    e ∈ writes ∧ sameName e.1 name = true := by
  unfold last? at hlast
  have hname := List.find?_some hlast
  exact ⟨List.mem_reverse.1 (List.mem_of_find?_eq_some hlast), hname⟩

/-- A name that is written has a last write. -/
theorem last?_isSome : (last? name writes).isSome = writes.contains name := by
  unfold last? contains
  rw [List.isSome_find?, List.any_reverse]

/-- Names stay distinct when a header is put. -/
theorem HasDistinctNames.put (hdistinct : h.HasDistinctNames) :
    (h.put name value).HasDistinctNames := by
  induction h with
  | nil => exact List.pairwise_singleton _ _
  | cons p rest ih =>
    obtain ⟨n, v⟩ := p
    obtain ⟨hhead, hrest⟩ := List.pairwise_cons.1 hdistinct
    rw [Headers.put]
    by_cases hn : sameName n name = true
    · rw [if_pos hn]
      refine List.pairwise_cons.2 ⟨fun f hf => ?_, hrest.filter _⟩
      rw [sameName_comm, ← Bool.not_eq_true']
      exact (List.mem_filter.1 hf).2
    · rw [if_neg hn]
      refine List.pairwise_cons.2 ⟨fun f hf => ?_, ih hrest⟩
      rcases mem_put.1 hf with rfl | ⟨hf, -⟩
      · exact Bool.eq_false_iff.2 hn
      · exact hhead f hf

/-- One more write. -/
theorem Follow.put (hfollow : h.Follow writes) :
    (h.put name value).Follow (writes ++ [(name, value)]) where
  distinct := hfollow.distinct.put
  mem_iff e := by
    rw [mem_put, last?_concat, hfollow.mem_iff, sameName_comm e.1]
    by_cases hn : sameName name e.1 = true
    · rw [if_pos hn, hn]
      simp [eq_comm]
    · rw [if_neg hn, Bool.eq_false_iff.2 hn]
      have hother : e ≠ (name, value) := by
        rintro rfl
        exact hn (sameName_self name)
      simp [hother]

/-- **What a series of writes leaves.** -/
theorem follow_write (writes : Headers) : (write [] writes).Follow writes := by
  -- from the end of the series, where the last write of each name is
  induction writes using List.reverseRecOn with
  | nil => exact ⟨.nil, fun e => by simp [write, last?]⟩
  | append_singleton writes w ih =>
    rw [write_append]
    exact ih.put

theorem last?_congr {other : Text} (hsame : sameName name other = true) (writes : Headers) :
    last? name writes = last? other writes := by
  unfold last?
  congr 1
  funext w
  rw [sameName_comm, sameName_comm w.1, sameName_congr hsame]

/-- What holds of all headers of a name holds of its last write. -/
theorem Follow.forall_iff (hfollow : h.Follow writes) (name : Text)
    (P : Text × Text → Prop) :
    (∀ e ∈ h, sameName e.1 name = true → P e) ↔ ∀ e, last? name writes = some e → P e := by
  constructor
  · intro hall e hlast
    obtain ⟨-, hname⟩ := mem_of_last? hlast
    exact hall e ((hfollow.mem_iff e).2 ((last?_congr hname writes).trans hlast)) hname
  · intro hall e he hname
    exact hall e ((last?_congr hname writes).symm.trans ((hfollow.mem_iff e).1 he))

/-- The value of a name is that of its last write. -/
theorem get?_write (h writes : Headers) (name : Text) :
    (h.write writes).get? name = ((last? name writes).map (·.2)).or (h.get? name) := by
  induction writes using List.reverseRecOn with
  | nil => rfl
  | append_singleton writes w ih =>
    obtain ⟨n, v⟩ := w
    rw [write_append, write_singleton, last?_concat]
    by_cases hn : sameName n name = true
    · rw [if_pos hn, ← get?_congr hn, get?_put]
      rfl
    · rw [if_neg hn, get?_put_of_ne (Bool.eq_false_iff.2 hn), ih]

/-- Writes are there under their names. -/
theorem contains_write (h writes : Headers) (name : Text) :
    (h.write writes).contains name = (writes.contains name || h.contains name) := by
  rw [contains_eq, get?_write, ← last?_isSome, contains_eq]
  cases last? name writes with
  | none => rfl
  | some e => rfl

end Headers

/-! ### The headers of a member -/

/-- The headers of the fields of a map, each with the name of the map in front of its key. -/
def fieldHeaders (name : String) (format : TimestampFormat) : Fields → Except Failure Headers
  | [] => .ok []
  | (key, v) :: rest => do
    let text ← memberText format v
    let key ← key.displayed
    return ((name : Text) ++ key, text) :: (← fieldHeaders name format rest)

/-- The headers that the value of a member writes: one for each field of a map, the items of a
list with commas between them, a document as its base 64 text, and else the text of the value. -/
def Binding.headersOf (b : Binding) (v : Value) : Except Failure Headers :=
  let format := b.timestampFormat .rfc822
  match b.type with
  | .map => do fieldHeaders b.name format (← ServiceClient.fieldsOf v)
  | .list => do return [((b.name : Text), .intercalate "," (← memberTexts format (← itemsOf v)))]
  | .jsonValue => do return [((b.name : Text), ← (documentText v).map Text.ofString)]
  | _ => do return [((b.name : Text), ← memberText format v)]

/-- The part of a header. -/
def Part.ofHeader (e : Text × Text) : Part := .header e.1 e.2

namespace Contribution

/-- A contribution consists of headers, or fails as they do. -/
def Writes (c : Contribution) : Except Failure Headers → Prop
  | .ok written => c = ⟨written.map Part.ofHeader, .none⟩
  | .error f => c.failure = some f

theorem writes_one (name : Text) (text : Except Failure Text) :
    (ofExcept do return .header name (← text)).Writes (do return [(name, ← text)]) := by
  cases text with
  | error f => rfl
  | ok text => rfl

/-- The fields of a map follow each other, up to the first that fails. -/
theorem writes_fields (name : String) (format : TimestampFormat) (fields : Fields) :
    (concat (fields.map fun p => ofExcept do
      let text ← memberText format p.2
      return .header (← p.1.displayed.map fun key => name ++ key) text)).Writes
        (fieldHeaders name format fields) := by
  induction fields with
  | nil => rfl
  | cons field rest ih =>
    obtain ⟨key, v⟩ := field
    rw [List.map_cons, concat, fieldHeaders]
    cases memberText format v with
    | error f => exact (rfl : failure (append (fail f) _) = some f)
    | ok text =>
      cases key.displayed with
      | error f => exact (rfl : failure (append (fail f) _) = some f)
      | ok shown =>
        cases hrest : fieldHeaders name format rest with
        | error f =>
          rw [hrest] at ih
          exact (ih : failure _ = some f)
        | ok written =>
          rw [hrest] at ih
          rw [show concat _ = _ from ih]
          exact (rfl : append (one _) _ = _)

end Contribution

namespace Binding

variable {b : Binding}

/-- **What a member of the headers contributes**: its headers, in order. -/
theorem headerContribution_writes (b : Binding) (v : Value) :
    (b.headerContribution v).Writes (b.headersOf v) := by
  unfold headerContribution headersOf
  cases b.type with
  | map =>
    dsimp only
    cases ServiceClient.fieldsOf v with
    | error f => exact (rfl : Contribution.failure (.fail f) = some f)
    | ok fields => exact Contribution.writes_fields b.name _ fields
  | jsonValue => exact Contribution.writes_one b.name _
  | list =>
    have hone := Contribution.writes_one b.name (do
      return .intercalate "," (← memberTexts (b.timestampFormat .rfc822) (← itemsOf v)))
    simp only [bind_assoc, pure_bind] at hone ⊢
    exact hone
  | _ => exact Contribution.writes_one b.name _

/-- The headers that a member writes, none if it is not set. -/
def writes (b : Binding) (v : Value) : Except Failure Headers :=
  match b.area, v with
  | .header, .null => .ok []
  | .header, v => b.headersOf v
  | _, _ => .ok []

theorem writes_null (b : Binding) : b.writes .null = .ok [] := by
  unfold writes
  cases b.area <;> rfl

theorem writes_of_area (hb : b.area = .header) {v : Value} (hv : v ≠ .null) :
    b.writes v = b.headersOf v := by
  unfold writes
  rw [hb]
  cases v <;> first | exact absurd rfl hv | rfl

theorem writes_of_area_ne (hb : b.area ≠ .header) (v : Value) : b.writes v = .ok [] := by
  unfold writes
  cases harea : b.area <;> first | exact absurd harea hb | rfl

end Binding

namespace Marshalling

variable {m m' : Marshalling} {b : Binding} {v body : Value} {bindings : List Binding}
  {request : Value}

/-- The headers that the members of a request write, in the order of their bindings. -/
def headerWrites (request : Value) : List Binding → Except Failure Headers
  | [] => .ok []
  | b :: rest => do
    let v ← memberOf request b.member
    return (← b.writes v) ++ (← headerWrites request rest)

/-- A marshalling with more headers. -/
def withHeaders (m : Marshalling) (written : Headers) : Marshalling :=
  { m with headers := m.headers.write written }

/-- Headers are put in their places exactly if none of them has a line break. -/
theorem putAll_headers {written : Headers} :
    m.putAll (written.map Part.ofHeader) = (.ok (), m') ↔
      Headers.IsClean written ∧ m' = m.withHeaders written := by
  induction written generalizing m with
  | nil =>
    rw [List.map_nil, putAll]
    refine ⟨fun h => ⟨List.forall_mem_nil _, (Prod.mk.inj h).2.symm⟩, fun h => ?_⟩
    rw [h.2]
    rfl
  | cons w written ih =>
    obtain ⟨name, value⟩ := w
    have hclean : Headers.IsClean ((name, value) :: written) ↔
        Headers.isValue value = true ∧ Headers.IsClean written := List.forall_mem_cons
    rw [List.map_cons, putAll, hclean]
    by_cases hv : Headers.isValue value = true
    · have hput : m.put (Part.ofHeader (name, value)) =
          (.ok (), m.withHeaders [(name, value)]) := by
        have hset : m.headers.set name value = .ok (m.headers.put name value) :=
          Headers.set_eq_ok.2 ⟨hv, rfl⟩
        simp only [Part.ofHeader, put, hset]
        rfl
      rw [hput]
      show putAll _ (m.withHeaders [(name, value)]) = _ ↔ _
      rw [ih]
      exact ⟨fun h => ⟨⟨hv, h.1⟩, h.2⟩, fun h => ⟨h.1.2, h.2⟩⟩
    · have hput : m.put (Part.ofHeader (name, value)) = (.error .headerLineBreak, m) := by
        have hset : m.headers.set name value = .error .headerLineBreak :=
          Headers.set_eq_error.2 ⟨Bool.eq_false_iff.2 hv, rfl⟩
        simp only [Part.ofHeader, put, hset]
      rw [hput]
      exact ⟨fun h => (by cases (Prod.mk.inj h).1), fun h => absurd h.1.1 hv⟩

/-- A contribution is added exactly if it has no failure and all of its parts can be put in their
places. -/
theorem contribute_eq_ok {c : Contribution} :
    m.contribute c = (.ok (), m') ↔ c.failure = none ∧ m.putAll c.parts = (.ok (), m') := by
  unfold contribute
  obtain ⟨result | u, left⟩ := m.putAll c.parts
  · constructor
    · intro h
      cases (Prod.mk.inj h).1
    · rintro ⟨-, h⟩
      cases (Prod.mk.inj h).1
  · cases c.failure with
    | none => exact ⟨fun h => ⟨rfl, h⟩, fun h => h.2⟩
    | some f => exact ⟨fun h => (by cases (Prod.mk.inj h).1), fun h => (by cases h.1)⟩

/-- **A member of the headers is added** exactly if its headers can be made and none of them has a
line break. They are all that it leaves. -/
theorem add_header (hb : b.area = .header) (hv : v ≠ .null) :
    m.add b v = (.ok (), m') ↔ ∃ written, b.headersOf v = .ok written ∧
      Headers.IsClean written ∧ m' = m.withHeaders written := by
  obtain ⟨hbody, hlocation⟩ := (Binding.area_eq_of_location (.inl rfl)).1 hb
  have hc : m.contributionOf b v = b.headerContribution v := by
    rw [contributionOf_set hbody hv, Binding.contribution, hlocation]
  have hwrites := b.headerContribution_writes v
  rw [add, hc, contribute_eq_ok]
  cases hof : b.headersOf v with
  | error f =>
    rw [hof] at hwrites
    have hfailure : (b.headerContribution v).failure = some f := hwrites
    constructor
    · rintro ⟨hnone, -⟩
      rw [hfailure] at hnone
      cases hnone
    · rintro ⟨written, hw, -⟩
      cases hw
  | ok written =>
    rw [hof] at hwrites
    have hparts : b.headerContribution v = ⟨written.map Part.ofHeader, none⟩ := hwrites
    rw [hparts, putAll_headers]
    constructor
    · rintro ⟨-, hclean, hm'⟩
      exact ⟨written, rfl, hclean, hm'⟩
    · rintro ⟨written', hw, hclean, hm'⟩
      cases hw
      exact ⟨rfl, hclean, hm'⟩

/-- A member leaves its headers behind those that are there, whatever else it leaves. -/
theorem add_writes (hadd : m.add b v = (.ok (), m')) :
    ∃ written, b.writes v = .ok written ∧ Headers.IsClean written ∧
      m'.headers = m.headers.write written := by
  by_cases harea : b.area = .header
  · by_cases hnull : v = .null
    · subst hnull
      rw [add_unset ((Binding.area_eq_of_location (.inl rfl)).1 harea).1] at hadd
      refine ⟨[], b.writes_null, List.forall_mem_nil _, ?_⟩
      rw [← (Prod.mk.inj hadd).2]
      rfl
    · obtain ⟨written, hof, hclean, rfl⟩ := (add_header harea hnull).1 hadd
      exact ⟨written, (Binding.writes_of_area harea hnull).trans hof, hclean, rfl⟩
  · -- members of other areas leave the headers alone
    have hchanges := add_changesOnly (m := m) b v
    rw [hadd] at hchanges
    exact ⟨[], Binding.writes_of_area_ne harea v, List.forall_mem_nil _, hchanges.headers harea⟩

/-- **The headers of members** follow each other in the order of their bindings. -/
theorem addMembers_headers (h : addMembers bindings request m = .ok m') :
    ∃ written, headerWrites request bindings = .ok written ∧ Headers.IsClean written ∧
      m'.headers = m.headers.write written := by
  induction bindings generalizing m with
  | nil =>
    rw [← Except.ok.inj h]
    exact ⟨[], rfl, List.forall_mem_nil _, rfl⟩
  | cons b rest ih =>
    obtain ⟨v, hv, h⟩ := bind_eq_ok.1 h
    obtain ⟨u, hadd, h⟩ := bind_eq_ok.1 h
    have hadded : m.add b v = (.ok (), (m.add b v).2) := Prod.ext hadd rfl
    -- the member writes onto what is there, the others onto what it leaves
    obtain ⟨first, hfirst, hfirstClean, hheaders⟩ := add_writes hadded
    obtain ⟨others, hothers, hothersClean, hwritten⟩ := ih h
    refine ⟨first ++ others, ?_, List.forall_mem_append.2 ⟨hfirstClean, hothersClean⟩, ?_⟩
    · rw [headerWrites, hv, hothers]
      show (b.writes v >>= fun first => .ok (first ++ others)) = _
      rw [hfirst]
      rfl
    · rw [Headers.write_append, ← hheaders]
      exact hwritten

/-- The header with the length of a body, unless the body is sent as nothing. -/
def lengthWrites (body : Value) : Headers :=
  if body.isFalsy then []
  else ((length? body).map fun n => (("Content-Length" : Text), (toString n : Text))).toList

theorem name_lengthWrites {e : Text × Text} (he : e ∈ lengthWrites body) :
    e.1 = "Content-Length" := by
  unfold lengthWrites at he
  split at he
  · cases he
  · obtain ⟨n, -, rfl⟩ := Option.map_eq_some_iff.1 (Option.mem_toList.1 he)
    rfl

theorem lengthHeader_write {h : Headers} (hh : m.lengthHeader body = .ok h) :
    h = m.headers.write (lengthWrites body) := by
  unfold lengthHeader at hh
  unfold lengthWrites
  by_cases hfalsy : body.isFalsy = true
  · rw [if_pos hfalsy] at hh ⊢
    exact (Except.ok.inj hh).symm
  · rw [if_neg hfalsy] at hh ⊢
    cases hlength : length? body with
    | none =>
      rw [hlength] at hh
      cases hh
    | some n =>
      rw [hlength] at hh
      exact (Headers.set_eq_ok.1 hh).2

end Marshalling

/-- The header with the name of an operation, if it has one. -/
def Operation.targetWrites (o : Operation) : Headers :=
  if o.target.isEmpty then [] else [("X-Amz-Target", (o.target : Text))]

theorem Operation.name_targetWrites {o : Operation} {e : Text × Text}
    (he : e ∈ o.targetWrites) : e.1 = "X-Amz-Target" := by
  unfold targetWrites at he
  split at he
  · cases he
  · rw [List.mem_singleton.1 he]

theorem Marshalling.targetHeader_write {m : Marshalling} {h g : Headers}
    (hg : m.targetHeader h = .ok g) : g = h.write m.operation.targetWrites := by
  unfold targetHeader at hg
  unfold Operation.targetWrites
  split at hg
  · rename_i hempty
    rw [if_pos hempty]
    exact (Except.ok.inj hg).symm
  · rename_i hname
    rw [if_neg hname]
    exact (Headers.set_eq_ok.1 hg).2

namespace Dialect

variable {d : Dialect} {o : Operation} {bindings : List Binding} {request : Value}
  {m : Marshalling} {body : Value} {endpoint : String} {parts : Multipart} {r : Request}

/-- The header with the type of the body, unless a member has written one or the writer of the
operation is silent. -/
def typeWrites (d : Dialect) (o : Operation) (written : Headers) : Headers :=
  if written.contains "Content-Type" || (d.writer o).isSilent then []
  else [("Content-Type", (d.contentType : Text))]

theorem name_typeWrites {written : Headers} {e : Text × Text}
    (he : e ∈ d.typeWrites o written) : e.1 = "Content-Type" := by
  unfold typeWrites at he
  split at he
  · cases he
  · rw [List.mem_singleton.1 he]

/-- The headers that a request writes, those of its members first. -/
def allWrites (d : Dialect) (o : Operation) (written : Headers) (body : Value) : Headers :=
  written ++ Marshalling.lengthWrites body ++ d.typeWrites o written ++ o.targetWrites

/-- A length that is written is there at the end. -/
theorem contains_length (d : Dialect) (o : Operation) (written : Headers) {length : Text}
    (hlength : Marshalling.lengthWrites body = [(("Content-Length" : Text), length)]) :
    (Headers.write [] (d.allWrites o written body)).contains "Content-Length" = true := by
  have hmem : (("Content-Length" : Text), length) ∈ d.allWrites o written body := by
    unfold allWrites
    simp [hlength]
  rw [Headers.contains_write, Headers.contains, List.any_eq_true.2 ⟨_, hmem, sameName_self _⟩]
  rfl

theorem contentType_ne (d : Dialect) : d.contentType ≠ "" := by
  unfold contentType ServiceMetadata.contentTypeOf nonEmptyOr
  split
  · exact (d.encoding.mediaType_ne d.metadata.version).1
  · exact (d.encoding.mediaType_ne d.metadata.version).1
  · rename_i text hne htext
    exact hne

/-- The type is written as the rules of `typeWrites` say, behind the headers of members and of
the length. -/
theorem Completes.typeHeader_write (h : d.Completes o bindings request m body) {written : Headers}
    (hwritten : m.headers = Headers.write [] written) {lengthened typed : Headers}
    (hlength : m.finishBody.2.lengthHeader body = .ok lengthened)
    (htype : m.finishBody.2.typeHeader lengthened = .ok typed) :
    typed = lengthened.write (d.typeWrites o written) := by
  have hclosed := m.finishBody_changesOnly
  have hcontains : lengthened.contains "Content-Type" = written.contains "Content-Type" := by
    rw [Marshalling.contains_lengthHeader hlength, hclosed.headers (by decide), hwritten,
      Headers.contains_write]
    exact Bool.or_false _
  have hempty : d.contentType.isEmpty = false :=
    Bool.eq_false_iff.2 fun h => d.contentType_ne (String.isEmpty_iff.1 h)
  unfold Marshalling.typeHeader at htype
  rw [hclosed.contentType, h.kept.2] at htype
  simp only [hcontains, hempty, h.isSilent, Bool.or_false] at htype
  unfold typeWrites
  split at htype
  · rename_i hleft
    rw [if_pos hleft]
    exact (Except.ok.inj htype).symm
  · rename_i hset
    rw [if_neg hset]
    exact (Headers.set_eq_ok.1 htype).2

/-- **The headers of a finished marshalling** are those that it writes, one after the other. -/
theorem Completes.headers (h : d.Completes o bindings request m body) {headers : Headers}
    (hheaders : m.finishBody.2.finishHeaders body = .ok headers) :
    ∃ written, Marshalling.headerWrites request bindings = .ok written ∧
      headers = Headers.write [] (d.allWrites o written body) := by
  obtain ⟨started, hstart, hadd⟩ := bind_eq_ok.1 h.marshalled
  obtain ⟨-, hnil, -⟩ := marshalling_start hstart
  obtain ⟨written, hwrites, -, hmembers⟩ :=
    Marshalling.addMembers_headers (Marshalling.addAll_eq_ok hadd)
  rw [hnil] at hmembers
  have hclosed := m.finishBody_changesOnly
  -- length, type and name of the operation are written behind the members, in this order
  rw [Marshalling.finishHeaders_eq] at hheaders
  obtain ⟨typed, hheaders, htarget⟩ := bind_eq_ok.1 hheaders
  obtain ⟨lengthened, hlength, htype⟩ := bind_eq_ok.1 hheaders
  have hlengthened := Marshalling.lengthHeader_write hlength
  have htyped := h.typeHeader_write hmembers hlength htype
  have hended := Marshalling.targetHeader_write htarget
  rw [hclosed.operation, h.kept.1] at hended
  rw [hclosed.headers (by decide), hmembers] at hlengthened
  refine ⟨written, hwrites, ?_⟩
  rw [hended, htyped, hlengthened, allWrites, Headers.write_append, Headers.write_append,
    Headers.write_append]

/-- There is one way to complete a marshalling. -/
theorem Completes.unique {m' : Marshalling} {body' : Value}
    (h : d.Completes o bindings request m body) (h' : d.Completes o bindings request m' body') :
    m' = m ∧ body' = body := by
  obtain rfl : m' = m := Except.ok.inj (h'.marshalled.symm.trans h.marshalled)
  exact ⟨rfl, Except.ok.inj (h'.complete.symm.trans h.complete)⟩

/-- **The headers of a request** are those that its marshalling writes, without line breaks in
their values, and what a body adds. -/
theorem Completes.headers_sent (h : d.Completes o bindings request m body)
    (hr : d.request o bindings request endpoint parts = .ok r) :
    ∃ written bytes, Marshalling.headerWrites request bindings = .ok written ∧
      Headers.IsClean (Headers.write [] (d.allWrites o written body)) ∧
      (toBytes .utf8 .refuse body >>= fun data =>
        Request.bodyOf parts data (Headers.write [] (d.allWrites o written body))) =
          .ok (bytes, r.headers) ∧
      r.body = if Request.isChunked r.headers then [] else bytes := by
  rw [h.request_eq] at hr
  obtain ⟨headers, hheaders, path, -, target, -, query, -, port, -, hmake⟩ :=
    Marshalling.assemble_eq_ok.1 hr
  have hclean := Marshalling.finishHeaders_clean h.clean hheaders
  obtain ⟨written, hwrites, rfl⟩ := h.headers hheaders
  obtain ⟨-, plain, -, base, -, sent, hsent, rfl⟩ := Request.make_eq_ok.1 hmake
  exact ⟨written, sent.1, hwrites, hclean, hsent, rfl⟩

/-- A request for the root without a query is made once its headers are finished and its body can be
sent behind them. -/
theorem Completes.request_made (h : d.Completes o bindings request m body) (parts : Multipart)
    (huri : o.uri = "/") (hquery : m.query = []) {headers : Headers}
    (hheaders : m.finishBody.2.finishHeaders body = .ok headers)
    (hbody : Request.SendsBody parts body headers) :
    ∃ r, d.request o bindings request DnsEndpoint.localhost.text parts = .ok r := by
  have hpairs : ∀ p ∈ m.finishBody.2.query, Marshalling.IsQueryPair p := by
    rw [m.finishBody_changesOnly.query (by decide), hquery]
    exact List.forall_mem_nil _
  obtain ⟨r, hassemble⟩ := (Marshalling.assemble_exists (e := .localhost) h.clean).2
    ⟨⟨"/", h.path_root huri, Operation.pathReadsAt_root rfl⟩, hpairs, headers, hheaders, hbody⟩
  exact ⟨r, (h.request_eq _ _).trans hassemble⟩

end Dialect

end ServiceClient
