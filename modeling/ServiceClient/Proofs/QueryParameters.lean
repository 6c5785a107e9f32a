import ServiceClient.Http.Transport
import ServiceClient.Proofs.Fields
import ServiceClient.Proofs.Payload
import ServiceClient.Proofs.QueryText
import ServiceClient.Proofs.RequestFailures

/-!
# Query parameters on their way to the session

The parameters of members are written behind the query of the operation, read again when the
request is made, grouped by their names, and handed to the session.

* `Binding.Sends`: the pairs that the value of a member stands for.
* `Marshalling.addMembers_pairs`: the members leave their pairs, in order.
* `Request.rawBaseUrl_exists`: a request with a path has a URL.
* `Dialect.params_of_request`: a session is handed the values of each name, those of the operation
  first, then those of the members.
-/

namespace ServiceClient

/-- Whether these are the texts of values. -/
def Texts (format : TimestampFormat) (values : List Value) (texts : List String) : Prop :=
  List.Forall₂ (fun v (text : String) => memberText format v = .ok (text : Text)) values texts

/-- Whether the field of a map stands for pairs: one, or one for each item of a list. -/
inductive FieldSends (format : TimestampFormat) (key : String) :
    Value → List (String × String) → Prop
  | one {v : Value} {text : String} (hlist : ∀ items, v ≠ .list items)
      (htuple : ∀ items, v ≠ .tuple items) (h : memberText format v = .ok (text : Text)) :
      FieldSends format key v [(key, text)]
  | items {v : Value} {items : List Value} {texts : List String}
      (hv : v = .list items ∨ v = .tuple items) (h : Texts format items texts) :
      FieldSends format key v (texts.map fun text => (key, text))

/-- Whether the value of a member stands for pairs of the query string: none if it is not set, one
for each item of a list, those of each field of a map, and else one. -/
inductive Binding.Sends (b : Binding) : Value → List (String × String) → Prop
  | unset : b.Sends .null []
  | one {v : Value} {text : String} (hlist : b.type ≠ .list) (hmap : b.type ≠ .map)
      (hv : v ≠ .null) (h : memberText (b.timestampFormat .iso8601) v = .ok (text : Text)) :
      b.Sends v [(b.name, text)]
  | items {v : Value} {items : List Value} {texts : List String} (htype : b.type = .list)
      (hv : v = .list items ∨ v = .tuple items)
      (h : Texts (b.timestampFormat .iso8601) items texts) :
      b.Sends v (texts.map fun text => (b.name, text))
  | fields {fields : List (String × Value)} {groups : List (List (String × String))}
      (htype : b.type = .map) (h : List.Forall₂
        (fun f pairs => FieldSends (b.timestampFormat .iso8601) f.1 f.2 pairs) fields groups) :
      b.Sends (.map (Fields.named (fields.map fun f => ((f.1 : Text), f.2)))) groups.flatten

/-- The part of a pair. -/
def Part.ofPair (p : String × String) : Part := .query (.text p.1) p.2

namespace Contribution

/-- Contributions without failures follow each other. -/
theorem concat_ok {cs : List Contribution} {groups : List (List Part)}
    (h : List.Forall₂ (fun c parts => c = ⟨parts, .none⟩) cs groups) :
    concat cs = ⟨groups.flatten, .none⟩ := by
  induction h with
  | nil => rfl
  | @cons c parts cs groups hc h ih => rw [concat, ih, hc, List.flatten_cons]; rfl

/-- The contributions of texts, one part for each. -/
theorem concat_texts {format : TimestampFormat} {values : List Value} {texts : List String}
    (h : Texts format values texts) (key : String) :
    concat (values.map fun v => ofExcept do return .query (.text key) (← memberText format v)) =
      ⟨(texts.map fun text => (key, text)).map Part.ofPair, .none⟩ := by
  induction h with
  | nil => rfl
  | @cons v text values texts hv h ih =>
    rw [List.map_cons, concat, ih, hv]; rfl

end Contribution

/-- The field of a map contributes its pairs. -/
theorem FieldSends.contribution {format : TimestampFormat} {key : String} {v : Value}
    {pairs : List (String × String)} (h : FieldSends format key v pairs) :
    (match v with
      | .list xs | .tuple xs => Contribution.concat (xs.map fun v => .ofExcept do
        return .query (.text key) (← memberText format v))
      | v => .ofExcept do return .query (.text key) (← memberText format v)) =
      ⟨pairs.map Part.ofPair, .none⟩ := by
  cases h with
  | one hlist htuple htext =>
    split
    · exact absurd rfl (hlist _)
    · exact absurd rfl (htuple _)
    · rw [htext]; rfl
  | items hitems htexts =>
    rcases hitems with rfl | rfl
    · exact Contribution.concat_texts htexts key
    · exact Contribution.concat_texts htexts key

namespace Binding

variable {b : Binding}

/-- **What a member of the query string contributes**: its pairs. -/
theorem queryContribution_of_sends {v : Value} {pairs : List (String × String)}
    (h : b.Sends v pairs) (hv : v ≠ .null) :
    b.queryContribution v = ⟨pairs.map Part.ofPair, .none⟩ := by
  cases h with
  | unset => exact absurd rfl hv
  | one hlist hmap hv h =>
    unfold queryContribution
    split
    · exact absurd ‹b.type = .map› hmap
    · exact absurd ‹b.type = .list› hlist
    · dsimp only
      rw [h]; rfl
  | @items v items texts htype hitems h =>
    have hof : itemsOf v = .ok items := by rcases hitems with rfl | rfl <;> rfl
    unfold queryContribution
    rw [htype, hof]
    exact Contribution.concat_texts h b.name
  | @fields fields groups htype h =>
    unfold queryContribution
    rw [htype]
    refine (Contribution.concat_ok (?_ : List.Forall₂ _ _
      (groups.map fun group => group.map Part.ofPair))).trans ?_
    · clear hv
      induction h with
      | nil => exact .nil
      | @cons f pairs fields groups hf h ih =>
        refine .cons ?_ ih
        dsimp only
        rw [Value.ofText_ofString]
        exact hf.contribution
    · rw [List.map_flatten]

/-- The pairs that a member of a request leaves in the query string. -/
def Gives (b : Binding) (request : Fields) (pairs : List (String × String)) : Prop :=
  if b.area = .query then b.Sends (b.valueIn request) pairs else pairs = []

theorem gives_of_sends {request : Fields} {v : Value} {pairs : List (String × String)}
    (harea : b.area = .query) (hv : b.valueIn request = v) (h : b.Sends v pairs) :
    b.Gives request pairs := by
  unfold Gives
  rw [if_pos harea, hv]; exact h

end Binding

namespace Marshalling

variable {m : Marshalling}

/-- Pairs go to the end of the query string. -/
def withPairs (m : Marshalling) (pairs : List (String × String)) : Marshalling :=
  { m with query := m.query ++ pairs.map fun p => (.text p.1, (p.2 : Text)) }

theorem putAll_pairs (pairs : List (String × String)) (m : Marshalling) :
    m.putAll (pairs.map Part.ofPair) = (.ok (), m.withPairs pairs) := by
  induction pairs generalizing m with
  | nil => unfold withPairs; rw [List.map_nil, List.map_nil, List.append_nil]; rfl
  | cons p pairs ih =>
    rw [List.map_cons, putAll]
    show putAll (pairs.map Part.ofPair)
      { m with query := m.query ++ [(.text p.1, (p.2 : Text))] } = _
    rw [ih]
    unfold withPairs
    rw [List.append_assoc]; rfl

/-- **A member of the query string leaves its pairs**, and nothing else. -/
theorem add_query {b : Binding} (hb : b.area = .query) {v : Value} {pairs : List (String × String)}
    (h : b.Sends v pairs) (m : Marshalling) : m.add b v = (.ok (), m.withPairs pairs) := by
  obtain ⟨hbody, hlocation⟩ := (Binding.area_eq_of_location (.inr rfl)).1 hb
  by_cases hv : v = .null
  · subst hv
    cases h with
    | unset =>
      rw [add_unset hbody]
      unfold withPairs
      rw [List.map_nil, List.append_nil]
    | one _ _ hv _ => exact absurd rfl hv
    | items _ hv _ => rcases hv with hv | hv <;> cases hv
  · have hc : m.contributionOf b v = ⟨pairs.map Part.ofPair, .none⟩ := by
      rw [contributionOf_set hbody hv, Binding.contribution, hlocation]
      exact Binding.queryContribution_of_sends h hv
    unfold add contribute
    rw [hc, putAll_pairs]

/-- The pairs of members follow each other, whatever else the members leave. -/
theorem addMembers_pairs {bindings : List Binding} {request : Fields}
    {groups : List (List (String × String))}
    (h : List.Forall₂ (fun b pairs => b.Gives request pairs) bindings groups) {m' : Marshalling}
    (hadd : addMembers bindings (.map request) m = .ok m') :
    m'.query = m.query ++ groups.flatten.map fun p => (.text p.1, (p.2 : Text)) := by
  induction h generalizing m with
  | nil => rw [← Except.ok.inj hadd]; simp
  | @cons b pairs bindings groups hb h ih =>
    obtain ⟨m₁, hm₁, hrest⟩ := addMembers_cons.1 hadd
    have hquery : m₁.query = m.query ++ pairs.map fun p => (.text p.1, (p.2 : Text)) := by
      unfold Binding.Gives at hb
      split at hb
      · rename_i harea
        rw [add_query harea hb] at hm₁
        rw [← (Prod.mk.inj hm₁).2]; rfl
      · rename_i harea
        have hchanges := add_changesOnly (m := m) b (b.valueIn request)
        rw [hm₁] at hchanges
        rw [hb, hchanges.query harea]; simp
    rw [ih hrest, hquery, List.flatten_cons, List.map_append, List.append_assoc]

/-- Members of the query string are added, and leave nothing but their pairs. -/
theorem addMembers_pairs_ok {bindings : List Binding} {request : Fields}
    {groups : List (List (String × String))}
    (h : List.Forall₂ (fun b pairs => b.area = .query ∧ b.Gives request pairs) bindings groups)
    (m : Marshalling) :
    addMembers bindings (.map request) m = .ok (m.withPairs groups.flatten) := by
  induction h generalizing m with
  | nil => unfold withPairs; simp [addMembers]
  | @cons b pairs bindings groups hb h ih =>
    obtain ⟨harea, hgives⟩ := hb
    unfold Binding.Gives at hgives
    rw [if_pos harea] at hgives
    have hpairs : (m.withPairs pairs).withPairs groups.flatten =
        m.withPairs (pairs :: groups).flatten := by
      unfold withPairs
      rw [List.flatten_cons, List.map_append, List.append_assoc]
    exact addMembers_cons.2 ⟨_, add_query harea hgives m, hpairs ▸ ih _⟩

/-- The names and values of texts are their bytes. -/
theorem queryPairs_texts (pairs : List (String × String)) :
    queryPairs (pairs.map fun p => (.text p.1, (p.2 : Text))) =
      .ok (pairs.map fun p => (Utf8.encode p.1, Utf8.encode p.2)) := by
  induction pairs with
  | nil => rfl
  | cons p pairs ih =>
    have hname : queryName (.text p.1) = .ok (Utf8.encode p.1) := utf8Of_eq_ok.2 ⟨p.1, rfl, rfl⟩
    have hvalue : utf8Of (p.2 : Text) = .ok (Utf8.encode p.2) := utf8Of_eq_ok.2 ⟨p.2, rfl, rfl⟩
    rw [List.map_cons, queryPairs, hname, hvalue, ih]; rfl

/-- **The query string of a request is read as it was meant**: the pairs of the operation, then
those of the members. -/
theorem parse_queryString {pairs : List (String × String)}
    (h : m.query = pairs.map fun p => (.text p.1, (p.2 : Text))) {query : String}
    (hquery : m.queryString = .ok query) :
    Query.parse query =
      Query.parse (String.ofList (splitUri m.operation.uri).2) ++ pairs := by
  set fixed := String.ofList (splitUri m.operation.uri).2 with hfixed
  set given := Query.encode (pairs.map fun p => (Utf8.encode p.1, Utf8.encode p.2)) with hgiven
  have hstring : query =
      if fixed.isEmpty then given else if given.isEmpty then fixed else fixed ++ "&" ++ given := by
    unfold queryString at hquery
    rw [h, queryPairs_texts] at hquery
    exact (Except.ok.inj hquery).symm
  have hparse : Query.parse given = pairs := Query.parse_encode pairs
  rw [hstring]
  by_cases hf : fixed.isEmpty = true
  · rw [if_pos hf, hparse, String.isEmpty_iff.1 hf, Query.parse_empty, List.nil_append]
  · rw [if_neg hf]
    by_cases hg : given.isEmpty = true
    · rw [if_pos hg, Query.encode_eq_empty (String.isEmpty_iff.1 hg), List.append_nil]
    · rw [if_neg hg, Query.parse_append, hparse]

end Marshalling

namespace Url

/-- A text that starts with a slash is read exactly if the brackets of what is taken for its
authority are right, and no character of it is a variant of a mark. -/
theorem parse_slash {s : List Char} (hslash : s.head? = some '/') :
    (∃ u, parse (String.ofList s) = .ok u) ↔
      checkBrackets (takeAuthority (s.filter fun c => !isDropped c)).1 = .ok () ∧
        checkMarks (takeAuthority (s.filter fun c => !isDropped c)).1 = .ok () := by
  obtain ⟨t, rfl⟩ : ∃ t, s = '/' :: t := by
    cases s with
    | nil => cases hslash
    | cons c t => cases hslash; exact ⟨t, rfl⟩
  have hfilter : ('/' :: t).filter (fun c => !isDropped c) =
      '/' :: t.filter fun c => !isDropped c := List.filter_cons_of_pos (by decide)
  unfold parse
  rw [String.toList_ofList, List.dropWhile_cons_of_neg (by decide), hfilter]
  simp only [takeScheme_slash, bind_eq_ok]
  constructor
  · rintro ⟨u, a, hbrackets, b, hmarks, -⟩
    exact ⟨hbrackets, hmarks⟩
  · rintro ⟨hbrackets, hmarks⟩
    exact ⟨_, (), hbrackets, (), hmarks, rfl⟩

/-- What ends a path does not keep it from being read. -/
theorem parse_append {s rest : List Char} (hslash : s.head? = some '/') (hrest : EndsPath rest)
    (h : ∃ u, parse (String.ofList s) = .ok u) :
    ∃ u, parse (String.ofList (s ++ rest)) = .ok u := by
  have hrest' : EndsPath (rest.filter fun c => !isDropped c) := by
    rcases hrest with rfl | ⟨query, rfl⟩
    · exact .inl rfl
    · exact .inr ⟨_, List.filter_cons_of_pos (by decide)⟩
  have hslash' : (s ++ rest).head? = some '/' := by
    rw [List.head?_append, hslash]; rfl
  rw [parse_slash hslash', List.filter_append, takeAuthority_append hrest']
  exact (parse_slash hslash).1 h

/-- What ends an authority starts a path, or ends it. -/
theorem path_of_authority {s : List Char} (h : (takeAuthority s).1 ≠ []) :
    (splitFirst (· = '?') (splitFirst (· = '#') (takeAuthority s).2).1).1 = [] ∨
      (splitFirst (· = '?') (splitFirst (· = '#') (takeAuthority s).2).1).1.head? = some '/' := by
  by_cases hs : ∃ t, s = '/' :: '/' :: t
  · obtain ⟨t, rfl⟩ := hs
    rw [splitFirst_fst, splitFirst_fst]
    show List.takeWhile _ (List.takeWhile _ (t.dropWhile _)) = [] ∨ _
    have hstop := List.head?_dropWhile_not
      (fun c => !(decide (c = '/') || decide (c = '?') || decide (c = '#'))) t
    show _ ∨ (List.takeWhile _ (List.takeWhile _ (t.dropWhile
      fun c => !(decide (c = '/') || decide (c = '?') || decide (c = '#'))))).head? = _
    cases hrest : t.dropWhile
        fun c => !(decide (c = '/') || decide (c = '?') || decide (c = '#')) with
    | nil => exact .inl (by simp)
    | cons c rest =>
      rw [hrest, List.head?_cons] at hstop
      simp only [Bool.not_eq_false', Bool.or_eq_true, decide_eq_true_eq] at hstop
      rcases hstop with (rfl | rfl) | rfl
      · exact .inr rfl
      · exact .inl (by simp)
      · exact .inl (by simp)
  · rw [takeAuthority_none fun t ht => hs ⟨t, ht⟩] at h
    exact absurd rfl h

/-- The path behind an authority is empty or starts with a slash. -/
theorem path_of_parse {url : String} {u : Url} (h : parse url = .ok u) (ha : u.authority ≠ "") :
    u.path = "" ∨ u.path.toList.head? = some '/' := by
  unfold parse at h
  obtain ⟨-, -, hu⟩ := bind_eq_ok.1 h
  obtain ⟨-, -, hu⟩ := bind_eq_ok.1 hu
  rw [← Except.ok.inj hu] at ha ⊢
  dsimp only at ha ⊢
  rw [String.toList_ofList, String.ofList_eq_empty_iff]
  exact path_of_authority fun hnil => ha (String.ofList_eq_empty_iff.2 hnil)

end Url

/-- The path of an endpoint is empty or starts with a slash. -/
theorem DnsEndpoint.path_of_parse {e : DnsEndpoint} {u : Url} (h : Url.parse e.text = .ok u) :
    u.path = "" ∨ u.path.toList.head? = some '/' := by
  obtain ⟨u', hu', -, hauthority, -⟩ := e.parse_text
  obtain rfl : u' = u := Except.ok.inj (hu'.symm.trans h)
  refine Url.path_of_parse h ?_
  rw [hauthority, ne_eq, String.ofList_eq_empty_iff]
  unfold DnsEndpoint.authority
  simp [e.isHost.ne_nil]

namespace Marshalling

/-- Behind a base path that is empty or starts with a slash, a path starts with a slash. -/
theorem head?_joinPath {base : String} (hbase : base = "" ∨ base.toList.head? = some '/')
    (path : String) : (joinPath base path).toList.head? = some '/' := by
  obtain ⟨s, hs, hjoin⟩ : ∃ s : String, s.toList.head? = some '/' ∧
      joinPath base path = dropFinalSlashes base ++ s := by
    unfold joinPath
    by_cases hpath : path.startsWith "/" = true
    · rw [if_pos hpath]
      rw [String.startsWith_string_iff] at hpath
      obtain ⟨rest, hrest⟩ := hpath
      exact ⟨path, by rw [← hrest]; rfl, rfl⟩
    · rw [if_neg hpath]
      exact ⟨"/" ++ path, by simp, by rw [String.append_assoc]⟩
  rw [hjoin, String.toList_append, List.head?_append, hs]
  -- what is left of the base is a part of its front
  have hfront : (dropFinalSlashes base).toList <+: base.toList := by
    unfold dropFinalSlashes
    rw [String.toList_ofList]
    exact List.reverse_suffix.1 (by rw [List.reverse_reverse]; exact List.dropWhile_suffix _)
  cases hb : (dropFinalSlashes base).toList with
  | nil => rfl
  | cons c rest =>
    rw [hb] at hfront
    rcases hbase with rfl | hbase
    · obtain ⟨t, ht⟩ := hfront
      cases ht
    · obtain ⟨t, ht⟩ := hfront
      rw [← ht] at hbase
      cases hbase
      rfl

end Marshalling

/-- **A request with a path has a URL**, whatever its query string is. -/
theorem Request.rawBaseUrl_exists {p : RequestParts} {parts : Multipart} {r : Request}
    (h : make p parts = .ok r)
    (hraw : p.rawPath = "") (hslash : p.path.toList.head? = some '/') :
    ∃ url, r.rawBaseUrl = .ok url := by
  obtain ⟨-, plain, ⟨-, target, ht, -⟩, base, -, sent, -, rfl⟩ := make_eq_ok.1 h
  have huri : ∃ rest, Url.EndsPath rest ∧
      (p.request plain base sent).rawUri = String.ofList (p.path.toList ++ rest) := by
    have hdef : (p.request plain base sent).rawUri =
        if p.query = "" then p.path else p.path ++ "?" ++ p.query := by
      unfold RequestParts.request
      rw [if_pos hraw]
    rw [hdef]
    by_cases hquery : p.query = ""
    · exact ⟨[], .inl rfl, by rw [if_pos hquery, List.append_nil, String.ofList_toList]⟩
    · refine ⟨'?' :: p.query.toList, .inr ⟨_, rfl⟩, String.toList_inj.1 ?_⟩
      rw [if_neg hquery]
      simp
  obtain ⟨rest, hrest, huri⟩ := huri
  obtain ⟨u, hu⟩ := Url.parse_append hslash hrest ⟨target, by rwa [String.ofList_toList]⟩
  unfold rawBaseUrl rawPath
  rw [huri, hu]
  exact ⟨_, rfl⟩

namespace Dialect

variable {d : Dialect} {o : Operation} {bindings : List Binding} {request : Fields}
  {groups : List (List (String × String))}

/-- The parameters of a request are those of the operation, then those of the members, grouped. -/
theorem args_of_request
    (h : List.Forall₂ (fun b pairs => b.Gives request pairs) bindings groups) {endpoint : String}
    {parts : Multipart} {q : Request}
    (hq : d.request o bindings (.map request) endpoint parts = .ok q) :
    q.args = Query.grouped
      (Query.parse (String.ofList (Marshalling.splitUri o.uri).2) ++ groups.flatten) := by
  obtain ⟨started, hstart, hq⟩ := bind_eq_ok.1 hq
  obtain ⟨m, hadd, hq⟩ := bind_eq_ok.1 hq
  have hadd := Marshalling.addAll_eq_ok hadd
  obtain ⟨ho, -, -⟩ := marshalling_start hstart
  have hquery := Marshalling.addMembers_pairs h hadd
  rw [marshalling_query hstart, List.nil_append] at hquery
  obtain ⟨body, -, hassemble⟩ := Marshalling.finish_eq_ok.1 hq
  obtain ⟨headers, -, path, -, target, -, query, hstring, port, -, hmake⟩ :=
    Marshalling.assemble_eq_ok.1 hassemble
  obtain ⟨-, plain, -, base, -, sent, -, rfl⟩ := Request.make_eq_ok.1 hmake
  -- the end of the document leaves the query string as it is
  have hclosed := m.finishBody_changesOnly
  have hoperation : m.finishBody.2.operation = o :=
    (hclosed.operation.trans (Marshalling.addMembers_kept hadd).1).trans ho
  have hparse := Marshalling.parse_queryString ((hclosed.query (by decide)).trans hquery) hstring
  have hargs : ∀ p : RequestParts, (p.request plain base sent).args =
      Query.grouped (Query.parse p.query) := fun _ => rfl
  rw [hargs, ← hoperation, ← hparse, Operation.parts]

theorem marshalling_isSilent {started : Marshalling} (h : d.marshalling o = .ok started) :
    started.writer.isSilent = (d.writer o).isSilent := by
  obtain ⟨empty, -, hm⟩ := Dialect.marshalling_eq_ok.1 h
  unfold Marshalling.start at hm
  split at hm
  · rw [← (Prod.mk.inj hm).2]; rfl
  · rw [← (Prod.mk.inj hm).2]
    exact Marshalling.perform_isSilent .startObject (d.writer o)

/-- Without members in the body, the body is empty or an empty document. -/
theorem finishBody_exists {started : Marshalling} (h : d.marshalling o = .ok started)
    (pairs : List (String × String)) :
    ∃ bytes, (started.withPairs pairs).finishBody.1 = .ok (.blob bytes) := by
  have hempty : ∀ encoding : Encoding, ∃ bytes, encoding.encode (.map []) = .ok bytes := by
    intro encoding
    cases encoding <;> exact ⟨_, rfl⟩
  obtain ⟨empty, -, hm⟩ := Dialect.marshalling_eq_ok.1 h
  unfold Marshalling.start Marshalling.new Dialect.writer at hm
  unfold Marshalling.finishBody Marshalling.withPairs
  cases hbody : o.hasBodyMember with
  | true =>
    -- the writer has not been called
    simp only [hbody, if_true] at hm
    cases hm
    cases hsent : o.hasPayload || decide (o.protocol = .awsJson) with
    | true => simp only [hbody, if_true]; exact ⟨_, rfl⟩
    | false => simp only [hbody, if_true]; exact ⟨_, rfl⟩
  | false =>
    cases hsent : o.hasPayload || decide (o.protocol = .awsJson) with
    | true =>
      simp only [hbody, hsent, if_true] at hm
      cases hm
      obtain ⟨bytes, hbytes⟩ := hempty d.encoding
      refine ⟨bytes, ?_⟩
      simp only [hbody]
      show (d.encoding.encode (.map [])).map Value.blob = _
      rw [hbytes]; rfl
    | false =>
      simp only [hbody, hsent] at hm
      cases hm
      simp only [hbody]
      exact ⟨_, rfl⟩

/-- With parameters of the query only, the headers that can have a line break are the type of the
body and the name of the operation. -/
theorem breaksHeader_withPairs {started : Marshalling} (h : d.marshalling o = .ok started)
    (pairs : List (String × String)) :
    ¬ (started.withPairs pairs).finishBody.2.BreaksHeader ↔
      ((d.writer o).isSilent = false → Headers.isValue d.contentType = true) ∧
        Headers.isValue o.target = true := by
  obtain ⟨ho, hheaders, -⟩ := marshalling_start h
  have hoperation : (started.withPairs pairs).operation = o := ho
  have htype : (started.withPairs pairs).contentType = some d.contentType := by
    show started.contentType = _
    exact marshalling_contentType h
  have hnone : (started.withPairs pairs).headers.contains "Content-Type" = false := by
    show started.headers.contains "Content-Type" = false
    rw [hheaders]; rfl
  have hsilent : (started.withPairs pairs).writer.isSilent = (d.writer o).isSilent := by
    show started.writer.isSilent = _
    exact marshalling_isSilent h
  rw [Marshalling.finishBody_breaksHeader, Marshalling.BreaksHeader, htype, hnone, hsilent,
    hoperation]
  simp

/-- Names and values that are strings have bytes. -/
theorem isQueryPair_withPairs {started : Marshalling} (h : d.marshalling o = .ok started)
    (pairs : List (String × String)) :
    ∀ p ∈ (started.withPairs pairs).finishBody.2.query, Marshalling.IsQueryPair p := by
  have hquery : (started.withPairs pairs).finishBody.2.query =
      pairs.map fun p => (.text p.1, (p.2 : Text)) := by
    rw [Marshalling.finishBody_changesOnly.query (by decide), Marshalling.withPairs,
      marshalling_query h, List.nil_append]
  rw [← Marshalling.queryString_exists]
  unfold Marshalling.queryString
  rw [hquery, Marshalling.queryPairs_texts]
  exact ⟨_, rfl⟩

/-- A request of query parameters is made at an endpoint with the name of a host exactly if its
type and its name have no line breaks and its path can be read, and then it has a URL. -/
theorem request_exists (hgate : o.protocol ≠ .apiGateway)
    (h : List.Forall₂ (fun b pairs => b.area = .query ∧ b.Gives request pairs) bindings groups)
    (huri : ∀ name, .parameter name ∉ PathTemplate.ofChars (Marshalling.splitUri o.uri).1)
    (e : DnsEndpoint) (parts : Multipart) :
    (∃ q t, d.request o bindings (.map request) e.text parts = .ok q ∧
        Transmission.ofRequest q = .ok t) ↔
      ((d.writer o).isSilent = false → Headers.isValue d.contentType = true) ∧
        Headers.isValue o.target = true ∧
          o.PathReadsAt (String.ofList (Marshalling.splitUri o.uri).1) e.text := by
  obtain ⟨started, hstart⟩ := d.marshalling_exists hgate
  obtain ⟨bytes, hbody⟩ := finishBody_exists hstart groups.flatten
  -- the members only add pairs to the query, so the rest is as at the start
  have hadd := Marshalling.addMembers_pairs_ok h started
  have hcompletes : d.Completes o bindings (.map request) (started.withPairs groups.flatten)
      (.blob bytes) := ⟨bind_eq_ok.2 ⟨started, hstart, mapError_eq_ok.2 hadd⟩, hbody⟩
  have hlength : Marshalling.HasLength (.blob bytes) := .inr ⟨_, rfl⟩
  have htakes : Request.TakesBody (.blob bytes) := .inr (.inr ⟨bytes, rfl⟩)
  obtain ⟨hoperation, -⟩ := hcompletes.kept
  have hpath : (started.withPairs groups.flatten).finishBody.2.resolvedPath =
      .ok (String.ofList (Marshalling.splitUri o.uri).1) := by
    rw [Marshalling.finishBody_resolvedPath, Marshalling.resolvedPath, hoperation,
      PathTemplate.ofChars_of_literal _ huri, PathTemplate.expand_literal]
  have hbreaks := breaksHeader_withPairs hstart groups.flatten
  have hpairs := isQueryPair_withPairs hstart groups.flatten
  have hmade : (∃ q, d.request o bindings (.map request) e.text parts = .ok q) ↔
      ((d.writer o).isSilent = false → Headers.isValue d.contentType = true) ∧
        Headers.isValue o.target = true ∧
          o.PathReadsAt (String.ofList (Marshalling.splitUri o.uri).1) e.text := by
    rw [hcompletes.request_eq, Marshalling.assemble_exists hcompletes.clean, hpath,
      Marshalling.finishBody_changesOnly.operation, hoperation]
    constructor
    · rintro ⟨⟨path, hpath, hreads⟩, -, headers, hheaders, -⟩
      cases hpath
      obtain ⟨htype, htarget⟩ := hbreaks.1 (Marshalling.finishHeaders_ok.1 ⟨headers, hheaders⟩).2
      exact ⟨htype, htarget, hreads⟩
    · rintro ⟨htype, htarget, hreads⟩
      obtain ⟨headers, hheaders⟩ := Marshalling.finishHeaders_ok.2
        ⟨hlength, hbreaks.2 ⟨htype, htarget⟩⟩
      exact ⟨⟨_, rfl, hreads⟩, hpairs, headers, hheaders, .inl htakes⟩
  rw [← hmade]
  constructor
  · rintro ⟨q, t, hq, -⟩
    exact ⟨q, hq⟩
  · rintro ⟨q, hq⟩
    rw [hcompletes.request_eq] at hq
    obtain ⟨headers, -, path, -, target, ht, query, -, port, -, hmake⟩ :=
      Marshalling.assemble_eq_ok.1 hq
    obtain ⟨url, hurl⟩ := Request.rawBaseUrl_exists hmake rfl
      (Marshalling.head?_joinPath (DnsEndpoint.path_of_parse ht) path)
    exact ⟨q, _, hcompletes.request_eq e.text parts ▸ hq, bind_eq_ok.2 ⟨url, hurl, rfl⟩⟩

/-- **Query parameters reach the session unaltered.** Whatever else the members of a request are,
the session is handed for each name the values in the query of the operation, then the values of
the members, in order. With members of the query string only, at an endpoint with the name of a
host, the request is made and sent exactly if its type and its name have no line breaks and its path
can be read. -/
theorem params_of_request (d : Dialect) (o : Operation) (bindings : List Binding)
    (request : Fields) (groups : List (List (String × String)))
    (h : List.Forall₂ (fun b pairs => b.Gives request pairs) bindings groups) :
    (∀ endpoint parts q t, d.request o bindings (.map request) endpoint parts = .ok q →
      Transmission.ofRequest q = .ok t → ∀ name,
        Query.valuesOf name t.params =
          Query.valuesOf name (Query.parse (String.ofList (Marshalling.splitUri o.uri).2)) ++
            Query.valuesOf name groups.flatten) ∧
    ((∀ b ∈ bindings, b.area = .query) → o.protocol ≠ .apiGateway →
      (∀ name, .parameter name ∉ PathTemplate.ofChars (Marshalling.splitUri o.uri).1) →
      ∀ (e : DnsEndpoint) (parts : Multipart),
        (∃ q t, d.request o bindings (.map request) e.text parts = .ok q ∧
          Transmission.ofRequest q = .ok t) ↔
        ((d.writer o).isSilent = false → Headers.isValue d.contentType = true) ∧
          Headers.isValue o.target = true ∧
            o.PathReadsAt (String.ofList (Marshalling.splitUri o.uri).1) e.text) := by
  refine ⟨fun endpoint parts q t hq ht name => ?_,
    fun hquery hgate huri e parts => ?_⟩
  · obtain ⟨url, -, ht⟩ := bind_eq_ok.1 ht
    rw [← Except.ok.inj ht, args_of_request h hq, Query.valuesOf_grouped, Query.valuesOf_append]
  · have hall : List.Forall₂ (fun b pairs => b.area = .query ∧ b.Gives request pairs) bindings
        groups := ?_
    · exact request_exists hgate hall huri e parts
    clear huri hgate
    induction h with
    | nil => exact .nil
    | cons hb h ih =>
      rw [List.forall_mem_cons] at hquery
      exact .cons ⟨hquery.1, hb⟩ (ih hquery.2)

/-- A name of the operation's own query, of a list and of a map, with marks in its values. -/
theorem params_of_request_marks :
    ∃ q t, Dialect.request ⟨⟨"1.1", none, false, false, .root, []⟩, .json, []⟩
        ⟨.restJson, "/?a=1", "GET", none, false, false⟩
        [⟨.list, .query, "a", none, false, none⟩, ⟨.map, .query, "m", none, false, none⟩]
        (.map [(.text "a", .list [.text "x&y=+", .text ""]),
          (.text "m", .map [(.text "a", .tuple [.text "%20 é"]), (.text "#", .text "")])])
        DnsEndpoint.localhost.text (.withoutFiles "b") = .ok q ∧ Transmission.ofRequest q = .ok t ∧
      Query.valuesOf "a" t.params = ["1", "x&y=+", "", "%20 é"] ∧
      Query.valuesOf "#" t.params = [""] := by
  have hlist : Binding.Sends ⟨.list, .query, "a", none, false, none⟩
      (.list [.text "x&y=+", .text ""]) [("a", "x&y=+"), ("a", "")] := by
    have htexts : Texts .iso8601 [.text "x&y=+", .text ""] ["x&y=+", ""] :=
      .cons rfl (.cons rfl .nil)
    have hsends := Binding.Sends.items (b := ⟨.list, .query, "a", none, false, none⟩) rfl
      (.inl rfl) htexts
    exact hsends
  have hmap : Binding.Sends ⟨.map, .query, "m", none, false, none⟩
      (.map [(.text "a", .tuple [.text "%20 é"]), (.text "#", .text "")])
      [[("a", "%20 é")], [("#", "")]].flatten := by
    have htexts : Texts .iso8601 [.text "%20 é"] ["%20 é"] := .cons rfl .nil
    have hfields : List.Forall₂
        (fun (f : String × Value) pairs => FieldSends .iso8601 f.1 f.2 pairs)
        [("a", .tuple [.text "%20 é"]), ("#", .text "")] [[("a", "%20 é")], [("#", "")]] :=
      .cons (.items (.inr rfl) htexts) (.cons (.one (by simp) (by simp) rfl) .nil)
    have hsends := Binding.Sends.fields (b := ⟨.map, .query, "m", none, false, none⟩) rfl hfields
    exact hsends
  have hgives : List.Forall₂ (fun (b : Binding) pairs => b.Gives
      [(.text "a", .list [.text "x&y=+", .text ""]),
        (.text "m", .map [(.text "a", .tuple [.text "%20 é"]), (.text "#", .text "")])] pairs)
      [⟨.list, .query, "a", none, false, none⟩, ⟨.map, .query, "m", none, false, none⟩]
      [[("a", "x&y=+"), ("a", "")], [[("a", "%20 é")], [("#", "")]].flatten] :=
    .cons (Binding.gives_of_sends rfl rfl hlist) (.cons (Binding.gives_of_sends rfl rfl hmap) .nil)
  obtain ⟨hparams, hsent⟩ := params_of_request ⟨⟨"1.1", none, false, false, .root, []⟩, .json, []⟩
    ⟨.restJson, "/?a=1", "GET", none, false, false⟩
    [⟨.list, .query, "a", none, false, none⟩, ⟨.map, .query, "m", none, false, none⟩] _ _ hgives
  obtain ⟨q, t, hq, ht⟩ := (hsent (by decide) (by decide) (fun name h => by
    have htemplate : PathTemplate.ofChars (Marshalling.splitUri "/?a=1").1 = [.literal '/'] := by
      show PathTemplate.ofChars ['/'] = _
      rw [PathTemplate.ofChars_literal (by decide), PathTemplate.ofChars]
    rw [htemplate] at h
    simp at h) DnsEndpoint.localhost (.withoutFiles "b")).2
      ⟨fun _ => rfl, rfl, Operation.pathReadsAt_root rfl⟩
  have hfixed : Query.parse (String.ofList (Marshalling.splitUri "/?a=1").2) = [("a", "1")] :=
    Query.parse_pairText ("a", "1")
  have hvalues := fun name => hparams _ _ q t hq ht name
  rw [hfixed] at hvalues
  exact ⟨q, t, hq, ht, (hvalues "a").trans rfl, (hvalues "#").trans rfl⟩

end Dialect

end ServiceClient
