import ServiceClient.Proofs.HeaderWrites

/-!
# Line breaks in headers

The values of headers have no line breaks: a member whose value would bring one in makes the
request fail. Names are not looked at. They come from the bindings, but those of the fields of a map
end with the keys of the caller, and keep their line breaks.

* `hasLineBreak_congr`: names that differ in their case at most have the same line breaks.
* `breaks_fieldHeaders`: the keys of a map are the only names that bring one in.
* `Marshalling.headerWrites_breaks`: which members write names with line breaks.
* `Dialect.request_of_line_break`: a value with a line break makes the request fail.
* `Dialect.header_line_breaks`: which headers of a request have line breaks.
* `Dialect.header_with_line_break`: a name with a line break.
-/

namespace ServiceClient

/-- A text has a line break. -/
def HasLineBreak (t : Text) : Prop :=
  CodePoint.char '\n' ∈ t.points ∨ CodePoint.char '\r' ∈ t.points

theorem isValue_eq_true {t : Text} : Headers.isValue t = true ↔ ¬ HasLineBreak t := by
  unfold Headers.isValue HasLineBreak
  rw [Bool.not_eq_true', ← Bool.not_eq_true, List.any_eq_true, not_iff_not]
  constructor
  · rintro ⟨p, hp, hbreak⟩
    rw [Bool.or_eq_true, decide_eq_true_eq, decide_eq_true_eq] at hbreak
    rcases hbreak with rfl | rfl
    · exact .inl hp
    · exact .inr hp
  · rintro (hp | hp)
    · exact ⟨_, hp, by decide⟩
    · exact ⟨_, hp, by decide⟩

theorem hasLineBreak_append {a b : Text} :
    HasLineBreak (a ++ b) ↔ HasLineBreak a ∨ HasLineBreak b := by
  unfold HasLineBreak
  rw [Text.points_append, List.mem_append, List.mem_append, or_or_or_comm]

/-! ### Line breaks and case -/

theorem toNat_ofNat (n : Nat) : (Char.ofNat n).toNat = n ∨ (Char.ofNat n).toNat = 0 := by
  unfold Char.ofNat
  by_cases hvalid : n.isValidChar
  · rw [dif_pos hvalid]
    exact .inl rfl
  · rw [dif_neg hvalid]
    exact .inr rfl

/-- No letter beyond ASCII has a line break for its lower case: the images of letters lie behind
those of the control characters. -/
theorem notMem_mapCase {b c : Char} (hb : b = '\n' ∨ b = '\r') (hc : 128 ≤ c.toNat) :
    b ∉ mapCase lowerRuns lowerSpecials c := by
  have hcode : b.toNat = 10 ∨ b.toNat = 13 := by
    rcases hb with rfl | rfl
    · exact .inl rfl
    · exact .inr rfl
  have hruns : (lowerRuns.all fun r => 14 ≤ (r.first : Int) + r.shift) = true := by
    decide +kernel
  unfold mapCase
  split
  · -- the one letter that becomes two has no line break among them
    rename_i out hfind
    have hout := List.mem_of_find?_eq_some hfind
    rw [lowerSpecials, List.mem_singleton] at hout
    rw [(Prod.mk.inj hout).2]
    rcases hb with rfl | rfl <;> decide
  · split
    · rename_i r hfind
      have hmin := of_decide_eq_true
        (List.all_eq_true.1 hruns r (List.mem_of_find?_eq_some hfind))
      have hholds := List.find?_some hfind
      unfold CaseRun.holds at hholds
      have hfirst : r.first ≤ c.toNat := by
        simp only [Bool.and_eq_true, decide_eq_true_eq] at hholds
        exact hholds.1.1
      rw [List.mem_singleton]
      intro heq
      rw [heq] at hcode
      rcases toNat_ofNat ((c.toNat : Int) + r.shift).toNat with hsame | hnul <;> omega
    · rw [List.mem_singleton]
      rintro rfl
      omega

/-- **Lower case keeps line breaks**, and makes none, wherever a code point stands. -/
theorem mem_lowerPoint {b : Char} (hb : b = '\n' ∨ b = '\r') (before after : List CodePoint)
    (p : CodePoint) : .char b ∈ lowerPoint before after p ↔ p = .char b := by
  have hascii : ∀ c : Char, c.toNat < 128 →
      (c.toLower = '\n' ↔ c = '\n') ∧ (c.toLower = '\r' ↔ c = '\r') := ascii_forall (by decide)
  have hsmall : b.toNat < 128 := by rcases hb with rfl | rfl <;> decide
  unfold lowerPoint
  cases p with
  | surrogate n => exact List.mem_singleton.trans eq_comm
  | char c =>
    dsimp only
    rw [CodePoint.char.injEq]
    split
    · next hc =>
      obtain ⟨hfeed, hreturn⟩ := hascii c hc
      rw [List.mem_singleton, CodePoint.char.injEq, eq_comm]
      rcases hb with rfl | rfl
      · exact hfeed
      · exact hreturn
    · next hc =>
      refine ⟨fun h => ?_, fun h => absurd hsmall (h ▸ hc)⟩
      split at h
      · -- no sigma is a line break
        rw [List.mem_singleton, CodePoint.char.injEq] at h
        rw [h] at hsmall
        split at hsmall <;> exact absurd hsmall (by decide)
      · obtain ⟨d, hd, hsame⟩ := List.mem_map.1 h
        rw [CodePoint.char.inj hsame] at hd
        exact absurd hd (notMem_mapCase hb (Nat.le_of_not_lt hc))

theorem mem_lowerFrom {b : Char} (hb : b = '\n' ∨ b = '\r') {points : List CodePoint}
    (before : List CodePoint) : .char b ∈ lowerFrom before points ↔ .char b ∈ points := by
  induction points generalizing before with
  | nil => rfl
  | cons p rest ih =>
    rw [lowerFrom, List.mem_append, List.mem_cons, ih, mem_lowerPoint hb, eq_comm]

/-- Names that differ in their case at most have the same line breaks. -/
theorem hasLineBreak_congr {a b : Text} (h : sameName a b = true) :
    HasLineBreak a ↔ HasLineBreak b := by
  have hlower : ∀ t : Text, HasLineBreak t ↔
      CodePoint.char '\n' ∈ lowerPoints t.points ∨ CodePoint.char '\r' ∈ lowerPoints t.points := by
    intro t
    unfold HasLineBreak lowerPoints
    rw [mem_lowerFrom (.inl rfl), mem_lowerFrom (.inr rfl)]
  rw [hlower a, hlower b, beq_iff_eq.1 h]

/-! ### The names that members write -/

/-- The text of a value, as a key is written, has a line break. -/
def Value.BreaksLine (v : Value) : Prop := ∃ text, v.displayed = .ok text ∧ HasLineBreak text

/-- The names of the headers of a map have line breaks exactly if its keys do. -/
theorem breaks_fieldHeaders {name : String} (hname : ¬ HasLineBreak name)
    {format : TimestampFormat} {fields : Fields} {written : Headers}
    (h : fieldHeaders name format fields = .ok written) :
    (∃ w ∈ written, HasLineBreak w.1) ↔ ∃ p ∈ fields, p.1.BreaksLine := by
  induction fields generalizing written with
  | nil =>
    rw [← Except.ok.inj h]
    simp
  | cons field rest ih =>
    obtain ⟨key, v⟩ := field
    rw [fieldHeaders] at h
    obtain ⟨text, -, h⟩ := bind_eq_ok.1 h
    obtain ⟨shown, hshown, h⟩ := bind_eq_ok.1 h
    obtain ⟨others, hothers, h⟩ := bind_eq_ok.1 h
    have hkey : key.BreaksLine ↔ HasLineBreak shown := by
      unfold Value.BreaksLine
      rw [hshown]
      simp
    rw [← Except.ok.inj h, List.exists_mem_cons_iff, List.exists_mem_cons_iff, ih hothers, hkey,
      hasLineBreak_append]
    exact or_congr_left (or_iff_right hname)

namespace Binding

variable {b : Binding} {v : Value} {written : Headers}

/-- **The headers that a member writes**: those of a map, and else one with the name of the
binding. -/
theorem names_headersOf (h : b.headersOf v = .ok written) :
    (b.type = .map ∧ ∃ fields, v = .map fields ∧
      fieldHeaders b.name (b.timestampFormat .rfc822) fields = .ok written) ∨
    b.type ≠ .map ∧ written.map (·.1) = [(b.name : Text)] := by
  unfold headersOf at h
  cases htype : b.type with
  | map =>
    rw [htype] at h
    obtain ⟨fields, hfields, h⟩ := bind_eq_ok.1 h
    have hv : v = .map fields := by
      unfold ServiceClient.fieldsOf at hfields
      split at hfields
      · rw [Except.ok.inj hfields]
      · cases hfields
    exact .inl ⟨rfl, fields, hv, h⟩
  | list =>
    rw [htype] at h
    obtain ⟨items, -, h⟩ := bind_eq_ok.1 h
    obtain ⟨texts, -, h⟩ := bind_eq_ok.1 h
    rw [← Except.ok.inj h]
    exact .inr ⟨by decide, rfl⟩
  | _ =>
    rw [htype] at h
    obtain ⟨text, -, h⟩ := bind_eq_ok.1 h
    rw [← Except.ok.inj h]
    exact .inr ⟨by decide, rfl⟩

/-- A member brings a line break into the name of a header: it is a map of headers with a key that
has one. -/
def BreaksName (request : Value) (b : Binding) : Prop :=
  b.area = .header ∧ b.type = .map ∧ ∃ fields,
    Marshalling.memberOf request b.member = .ok (.map fields) ∧
      ∃ p ∈ fields, p.1.BreaksLine

/-- **Which names have line breaks**, if that of the binding has none. -/
theorem breaksName_iff {request : Value} (hname : ¬ HasLineBreak b.name)
    (hv : Marshalling.memberOf request b.member = .ok v) (h : b.writes v = .ok written) :
    (∃ w ∈ written, HasLineBreak w.1) ↔ b.BreaksName request := by
  by_cases harea : b.area = .header
  · by_cases hnull : v = .null
    · subst hnull
      rw [writes_null] at h
      rw [← Except.ok.inj h]
      constructor
      · rintro ⟨w, hmem, -⟩
        cases hmem
      · rintro ⟨-, -, fields, hfields, -⟩
        cases hfields.symm.trans hv
    · rw [writes_of_area harea hnull] at h
      rcases names_headersOf h with ⟨htype, fields, rfl, hwritten⟩ | ⟨htype, hwritten⟩
      · rw [breaks_fieldHeaders hname hwritten]
        constructor
        · exact fun hbreak => ⟨harea, htype, fields, hv, hbreak⟩
        · rintro ⟨-, -, fields', hfields, hbreak⟩
          cases hfields.symm.trans hv
          exact hbreak
      · constructor
        · rintro ⟨w, hmem, hbreak⟩
          have hw : w.1 ∈ written.map (·.1) := List.mem_map_of_mem hmem
          rw [hwritten, List.mem_singleton] at hw
          exact absurd (hw ▸ hbreak) hname
        · rintro ⟨-, hmap, -⟩
          exact absurd hmap htype
  · rw [writes_of_area_ne harea] at h
    rw [← Except.ok.inj h]
    constructor
    · rintro ⟨w, hmem, -⟩
      cases hmem
    · intro hb
      exact absurd hb.1 harea

end Binding

/-- Headers have line breaks in their names if these have been written. -/
theorem Headers.Follow.exists_break {h writes : Headers} (hfollow : h.Follow writes) :
    (∃ e ∈ h, HasLineBreak e.1) ↔ ∃ w ∈ writes, HasLineBreak w.1 := by
  constructor
  · rintro ⟨e, he, hbreak⟩
    exact ⟨e, (Headers.mem_of_last? ((hfollow.mem_iff e).1 he)).1, hbreak⟩
  · rintro ⟨w, hw, hbreak⟩
    -- a later write of the name may spell it in another way
    have hthere : (Headers.last? w.1 writes).isSome = true := by
      rw [Headers.last?_isSome]
      exact List.any_eq_true.2 ⟨w, hw, sameName_self _⟩
    obtain ⟨e, hlast⟩ := Option.isSome_iff_exists.1 hthere
    obtain ⟨-, hname⟩ := Headers.mem_of_last? hlast
    have he : e ∈ h := (hfollow.mem_iff e).2 ((Headers.last?_congr hname writes).trans hlast)
    exact ⟨e, he, (hasLineBreak_congr hname).2 hbreak⟩

namespace Marshalling

variable {m m' : Marshalling} {b : Binding} {v : Value} {bindings : List Binding}
  {request : Value} {written : Headers}

/-- Line breaks in the names that members write are those of keys. -/
theorem headerWrites_breaks (hnames : ∀ b ∈ bindings, ¬ HasLineBreak b.name)
    (h : headerWrites request bindings = .ok written) :
    (∃ w ∈ written, HasLineBreak w.1) ↔ ∃ b ∈ bindings, b.BreaksName request := by
  induction bindings generalizing written with
  | nil =>
    rw [← Except.ok.inj h]
    simp
  | cons b rest ih =>
    rw [List.forall_mem_cons] at hnames
    rw [headerWrites] at h
    obtain ⟨v, hv, h⟩ := bind_eq_ok.1 h
    obtain ⟨first, hfirst, h⟩ := bind_eq_ok.1 h
    obtain ⟨others, hothers, h⟩ := bind_eq_ok.1 h
    have hhead := Binding.breaksName_iff hnames.1 hv hfirst
    have hrest := ih hnames.2 hothers
    rw [← Except.ok.inj h, List.exists_mem_cons_iff, ← hhead, ← hrest]
    simp only [List.mem_append, or_and_right, exists_or]

/-- Members that are added have been added one by one. -/
theorem add_of_addMembers (hb : b ∈ bindings) (hv : memberOf request b.member = .ok v)
    (h : addMembers bindings request m = .ok m') : ∃ m₁ m₂, add b v m₁ = (.ok (), m₂) := by
  induction bindings generalizing m with
  | nil => cases hb
  | cons b' rest ih =>
    obtain ⟨v', hv', h⟩ := bind_eq_ok.1 h
    obtain ⟨u, hadd, h⟩ := bind_eq_ok.1 h
    rcases List.mem_cons.1 hb with rfl | hb
    · obtain rfl : v' = v := Except.ok.inj (hv'.symm.trans hv)
      exact ⟨m, (m.add b v').2, Prod.ext hadd rfl⟩
    · exact ih hb h

end Marshalling

namespace Dialect

variable {d : Dialect} {o : Operation} {bindings : List Binding} {request : Value}
  {endpoint : String} {parts : Multipart} {r : Request} {written : Headers} {body : Value}

/-- Only members write names with line breaks. -/
theorem exists_break_allWrites (d : Dialect) (o : Operation) (written : Headers) (body : Value) :
    (∃ w ∈ d.allWrites o written body, HasLineBreak w.1) ↔ ∃ w ∈ written, HasLineBreak w.1 := by
  constructor
  · rintro ⟨w, hw, hbreak⟩
    unfold allWrites at hw
    simp only [List.mem_append] at hw
    rcases hw with ((hw | hw) | hw) | hw
    · exact ⟨w, hw, hbreak⟩
    · rw [Marshalling.name_lengthWrites hw] at hbreak
      exact absurd hbreak (isValue_eq_true.1 (by decide))
    · rw [name_typeWrites hw] at hbreak
      exact absurd hbreak (isValue_eq_true.1 (by decide))
    · rw [Operation.name_targetWrites hw] at hbreak
      exact absurd hbreak (isValue_eq_true.1 (by decide))
  · rintro ⟨w, hw, hbreak⟩
    refine ⟨w, ?_, hbreak⟩
    unfold allWrites
    simp [hw]

/-- The headers of a request have no line breaks in their values, and have them in their names
exactly if a member brings one in. -/
theorem line_breaks_of_request (hnames : ∀ b ∈ bindings, ¬ HasLineBreak b.name)
    (hboundary : ¬ HasLineBreak parts.boundary)
    (hr : d.request o bindings request endpoint parts = .ok r) :
    (∀ e ∈ r.headers, ¬ HasLineBreak e.2) ∧
      ((∃ e ∈ r.headers, HasLineBreak e.1) ↔ ∃ b ∈ bindings, b.BreaksName request) := by
  obtain ⟨m, body, hcompletes, -⟩ := request_eq_ok.1 hr
  obtain ⟨written, bytes, hwrites, hclean, hsent, -⟩ := hcompletes.headers_sent hr
  obtain ⟨data, -, hsent⟩ := bind_eq_ok.1 hsent
  obtain ⟨added, hadded, hown⟩ := Request.bodyOf_adds hsent
  have hadded : r.headers = Headers.write [] (d.allWrites o written body) ++ added := hadded
  have hplain : ∀ e ∈ added, ¬ HasLineBreak e.1 ∧ ¬ HasLineBreak e.2 := by
    intro e he
    have hlength : ¬ HasLineBreak "content-length" := isValue_eq_true.1 (by decide)
    have htype : ¬ HasLineBreak "content-type" := isValue_eq_true.1 (by decide)
    cases hown e he with
    | length n => exact ⟨hlength, isValue_eq_true.1 (Headers.isValue_toString n)⟩
    | url => exact ⟨htype, isValue_eq_true.1 (by decide)⟩
    | parts =>
      have hfront : ¬ HasLineBreak (Form.partsType ++ "; boundary=\"" : String) :=
        isValue_eq_true.1 (by decide)
      have hback : ¬ HasLineBreak "\"" := isValue_eq_true.1 (by decide)
      refine ⟨htype, ?_⟩
      rw [Form.boundaryType, Text.ofString_append, Text.ofString_append, hasLineBreak_append,
        hasLineBreak_append]
      exact not_or.2 ⟨not_or.2 ⟨hfront, hboundary⟩, hback⟩
  rw [hadded]
  constructor
  · intro e he
    rcases List.mem_append.1 he with he | he
    · exact isValue_eq_true.1 (hclean e he)
    · exact (hplain e he).2
  · rw [← Marshalling.headerWrites_breaks hnames hwrites,
      ← exists_break_allWrites d o written body,
      ← (Headers.follow_write (d.allWrites o written body)).exists_break]
    constructor
    · rintro ⟨e, he, hbreak⟩
      rcases List.mem_append.1 he with he | he
      · exact ⟨e, he, hbreak⟩
      · exact absurd hbreak (hplain e he).1
    · rintro ⟨e, he, hbreak⟩
      exact ⟨e, List.mem_append_left _ he, hbreak⟩

/-- A value with a line break makes the request fail, by the client's own failure. -/
theorem request_of_line_break (hgate : o.protocol ≠ .apiGateway) {b : Binding} (hb : b ∈ bindings)
    (harea : b.area = .header) {v : Value} (hv : Marshalling.memberOf request b.member = .ok v)
    (hset : v ≠ .null) (hof : b.headersOf v = .ok written)
    (hbreak : ∃ w ∈ written, HasLineBreak w.2) (endpoint : String) (parts : Multipart) :
    ∃ cause, d.request o bindings request endpoint parts = .error (.marshalling cause) := by
  obtain ⟨started, hstart⟩ := d.marshalling_exists hgate
  have hmembers : ∃ cause, Marshalling.addMembers bindings request started = .error cause := by
    cases hadd : Marshalling.addMembers bindings request started with
    | error cause => exact ⟨cause, rfl⟩
    | ok m =>
      -- the member would have been added, with headers that have no line break
      obtain ⟨m₁, m₂, hmember⟩ := Marshalling.add_of_addMembers hb hv hadd
      obtain ⟨written', hof', hclean, -⟩ := (Marshalling.add_header harea hset).1 hmember
      obtain rfl : written' = written := Except.ok.inj (hof'.symm.trans hof)
      obtain ⟨w, hw, hw'⟩ := hbreak
      exact absurd hw' (isValue_eq_true.1 (hclean w hw))
  obtain ⟨cause, hcause⟩ := hmembers
  have hadd : started.addAll bindings request = .error (.marshalling cause) := by
    cases request with
    | null => cases hv
    | _ => exact mapError_eq_error.2 ⟨cause, hcause, rfl⟩
  refine ⟨cause, bind_eq_error.2 (.inr ⟨started, hstart, bind_eq_error.2 (.inl hadd)⟩)⟩

/-- **Which headers have line breaks.** If the bindings have no line breaks in their names, a
request that is made has none in the values of its headers, and has one in a name exactly if a
member is a map of headers with such a key; the boundary that is drawn for forms in parts has none.
A member whose value would bring one into a value makes the request fail, by the client's own
failure. -/
theorem header_line_breaks (d : Dialect) (o : Operation) (bindings : List Binding)
    (hnames : ∀ b ∈ bindings, ¬ HasLineBreak b.name) (request : Value) (endpoint : String)
    (parts : Multipart) :
    (¬ HasLineBreak parts.boundary → ∀ r, d.request o bindings request endpoint parts = .ok r →
      (∀ e ∈ r.headers, ¬ HasLineBreak e.2) ∧
        ((∃ e ∈ r.headers, HasLineBreak e.1) ↔ ∃ b ∈ bindings, b.BreaksName request)) ∧
    (o.protocol ≠ .apiGateway → ∀ b ∈ bindings, b.area = .header → ∀ v written,
      Marshalling.memberOf request b.member = .ok v → v ≠ .null →
        b.headersOf v = .ok written → (∃ w ∈ written, HasLineBreak w.2) →
          ∃ cause, d.request o bindings request endpoint parts =
            .error (.marshalling cause)) := by
  refine ⟨fun hboundary r hr => line_breaks_of_request hnames hboundary hr, ?_⟩
  intro hgate b hb harea v written hv hset hof hbreak
  exact request_of_line_break hgate hb harea hv hset hof hbreak endpoint parts

/-- An item with a line break makes a request with a list of headers fail. -/
theorem header_line_breaks_item :
    ∃ cause, Dialect.request ⟨⟨"1.1", none, false, false, .root, []⟩, .json, []⟩
        ⟨.restJson, "/", "GET", none, false, false⟩ [⟨.list, .header, "X-Tags", none, false, none⟩]
        (.map [(.text "X-Tags", .list [.text "a", .text "b\r\nX-Admin: 1"])])
        "https://localhost" (.withoutFiles "b") = .error (.marshalling cause) := by
  have hplain : ¬ HasLineBreak "X-Tags" := isValue_eq_true.1 (by decide)
  obtain ⟨-, hfails⟩ := header_line_breaks ⟨⟨"1.1", none, false, false, .root, []⟩, .json, []⟩
    ⟨.restJson, "/", "GET", none, false, false⟩ [⟨.list, .header, "X-Tags", none, false, none⟩]
    (List.forall_mem_singleton.2 hplain)
    (.map [(.text "X-Tags", .list [.text "a", .text "b\r\nX-Admin: 1"])]) "https://localhost"
    (.withoutFiles "b")
  have hbreak : HasLineBreak "a,b\r\nX-Admin: 1" := .inl (by decide)
  exact hfails (by decide) _ List.mem_cons_self rfl _
    ([("X-Tags", "a,b\r\nX-Admin: 1")] : Headers) rfl (fun h => by cases h) rfl
    ⟨_, List.mem_cons_self, hbreak⟩

/-- A key with a line break ends up in the name of a header. -/
theorem header_with_line_break :
    ∃ r, Dialect.request ⟨⟨"1.1", none, false, false, .root, []⟩, .json, []⟩
        ⟨.restJson, "/", "GET", none, false, false⟩
        [⟨.map, .header, "x-amz-meta-", some "Meta", false, none⟩]
        (.map [(.text "Meta", .map [(.text "a\r\nb", .text "v")])]) "https://localhost"
          (.withoutFiles "b") = .ok r ∧
      ¬ HasLineBreak "x-amz-meta-" ∧ (("x-amz-meta-a\r\nb", "v") : Text × Text) ∈ r.headers ∧
      HasLineBreak "x-amz-meta-a\r\nb" := by
  obtain ⟨m, hcompletes, hquery, headers, hheaders⟩ : ∃ m, Dialect.Completes
      ⟨⟨"1.1", none, false, false, .root, []⟩, .json, []⟩
      ⟨.restJson, "/", "GET", none, false, false⟩
      [⟨.map, .header, "x-amz-meta-", some "Meta", false, none⟩]
      (.map [(.text "Meta", .map [(.text "a\r\nb", .text "v")])]) m (.blob []) ∧ m.query = [] ∧
      ∃ headers, m.finishBody.2.finishHeaders (.blob []) = .ok headers :=
    ⟨_, ⟨rfl, rfl⟩, rfl, _, rfl⟩
  obtain ⟨r, hr⟩ := hcompletes.request_made (.withoutFiles "b") rfl hquery hheaders
    (.inl (.inl rfl))
  obtain ⟨written, bytes, hwrites, -, hsent, -⟩ := hcompletes.headers_sent hr
  obtain rfl := Except.ok.inj hwrites
  refine ⟨r, hr, isValue_eq_true.1 (by decide), ?_, .inl (by decide)⟩
  rw [← (Prod.mk.inj (Except.ok.inj hsent)).2]
  exact List.mem_cons_self

end Dialect

end ServiceClient
