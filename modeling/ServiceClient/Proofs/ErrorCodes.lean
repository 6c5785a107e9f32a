import ServiceClient.Proofs.ErrorReading
import ServiceClient.Service.Operation

/-!
# What is stripped of an error code

A service names an error by a text that can have a namespace in front of the name and additional
information behind it. The header is stripped of the information only, and the field of the body
of the namespace only.

* `QualifiedCode`: the name of an error with all that can stand around it.
* `errorCode_of_header`, `errorCode_of_body`: what is left of it in either place.
* `ErrorReader.find?_separates`: codes that differ have different readers in some service.
* `errorCode_stripped`: when the name alone is left, and when both places lead to one reader.
-/

namespace ServiceClient

/-! ### Parts of a text at a mark -/

section Marks

variable {mark : Char} {s t : Text}

/-- A text without the mark goes on into what follows it. -/
theorem before_append (hs : .char mark ∉ s.points) (t : Text) :
    before mark (s ++ t) = s ++ before mark t := by
  have hkept : ∀ p ∈ s.points, (p != .char mark) = true := by
    intro p hp
    rw [bne_iff_ne]
    rintro rfl
    exact hs hp
  ext1
  exact List.takeWhile_append_of_pos hkept

/-- The last mark is in the second part of a text if there is one in it. -/
theorem afterLast_append (mark : Char) (s t : Text) :
    afterLast mark (s ++ t) =
      if .char mark ∈ t.points then afterLast mark t else afterLast mark s ++ t := by
  ext1
  unfold afterLast
  rw [Text.points_append, List.reverse_append]
  by_cases ht : .char mark ∈ t.points
  · have hstop :
        (t.points.reverse.takeWhile (· != .char mark)).length ≠ t.points.reverse.length := by
      intro hlength
      have hall := List.takeWhile_eq_self_iff.1
        ((List.takeWhile_prefix _).eq_of_length hlength) _ (List.mem_reverse.2 ht)
      simp at hall
    rw [if_pos ht, List.takeWhile_append, if_neg hstop]
  · have hkept : ∀ p ∈ t.points.reverse, (p != .char mark) = true := by
      intro p hp
      rw [bne_iff_ne]
      rintro rfl
      exact ht (List.mem_reverse.1 hp)
    rw [if_neg ht, List.takeWhile_append_of_pos hkept, List.reverse_append, List.reverse_reverse]
    rfl

theorem afterLast_of_notMem (ht : .char mark ∉ t.points) : afterLast mark t = t := by
  have happend := afterLast_append mark "" t
  rw [if_neg ht] at happend
  exact happend

theorem notMem_afterLast (mark : Char) (s : Text) : .char mark ∉ (afterLast mark s).points := by
  intro h
  have hkept := List.mem_takeWhile_imp (List.mem_reverse.1 h)
  simp at hkept

theorem afterLast_mark (ht : .char mark ∉ t.points) (more : Text) :
    afterLast mark (more ++ Text.ofChars [mark] ++ t) = t := by
  have hmark : afterLast mark (Text.ofChars [mark]) = "" := by
    simp [afterLast, Text.ofString, Text.ofChars]
  have hmem : CodePoint.char mark ∈ (Text.ofChars [mark]).points := List.mem_singleton.2 rfl
  rw [afterLast_append, if_neg ht, afterLast_append, if_pos hmem, hmark]
  rfl

/-- The part after the last mark ends the text. -/
theorem eq_append_afterLast (h : .char mark ∈ s.points) :
    ∃ more, s = more ++ Text.ofChars [mark] ++ afterLast mark s := by
  obtain ⟨front, back, hs, hfront⟩ := List.eq_append_cons_of_mem (List.mem_reverse.2 h)
  have hparts : s = ⟨back.reverse⟩ ++ Text.ofChars [mark] ++ ⟨front.reverse⟩ := by
    have hlist := congrArg List.reverse hs
    rw [List.reverse_reverse] at hlist
    ext1
    rw [hlist]
    simp
  have hlast : .char mark ∉ (⟨front.reverse⟩ : Text).points := by simpa using hfront
  refine ⟨⟨back.reverse⟩, ?_⟩
  rw [hparts, afterLast_mark hlast]

/-- A text ends at a mark with a part that has none exactly if that part comes after its last
mark. -/
theorem afterLast_eq_iff (h : .char mark ∈ s.points) (ht : .char mark ∉ t.points) :
    afterLast mark s = t ↔ ∃ more, s = more ++ Text.ofChars [mark] ++ t := by
  constructor
  · rintro rfl
    exact eq_append_afterLast h
  · rintro ⟨more, rfl⟩
    exact afterLast_mark ht more

end Marks

/-! ### The texts of a code -/

/-- The name of an error with all that can stand around it. -/
structure QualifiedCode where
  /-- The namespace, which ends at a `#`. -/
  space : Option Text
  name : Text
  /-- The additional information, which starts with a colon. -/
  detail : Option Text
  space_plain : ∀ s ∈ space, .char ':' ∉ s.points ∧ .char '#' ∉ s.points
  name_plain : .char ':' ∉ name.points ∧ .char '#' ∉ name.points

namespace QualifiedCode

variable (q : QualifiedCode)

/-- What stands in front of the name. -/
def leading : Text :=
  match q.space with
  | none => ""
  | some s => s ++ ("#" : Text)

/-- What stands behind the name. -/
def trailing : Text :=
  match q.detail with
  | none => ""
  | some d => (":" : Text) ++ d

/-- The code as a response has it. -/
def text : Text := q.leading ++ q.name ++ q.trailing

theorem colon_notMem_leading : .char ':' ∉ q.leading.points := by
  unfold leading
  cases hspace : q.space with
  | none => simp
  | some s => simpa using (q.space_plain s hspace).1

/-- There is a hash in front of the name exactly if there is a namespace. -/
theorem hash_notMem_leading : .char '#' ∉ q.leading.points ↔ q.space = none := by
  unfold leading
  cases q.space <;> simp

/-- Nothing stands in front of the name exactly if there is no namespace. -/
theorem leading_append_name : q.leading ++ q.name = q.name ↔ q.space = none := by
  rw [Text.ext_points_iff, Text.points_append, List.append_left_eq_self]
  unfold leading
  cases q.space <;> simp

/-- An empty text is a name without anything around it. -/
theorem text_eq_empty (h : q.text.isEmpty = true) : q.space = none ∧ q.name = "" := by
  rw [Text.isEmpty, List.isEmpty_iff, text, Text.points_append, Text.points_append,
    List.append_eq_nil_iff, List.append_eq_nil_iff] at h
  refine ⟨q.hash_notMem_leading.1 ?_, Text.ext_points h.1.2⟩
  rw [h.1.1]
  exact List.not_mem_nil

theorem afterLast_leading : afterLast '#' q.leading = "" := by
  unfold leading
  cases q.space with
  | none => rfl
  | some s =>
    have hend : .char '#' ∉ ("" : Text).points := List.not_mem_nil
    have hlast := afterLast_mark hend s
    rw [show s ++ Text.ofChars ['#'] ++ ("" : Text) = s ++ ("#" : Text) by ext1; simp] at hlast
    exact hlast

/-- **Up to the first colon** there are the namespace and the name. -/
theorem before_text : before ':' q.text = q.leading ++ q.name := by
  have hfront : .char ':' ∉ (q.leading ++ q.name).points := by
    rw [Text.points_append, List.mem_append, not_or]
    exact ⟨q.colon_notMem_leading, q.name_plain.1⟩
  have hback : before ':' q.trailing = "" := by
    unfold trailing
    cases q.detail with
    | none => rfl
    | some d => rfl
  rw [text, before_append hfront, hback]
  ext1
  simp

/-- **After the last hash** there is no namespace. -/
theorem afterLast_text : afterLast '#' q.text = afterLast '#' (q.name ++ q.trailing) := by
  have hassoc : q.text = q.leading ++ (q.name ++ q.trailing) := by
    ext1
    simp [text]
  rw [hassoc, afterLast_append]
  split
  · rfl
  · rename_i hnone
    rw [afterLast_leading, afterLast_of_notMem hnone]
    rfl

/-- The name comes after the last hash exactly if there is no additional information, or if the
information itself ends at a hash with the name. -/
theorem afterLast_text_eq_name :
    afterLast '#' q.text = q.name ↔
      q.detail = none ∨ ∃ more, q.detail = some (more ++ ("#" : Text) ++ q.name) := by
  have hname := q.name_plain.2
  rw [afterLast_text]
  unfold trailing
  cases q.detail with
  | none =>
    rw [show q.name ++ ("" : Text) = q.name by ext1; simp, afterLast_of_notMem hname]
    simp
  | some d =>
    by_cases hd : .char '#' ∈ d.points
    · have hcolon : .char '#' ∈ ((":" : Text) ++ d).points := by simpa using hd
      rw [afterLast_append, if_pos hcolon, afterLast_append, if_pos hd, afterLast_eq_iff hd hname]
      simp only [reduceCtorEq, false_or, Option.some.injEq]
      rfl
    · -- without a hash in it, the information stays behind the name
      have hnone : .char '#' ∉ (q.name ++ ((":" : Text) ++ d)).points := by simp [hname, hd]
      rw [afterLast_of_notMem hnone]
      constructor
      · intro h
        have hlength := congrArg (fun t => t.points.length) h
        simp at hlength
      · rintro (h | ⟨more, h⟩)
        · cases h
        · cases h
          simp at hd

end QualifiedCode

/-! ### The code of a response -/

/-- An empty header is none. -/
theorem filledHeader?_eq {name v : Text} {h : Headers} (hv : h.get? name = some v) :
    filledHeader? name h = if v.isEmpty then none else some v := by
  unfold filledHeader?
  rw [hv, Option.filter_some]
  cases v.isEmpty <;> rfl

section Response

variable {q : QualifiedCode} {h : Headers} {fields : Fields} {field : Option String}

/-- **The header is stripped of the information alone**; an empty one leaves the code to the
body. -/
theorem errorCode_of_header (hv : h.get? "x-amzn-ErrorType" = some q.text) :
    errorCode h fields field =
      if q.text.isEmpty then errorCode [] fields field else .ok (some (q.leading ++ q.name)) := by
  have hfilled := filledHeader?_eq hv
  unfold errorCode
  cases hempty : q.text.isEmpty with
  | true =>
    rw [hempty, if_pos rfl] at hfilled
    rw [if_pos rfl, hfilled]
    rfl
  | false =>
    rw [hempty, if_neg (by decide)] at hfilled
    rw [if_neg (by decide), hfilled, ← q.before_text]

/-- **The field is stripped of the namespace alone.** -/
theorem errorCode_of_body (hnone : filledHeader? "x-amzn-ErrorType" h = none)
    (hv : fields.get? (.text (nonEmptyOr codeField field)) = some (.ofText q.text)) :
    errorCode h fields field = .ok (some (afterLast '#' q.text)) := by
  have hfield : (field.filter fun f => !f.isEmpty).getD codeField = nonEmptyOr codeField field := by
    unfold nonEmptyOr
    cases field with
    | none => rfl
    | some f =>
      by_cases hf : f = ""
      · subst hf
        rfl
      · rw [Option.filter_some, if_pos (by simpa using hf)]
        simp
  have hfilled : displayedOf (filledField? (nonEmptyOr codeField field) fields) =
      .ok (some q.text) := by
    unfold filledField?
    rw [hv]
    rcases Value.ofText_cases q.text with ⟨s, hs, htext⟩ | ⟨l, hl, htext⟩
    · rw [htext, hs]
      rfl
    · rw [htext, hl]
      rfl
  unfold errorCode
  rw [hnone]
  dsimp only
  rw [hfield, hfilled]
  rfl

end Response

namespace ErrorReader

/-- **Codes that differ have different readers** in some service. -/
theorem find?_separates {code other : Option Text} :
    (∀ shapes base, find? (ofShapes shapes base).result code =
      find? (ofShapes shapes base).result other) ↔ code = other := by
  -- a service with one shape tells its code from all others
  have hown : ∀ (c : Text) (found : Option Text),
      (∀ shapes base, find? (ofShapes shapes base).result (some c) =
        find? (ofShapes shapes base).result found) → found = some c := by
    intro c found h
    have hone := h [⟨c, some .root, none⟩] .root
    rw [result_ofShapes] at hone
    by_contra hne
    have hother : (some c == found) = false := by
      rw [beq_eq_false_iff_ne]
      exact Ne.symm hne
    have hcode := congrArg (Option.map ErrorReader.code) hone
    simp [find?, accepts, standard, ErrorShape.reader?, hother] at hcode
  constructor
  · intro h
    cases code with
    | some c => exact (hown c other h).symm
    | none =>
      cases other with
      | none => rfl
      | some c => exact hown c none fun shapes base => (h shapes base).symm
  · rintro rfl _ _
    rfl

end ErrorReader

/-- **What is stripped of an error code.** The header leaves the name alone exactly if the code has
no namespace, and the field of the body exactly if it has no additional information or one that
ends at a hash with the name. A service reads both with one reader, whichever errors it models,
exactly if the name alone is left of either. -/
theorem errorCode_stripped (q : QualifiedCode) (h other : Headers) (own fields : Fields)
    (field : Option String) (hheader : h.get? "x-amzn-ErrorType" = some q.text)
    (hnone : filledHeader? "x-amzn-ErrorType" other = none)
    (hbody : fields.get? (.text (nonEmptyOr codeField field)) = some (.ofText q.text)) :
    (errorCode h own field = .ok (some q.name) ↔
      q.space = none ∧ (q.text.isEmpty → errorCode [] own field = .ok (some ""))) ∧
    (errorCode other fields field = .ok (some q.name) ↔
      q.detail = none ∨ ∃ more, q.detail = some (more ++ ("#" : Text) ++ q.name)) ∧
    ((∃ code found, errorCode h own field = .ok code ∧ errorCode other fields field = .ok found ∧
        ∀ shapes base, ErrorReader.find? (ErrorReader.ofShapes shapes base).result code =
          ErrorReader.find? (ErrorReader.ofShapes shapes base).result found) ↔
      errorCode h own field = .ok (some q.name) ∧
        errorCode other fields field = .ok (some q.name)) := by
  have hfirst : errorCode h own field = _ := errorCode_of_header hheader
  have hsecond := errorCode_of_body hnone hbody
  refine ⟨?_, ?_, ?_⟩
  · rw [hfirst]
    cases hempty : q.text.isEmpty with
    | true =>
      obtain ⟨hspace, hname⟩ := q.text_eq_empty hempty
      simp [hspace, hname]
    | false => simp [q.leading_append_name]
  · rw [hsecond, Except.ok.injEq, Option.some.injEq, q.afterLast_text_eq_name]
  · constructor
    · rintro ⟨code, found, hcode, hfound, hsame⟩
      obtain rfl : code = found := ErrorReader.find?_separates.1 hsame
      obtain rfl := Except.ok.inj (hsecond.symm.trans hfound)
      -- a namespace ends at a hash, and no hash is left of the field
      have hname : afterLast '#' q.text = q.name := by
        rw [hfirst] at hcode
        cases hempty : q.text.isEmpty with
        | true =>
          have htext : q.text = "" := Text.ext_points (List.isEmpty_iff.1 hempty)
          rw [(q.text_eq_empty hempty).2, htext]
          rfl
        | false =>
          rw [hempty, if_neg (by decide), Except.ok.injEq, Option.some.injEq] at hcode
          have hhash : .char '#' ∉ q.leading.points := by
            intro hmem
            apply notMem_afterLast '#' q.text
            rw [← hcode]
            exact List.mem_append_left _ hmem
          rw [← hcode, q.leading_append_name]
          exact q.hash_notMem_leading.1 hhash
      rw [hname] at hcode hfound
      exact ⟨hcode, hfound⟩
    · rintro ⟨hcode, hfound⟩
      exact ⟨_, _, hcode, hfound, fun _ _ => rfl⟩

/-- A code with information that itself has a hash. -/
theorem errorCode_stripped_uri :
    (⟨none, "FooError", some ("http://host/#FooError" : Text), by simp, by decide⟩ :
      QualifiedCode).text = "FooError:http://host/#FooError" ∧
    errorCode ([("x-amzn-ErrorType", "FooError:http://host/#FooError")] : Headers) []
      (some "code") = .ok (some ("FooError" : Text)) ∧
    errorCode [] [(.text "code", .text "FooError:http://host/#FooError")] (some "code") =
      .ok (some ("FooError" : Text)) := by
  obtain ⟨hheader, hbody, -⟩ := errorCode_stripped
    ⟨none, "FooError", some ("http://host/#FooError" : Text), by simp, by decide⟩
    ([("x-amzn-ErrorType", "FooError:http://host/#FooError")] : Headers) [] []
    [(.text "code", .text "FooError:http://host/#FooError")] (some "code") rfl rfl rfl
  refine ⟨by decide, hheader.2 ⟨rfl, ?_⟩, hbody.2 (.inr ⟨"http://host/", by decide⟩)⟩
  intro hempty
  exact absurd hempty (by decide)

/-- The header keeps a namespace that the field of the body loses. -/
theorem errorCode_not_stripped :
    (⟨some ("aws.protocoltests" : Text), "FooError", none, by decide, by decide⟩ :
      QualifiedCode).text = "aws.protocoltests#FooError" ∧
    errorCode ([("x-amzn-ErrorType", "aws.protocoltests#FooError")] : Headers) [] none =
      .ok (some ("aws.protocoltests#FooError" : Text)) ∧
    errorCode [] [(.text "__type", .text "aws.protocoltests#FooError")] none =
      .ok (some ("FooError" : Text)) :=
  ⟨by decide, rfl, rfl⟩

end ServiceClient
