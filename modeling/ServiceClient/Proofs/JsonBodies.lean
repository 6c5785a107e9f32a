import ServiceClient.Proofs.EpochSeconds
import ServiceClient.Proofs.JsonGrammar

/-!
# Bodies in JSON

A body in JSON is a text of the grammar unless a number in the written value is not finite: a double
that is infinite or no number, or a decimal whose nearest double is. Strings, byte strings,
timestamps and integers are always written as the grammar has them.

* `Json.IsBody`: the bodies that are texts of JSON.
* `Json.isBody_encode`: which documents have such a body.
* `Value.isFinite_normalForm`: what is written of a value is finite exactly if the value is.
* `BodyWriter.isBody_of_value`: the body of a value that is written alone.
-/

namespace ServiceClient

namespace Json

/-- A body that is a text of JSON in UTF-8. -/
def IsBody (body : Bytes) : Prop := ∃ s, IsText s ∧ body = Utf8.encodeChars s

/-- The body of characters is a text of JSON exactly if they are. -/
theorem isBody_encodeChars (s : List Char) : IsBody (Utf8.encodeChars s) ↔ IsText s := by
  constructor
  · rintro ⟨t, ht, heq⟩
    -- the decoder gives back the characters, so that only one text has this body
    have hdecode := Utf8.decode_encodeChars s
    rw [heq, Utf8.decode_encodeChars] at hdecode
    have hchars := congrArg String.toList (Except.ok.inj hdecode)
    rw [String.toList_ofList, String.toList_ofList] at hchars
    rw [← hchars]
    exact ht
  · intro h
    exact ⟨s, h, rfl⟩

/-- **The body of a document** is a text of JSON exactly if all numbers of the document are
finite. -/
theorem isBody_encode {v : Value} {body : Bytes} (h : Encoding.json.encode v = .ok body) :
    IsBody body ↔ v.isFinite = true := by
  unfold Encoding.encode at h
  obtain ⟨cs, hprint, h⟩ := bind_eq_ok.1 h
  obtain rfl := Except.ok.inj h
  rw [isBody_encodeChars]
  exact isText_print (mapError_eq_ok.1 hprint)

end Json

namespace Value

/-- The timestamps among scalars have civil clocks. -/
def IsCivil (v : Value) : Prop := ∀ t, v = .timestamp t → t.IsCivil

theorem itemsAreFinite_normalItems {items : List Value}
    (h : ∀ v ∈ items, (v.normalForm Encoding.json.convert).isFinite = v.isFinite) :
    itemsAreFinite (normalItems Encoding.json.convert items) = itemsAreFinite items := by
  induction items with
  | nil => rfl
  | cons v rest ih =>
    rw [List.forall_mem_cons] at h
    rw [normalItems, itemsAreFinite, itemsAreFinite, h.1, ih h.2]

theorem fieldsAreFinite_normalPairs {pairs : List (Text × Value)}
    (h : ∀ p ∈ pairs, (p.2.normalForm Encoding.json.convert).isFinite = p.2.isFinite) :
    fieldsAreFinite (Fields.named (normalPairs Encoding.json.convert pairs)) =
      fieldsAreFinite (Fields.named pairs) := by
  induction pairs with
  | nil => rfl
  | cons p rest ih =>
    obtain ⟨name, v⟩ := p
    rw [List.forall_mem_cons] at h
    by_cases hv : v = .null
    · subst hv
      rw [normalPairs_null, ih h.2]
      rfl
    · rw [normalPairs_cons hv, Fields.named_cons, Fields.named_cons, fieldsAreFinite,
        fieldsAreFinite, h.1, ih h.2]

/-- **What is written of a value is finite exactly if the value is**: the seconds of a timestamp
always are, and a decimal is written as its double. -/
theorem isFinite_normalForm {v : Value} (h : v.Plain IsCivil) :
    (v.normalForm Encoding.json.convert).isFinite = v.isFinite := by
  induction h with
  | null => rfl
  | @scalar v hv hcivil =>
    rw [normalForm_scalar hv]
    cases v with
    | timestamp t => exact (Timestamp.text_epochSeconds (hcivil t rfl)).1
    | _ => rfl
  | list _ ih =>
    rw [normalForm, isFinite, isFinite, itemsAreFinite_normalItems ih]
  | tuple _ ih =>
    rw [normalForm, isFinite, isFinite, itemsAreFinite_normalItems ih]
  | map _ _ _ ih =>
    rw [normalForm, normalFields_named, isFinite, isFinite, fieldsAreFinite_normalPairs ih]

end Value

namespace BodyWriter

/-- **The body of a value in JSON.** A writer takes every value that is built to any depth from
null, scalars, lists, tuples and maps with texts as keys. If it has a body then, the body is a text
of JSON exactly if all doubles in the value are finite and so are the doubles next to its
decimals. -/
theorem isBody_of_value {v : Value} (h : v.Plain Value.IsCivil) :
    ∃ w, (BodyWriter.new .json).perform (.value v) = (.ok (), w) ∧
      ∀ body, w.bytes = .ok body → (Json.IsBody body ↔ v.isFinite = true) := by
  obtain ⟨w, hperform, hbytes⟩ := perform_plain .json h
  refine ⟨w, hperform, fun body hbody => ?_⟩
  rw [hbytes] at hbody
  rw [← Value.isFinite_normalForm h]
  exact Json.isBody_encode hbody

/-- A nested value with a timestamp and a byte string has a body that is a text of JSON; with a
decimal that is too large for a double, it has a body that is none. -/
theorem isBody_of_value_nested :
    (∃ w, (BodyWriter.new .json).perform (.value (.map [(.text "a", .tuple [.null,
        .timestamp ⟨1622550615123600, some 7200⟩, .bytes .array [1, 2, 3]])])) = (.ok (), w) ∧
      ∀ body, w.bytes = .ok body → Json.IsBody body) ∧
    ∃ w, (BodyWriter.new .json).perform
        (.value (.list [.text "\"N\\", .decimal (.finite false 1 400)])) = (.ok (), w) ∧
      ∀ body, w.bytes = .ok body → ¬ Json.IsBody body := by
  have hcivil : Value.IsCivil (.timestamp ⟨1622550615123600, some 7200⟩) := by
    intro t ht
    rw [← Value.timestamp.inj ht]
    refine ⟨by decide, fun o ho => ?_⟩
    rw [← Option.some.inj ho]
    decide
  have hitems : Value.Plain Value.IsCivil (.tuple [.null,
      .timestamp ⟨1622550615123600, some 7200⟩, .bytes .array [1, 2, 3]]) := by
    refine .tuple ?_
    simp only [List.forall_mem_cons, List.not_mem_nil, false_implies, implies_true, and_true]
    exact ⟨.null, .scalar rfl hcivil, .scalar rfl fun t ht => Value.noConfusion ht⟩
  have hmap : Value.Plain Value.IsCivil (.map (Fields.named [("a", .tuple [.null,
      .timestamp ⟨1622550615123600, some 7200⟩, .bytes .array [1, 2, 3]])])) := by
    refine .map (by decide) ?_ ?_
    · rw [List.forall_mem_singleton]
      exact fun t ht => Value.noConfusion ht
    · rw [List.forall_mem_singleton]
      exact hitems
  have hlist : Value.Plain Value.IsCivil
      (.list [.text "\"N\\", .decimal (.finite false 1 400)]) := by
    refine .list ?_
    rw [List.forall_mem_cons, List.forall_mem_singleton]
    exact ⟨.scalar rfl fun t ht => Value.noConfusion ht,
      .scalar rfl fun t ht => Value.noConfusion ht⟩
  have hlarge : Value.isFinite (.list [.text "\"N\\", .decimal (.finite false 1 400)]) = false := by
    decide +kernel
  obtain ⟨w, hperform, hbody⟩ := isBody_of_value hmap
  obtain ⟨u, hperform', hbody'⟩ := isBody_of_value hlist
  refine ⟨⟨w, hperform, fun body h => (hbody body h).2 rfl⟩, u, hperform', fun body h htext => ?_⟩
  have := (hbody' body h).1 htext
  rw [hlarge] at this
  cases this

/-- **A body that is no text of JSON**: the one of a double that is no number. -/
theorem body_of_nan : ∃ w,
    (BodyWriter.new .json).perform (.value (.double Double.nan)) = (.ok (), w) ∧
    w.bytes = .ok (Utf8.encode "NaN") ∧ ¬ Json.IsBody (Utf8.encode "NaN") := by
  refine ⟨_, rfl, rfl, fun h => ?_⟩
  have hword := ((Json.isBody_encodeChars _).1 h).plain.noWord
  exact absurd hword (by decide)

end BodyWriter

end ServiceClient
