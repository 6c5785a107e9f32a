import ServiceClient.Proofs.Writing

/-!
# Normal forms

What a nested value is once it is written: fields that are null are gone, tuples are lists, and
scalars are as the encoding holds them.

* `Value.Plain`: a value nested from scalars of a kind, with different texts as keys.
* `Value.Held`: a document nested from scalars of a kind.
* `Value.Plain.held`: the normal form of a plain value is a document.
* `Tree.value_ofValue`: writing a plain value writes its normal form.
* `BodyWriter.perform_plain`: a value that is written alone is a whole document.
-/

namespace ServiceClient

namespace Value

/-- A value built to any depth from null, scalars of a kind, lists, tuples, and maps with
different texts of that kind as keys. -/
inductive Plain (scalar : Value → Prop) : Value → Prop
  | null : Plain scalar .null
  | scalar {v : Value} (hv : v.isScalar) (h : scalar v) : Plain scalar v
  | list {items : List Value} (h : ∀ v ∈ items, Plain scalar v) : Plain scalar (.list items)
  | tuple {items : List Value} (h : ∀ v ∈ items, Plain scalar v) : Plain scalar (.tuple items)
  | map {pairs : List (Text × Value)} (hd : (pairs.map (·.1)).Nodup)
      (hn : ∀ p ∈ pairs, scalar (.ofText p.1)) (h : ∀ p ∈ pairs, Plain scalar p.2) :
      Plain scalar (.map (Fields.named pairs))

/-- A document: a value without tuples, built as above. -/
inductive Held (scalar : Value → Prop) : Value → Prop
  | null : Held scalar .null
  | scalar {v : Value} (hv : v.isScalar) (h : scalar v) : Held scalar v
  | list {items : List Value} (h : ∀ v ∈ items, Held scalar v) : Held scalar (.list items)
  | map {pairs : List (Text × Value)} (hd : (pairs.map (·.1)).Nodup)
      (hn : ∀ p ∈ pairs, scalar (.ofText p.1)) (h : ∀ p ∈ pairs, Held scalar p.2) :
      Held scalar (.map (Fields.named pairs))

/-- The scalars that every encoding takes: booleans, integers, strings and byte strings. -/
def IsBasic : Value → Prop
  | .bool _ | .int _ | .text _ | .bytes .. => True
  | _ => False

/-- These scalars as readers produce them. -/
def IsBasicRead : Value → Prop
  | .bool _ | .int _ | .text _ | .bytes .fixed _ => True
  | _ => False

/-- What a reader produces is basic. -/
theorem IsBasicRead.isBasic {v : Value} (h : IsBasicRead v) : IsBasic v := by
  cases v with
  | bool _ | int _ | text _ | bytes _ _ => trivial
  | _ => exact False.elim h

/-- A text that is basic is a string. -/
theorem exists_string_of_isBasic {t : Text} (h : IsBasic (ofText t)) : ∃ s : String, t = s := by
  rcases ofText_cases t with ⟨s, rfl, -⟩ | ⟨l, rfl, hl⟩
  · exact ⟨s, rfl⟩
  · rw [hl] at h
    exact False.elim h

mutual

/-- The normal form of a value: null fields of maps are dropped, null items of lists stay,
tuples become lists, scalars are converted. -/
def normalForm (convert : Value → Value) : Value → Value
  | .null => .null
  | .list items | .tuple items => .list (normalItems convert items)
  | .map fields => .map (normalFields convert fields)
  | v => convert v

def normalItems (convert : Value → Value) : List Value → List Value
  | [] => []
  | v :: rest => v.normalForm convert :: normalItems convert rest

def normalFields (convert : Value → Value) : List (Value × Value) → List (Value × Value)
  | [] => []
  | (_, .null) :: rest => normalFields convert rest
  | (k, v) :: rest => (k, v.normalForm convert) :: normalFields convert rest

end

variable {convert : Value → Value} {scalar : Value → Prop}

theorem normalForm_scalar {v : Value} (h : v.isScalar) : v.normalForm convert = convert v := by
  cases v <;> first | rfl | exact Bool.noConfusion h

theorem normalItems_eq_map (items : List Value) :
    normalItems convert items = items.map (normalForm convert) := by
  induction items with
  | nil => rfl
  | cons v rest ih => rw [normalItems, List.map_cons, ih]

theorem normalFields_null (k : Value) (rest : List (Value × Value)) :
    normalFields convert ((k, .null) :: rest) = normalFields convert rest := by
  rw [normalFields]

theorem normalFields_cons {v : Value} (hv : v ≠ .null) (k : Value) (rest : List (Value × Value)) :
    normalFields convert ((k, v) :: rest) =
      (k, v.normalForm convert) :: normalFields convert rest := by
  cases v <;> first | exact absurd rfl hv | rfl

/-- The normal forms of named values, without those that are null. -/
def normalPairs (convert : Value → Value) : List (Text × Value) → List (Text × Value)
  | [] => []
  | (_, .null) :: rest => normalPairs convert rest
  | (name, v) :: rest => (name, v.normalForm convert) :: normalPairs convert rest

theorem normalPairs_null (name : Text) (rest : List (Text × Value)) :
    normalPairs convert ((name, .null) :: rest) = normalPairs convert rest := by
  rw [normalPairs]

theorem normalPairs_cons {v : Value} (hv : v ≠ .null) (name : Text)
    (rest : List (Text × Value)) :
    normalPairs convert ((name, v) :: rest) =
      (name, v.normalForm convert) :: normalPairs convert rest := by
  cases v <;> first | exact absurd rfl hv | rfl

theorem normalFields_named (pairs : List (Text × Value)) :
    normalFields convert (Fields.named pairs) = Fields.named (normalPairs convert pairs) := by
  induction pairs with
  | nil => rfl
  | cons p rest ih =>
    obtain ⟨name, v⟩ := p
    rw [Fields.named_cons]
    by_cases hv : v = .null
    · subst hv
      rw [normalFields_null, normalPairs_null, ih]
    · rw [normalFields_cons hv, normalPairs_cons hv, Fields.named_cons, ih]

/-- No name is added. -/
theorem names_normalPairs (pairs : List (Text × Value)) :
    ((normalPairs convert pairs).map (·.1)).Sublist (pairs.map (·.1)) := by
  induction pairs with
  | nil => exact .slnil
  | cons p rest ih =>
    obtain ⟨name, v⟩ := p
    by_cases hv : v = .null
    · subst hv
      rw [normalPairs_null]; exact ih.cons _
    · rw [normalPairs_cons hv]; exact ih.cons_cons _

theorem mem_normalPairs {pairs : List (Text × Value)} {q : Text × Value}
    (h : q ∈ normalPairs convert pairs) :
    ∃ p ∈ pairs, q = (p.1, p.2.normalForm convert) := by
  induction pairs with
  | nil => cases h
  | cons p rest ih =>
    obtain ⟨name, v⟩ := p
    have hrest : q ∈ normalPairs convert rest →
        ∃ p ∈ (name, v) :: rest, q = (p.1, p.2.normalForm convert) := fun hq => by
      obtain ⟨p, hp, he⟩ := ih hq
      exact ⟨p, List.mem_cons_of_mem _ hp, he⟩
    by_cases hv : v = .null
    · subst hv
      rw [normalPairs_null] at h
      exact hrest h
    · rw [normalPairs_cons hv] at h
      rcases List.mem_cons.1 h with rfl | h
      · exact ⟨(name, v), List.mem_cons_self, rfl⟩
      · exact hrest h

/-- A member that is set has its normal form under its name. -/
theorem lookup_normalPairs {pairs : List (Text × Value)} (hd : (pairs.map (·.1)).Nodup)
    {name : Text} {v : Value} (h : (name, v) ∈ pairs) (hv : v ≠ .null) :
    (normalPairs convert pairs).lookup name = some (v.normalForm convert) := by
  induction pairs with
  | nil => cases h
  | cons p rest ih =>
    obtain ⟨n, w⟩ := p
    rw [List.map_cons, List.nodup_cons] at hd
    rcases List.mem_cons.1 h with he | hm
    · cases he
      rw [normalPairs_cons hv, List.lookup_cons, beq_self_eq_true]
    · have hn : (name == n) = false := by
        apply beq_false_of_ne
        rintro rfl
        exact hd.1 (List.mem_map.2 ⟨(name, v), hm, rfl⟩)
      by_cases hw : w = .null
      · subst hw
        rw [normalPairs_null]; exact ih hd.2 hm
      · rw [normalPairs_cons hw, List.lookup_cons, hn]; exact ih hd.2 hm

theorem itemsHaveTextKeys_of_forall {items : List Value} (h : ∀ v ∈ items, v.hasTextKeys = true) :
    itemsHaveTextKeys items = true := by
  induction items with
  | nil => rfl
  | cons v rest ih =>
    rw [List.forall_mem_cons] at h
    rw [itemsHaveTextKeys, h.1, ih h.2]; rfl

theorem fieldsHaveTextKeys_named {pairs : List (Text × Value)}
    (h : ∀ p ∈ pairs, p.2.hasTextKeys = true) : fieldsHaveTextKeys (Fields.named pairs) = true := by
  induction pairs with
  | nil => rfl
  | cons p rest ih =>
    rw [List.forall_mem_cons] at h
    rw [Fields.named_cons, fieldsHaveTextKeys, text?_ofText, h.1, ih h.2]; rfl

theorem Plain.hasTextKeys {v : Value} (h : Plain scalar v) : v.hasTextKeys = true := by
  induction h with
  | null => rfl
  | @scalar v hv _ => cases v <;> first | rfl | exact Bool.noConfusion hv
  | list _ ih => rw [Value.hasTextKeys]; exact itemsHaveTextKeys_of_forall ih
  | tuple _ ih => rw [Value.hasTextKeys]; exact itemsHaveTextKeys_of_forall ih
  | map _ _ _ ih => rw [Value.hasTextKeys]; exact fieldsHaveTextKeys_named ih

/-- **The normal form of a plain value is a document**, of the scalars that the conversion
makes. -/
theorem Plain.held {held : Value → Prop} {v : Value} (h : Plain scalar v)
    (hconvert : ∀ w, w.isScalar → scalar w → (convert w).isScalar ∧ held (convert w))
    (hname : ∀ name, scalar (ofText name) → held (ofText name)) :
    Held held (v.normalForm convert) := by
  induction h with
  | null => exact .null
  | @scalar v hv h =>
    rw [normalForm_scalar hv]
    exact .scalar (hconvert v hv h).1 (hconvert v hv h).2
  | list _ ih | tuple _ ih =>
    rw [normalForm, normalItems_eq_map]
    exact .list (List.forall_mem_map.2 ih)
  | @map pairs hd hn _ ih =>
    rw [normalForm, normalFields_named]
    refine .map ((names_normalPairs pairs).nodup hd) (fun q hq => ?_) fun q hq => ?_
    · obtain ⟨p, hp, rfl⟩ := mem_normalPairs hq
      exact hname p.1 (hn p hp)
    · obtain ⟨p, hp, rfl⟩ := mem_normalPairs hq
      exact ih p hp

/-- An encoding that makes byte strings blobs, and leaves the other basic scalars as they are,
holds what is basic. -/
theorem Plain.heldBasic {v : Value} (h : Plain IsBasic v)
    (hbool : ∀ b, convert (.bool b) = .bool b) (hint : ∀ n, convert (.int n) = .int n)
    (htext : ∀ s, convert (.text s) = .text s)
    (hbytes : ∀ kind s, convert (.bytes kind s) = .blob s) :
    Held IsBasicRead (v.normalForm convert) := by
  refine h.held (fun w _ hw => ?_) fun name hname => ?_
  · have hread : ∀ u : Value, convert u = u → u.isScalar → IsBasicRead u →
        (convert u).isScalar ∧ IsBasicRead (convert u) := fun u hu hs hr => by
      rw [hu]
      exact ⟨hs, hr⟩
    cases w with
    | bool b => exact hread _ (hbool b) rfl trivial
    | int n => exact hread _ (hint n) rfl trivial
    | text s => exact hread _ (htext s) rfl trivial
    | bytes kind s =>
      rw [hbytes]
      exact ⟨rfl, trivial⟩
    | _ => exact False.elim hw
  · obtain ⟨s, rfl⟩ := exists_string_of_isBasic hname
    rw [ofText_ofString]
    trivial

/-- Fields that are written one by one make a document. -/
theorem Held.ofPairs {pairs : List (Text × Value)}
    (h : ∀ p ∈ pairs, scalar (ofText p.1) ∧ Held scalar p.2) :
    Held scalar (.map (Fields.ofPairs (Fields.named pairs))) := by
  obtain ⟨kept, hkept, hd, hsub⟩ := Fields.exists_named_ofPairs pairs
  rw [hkept]
  exact .map hd (fun p hp => (h p (hsub hp)).1) fun p hp => (h p (hsub hp)).2

theorem Held.imp {v : Value} {held : Value → Prop} (h : Held held v)
    (hs : ∀ w, held w → scalar w) : Held scalar v := by
  induction h with
  | null => exact .null
  | scalar hv h => exact .scalar hv (hs _ h)
  | list _ ih => exact .list ih
  | map hd hn _ ih => exact .map hd (fun p hp => hs _ (hn p hp)) ih

/-- A document whose scalars satisfy two conditions. -/
theorem Held.and {v : Value} {held : Value → Prop} (h : Held held v) (hs : Held scalar v) :
    Held (fun w => held w ∧ scalar w) v := by
  induction h with
  | null => exact .null
  | scalar hv h =>
    cases hs with
    | null => exact .null
    | scalar _ hs => exact .scalar hv ⟨h, hs⟩
    | list _ => cases hv
    | map _ _ _ => cases hv
  | list _ ih =>
    cases hs with
    | scalar hv _ => cases hv
    | list hs => exact .list fun v hv => ih v hv (hs v hv)
  | @map pairs hd hn _ ih =>
    generalize hfields : Fields.named pairs = fields at hs
    cases hs with
    | scalar hv _ => cases hv
    | @map pairs' _ hn' hs =>
      obtain rfl : pairs = pairs' := Fields.named_injective hfields
      exact .map hd (fun p hp => ⟨hn p hp, hn' p hp⟩) fun p hp => ih p hp (hs p hp)

/-- A document is plain. -/
theorem Held.plain {v : Value} {held : Value → Prop} (h : Held held v)
    (hs : ∀ w, held w → scalar w) : Plain scalar v := by
  induction h with
  | null => exact .null
  | scalar hv h => exact .scalar hv (hs _ h)
  | list _ ih => exact .list ih
  | map hd hn _ ih => exact .map hd (fun p hp => hs _ (hn p hp)) ih

end Value

namespace Tree

variable {convert : Value → Value} {scalar : Value → Prop}

theorem itemValues_ofItems {items : List Value}
    (h : ∀ v ∈ items, (ofValue v).value convert = v.normalForm convert) :
    itemValues convert (ofItems items) = Value.normalItems convert items := by
  induction items with
  | nil => rfl
  | cons v rest ih =>
    rw [List.forall_mem_cons] at h
    rw [ofItems, itemValues, Value.normalItems, h.1, ih h.2]

theorem fieldValues_ofFields {pairs : List (Text × Value)}
    (h : ∀ p ∈ pairs, (ofValue p.2).value convert = p.2.normalForm convert) :
    fieldValues convert (ofFields (Fields.named pairs)) = Value.normalPairs convert pairs := by
  induction pairs with
  | nil => rfl
  | cons p rest ih =>
    obtain ⟨name, v⟩ := p
    rw [List.forall_mem_cons] at h
    rw [Fields.named_cons]
    by_cases hv : v = .null
    · subst hv
      rw [ofFields_null, Value.normalPairs_null, ih h.2]
    · rw [ofFields_text hv, fieldValues, Value.normalPairs_cons hv, h.1, ih h.2]

/-- **Writing a plain value writes its normal form.** -/
theorem value_ofValue {v : Value} (h : Value.Plain scalar v) :
    (ofValue v).value convert = v.normalForm convert := by
  induction h with
  | null => rfl
  | scalar hv _ => rw [ofValue_scalar hv, value, Value.normalForm_scalar hv]
  | list _ ih => rw [ofValue, value, Value.normalForm, itemValues_ofItems ih]
  | tuple _ ih => rw [ofValue, value, Value.normalForm, itemValues_ofItems ih]
  | @map pairs hd _ _ ih =>
    -- different names stay different, so that no field hides another
    have hnames : ((Value.normalPairs convert pairs).map (·.1)).Nodup :=
      (Value.names_normalPairs pairs).nodup hd
    rw [ofValue, value, Value.normalForm, fieldValues_ofFields ih, Value.normalFields_named,
      ← Fields.ofPairs_named, Fields.ofPairs_of_nodup hnames]

end Tree

/-- **A plain value that is written alone** is the document: its body is that of its normal form. -/
theorem BodyWriter.perform_plain (encoding : Encoding) {scalar : Value → Prop} {v : Value}
    (h : v.Plain scalar) :
    ∃ w, (BodyWriter.new encoding).perform (.value v) = (.ok (), w) ∧
      w.bytes = encoding.encode (v.normalForm encoding.convert) := by
  have hplace : Document.empty.place = .ok (none, Document.empty) := rfl
  have hrun : Document.run encoding.convert (Tree.ofValue v).calls Document.empty = .ok _ :=
    Document.run_calls (Tree.ofValue v) hplace rfl
  rw [Tree.value_ofValue h] at hrun
  refine ⟨.document encoding (Document.empty.attach none (v.normalForm encoding.convert)), ?_, rfl⟩
  rw [perform_value h.hasTextKeys, new, performAll_document, hrun]

end ServiceClient
