import ServiceClient.Proofs.NormalForm
import ServiceClient.Proofs.WrittenBodies

/-!
# What is written in one Ion form is read in both

A nested value is written in the text form of Ion or in the binary one. Either body tells its
form by its first bytes, so that the readers of both forms give the same document: the normal form
of the value.

* `Ion.Text.readText_writeText`: a document is read back from its text.
* `Ion.prefix_names`: the table of names only grows on the way through a document.
* `Ion.readBinary_writeBinary`: a document is read back from its bytes, under its own table.
* `Ion.Object.plain_ofValue`: no type of the reader is left in a document.
* `BodyWriter.ion_reads_back`: both readers give the normal form of what either writer was given.
-/

namespace ServiceClient

namespace Ion

/-- What is written and read as `v` is read as `v` however it was found. -/
theorem reads_of_exists {α : Type} {write : Value → Option α} {reads : α → Value → Prop}
    {v : Value} (h : ∃ x, write v = some x ∧ reads x v) :
    ∀ x, write v = some x → ∃ w, v = w ∧ reads x w := by
  intro x hx
  obtain ⟨y, hy, hread⟩ := h
  rw [hx, Option.some.injEq] at hy
  subst hy
  exact ⟨v, rfl, hread⟩

/-! ### Text -/

namespace Text

theorem exists_itemsText {items : List Value} (h : ∀ v ∈ items, ∃ cs, textOf v = some cs) :
    ∃ cs, itemsText items = some cs := by
  induction items with
  | nil => exact ⟨[], rfl⟩
  | cons v rest ih =>
    rw [List.forall_mem_cons] at h
    obtain ⟨head, hhead⟩ := h.1
    obtain ⟨tail, htail⟩ := ih h.2
    rw [itemsText, hhead, htail]
    exact ⟨_, rfl⟩

theorem exists_fieldsText {pairs : List (Text × Value)}
    (hn : ∀ p ∈ pairs, Value.IsBasicRead (.ofText p.1))
    (h : ∀ p ∈ pairs, ∃ cs, textOf p.2 = some cs) :
    ∃ cs, fieldsText (Fields.named pairs) = some cs := by
  induction pairs with
  | nil => exact ⟨[], rfl⟩
  | cons p rest ih =>
    rw [List.forall_mem_cons] at h hn
    obtain ⟨name, hname⟩ := Value.exists_string_of_isBasic hn.1.isBasic
    obtain ⟨head, hhead⟩ := h.1
    obtain ⟨tail, htail⟩ := ih hn.2 h.2
    rw [Fields.named_cons, hname, Value.ofText_ofString, fieldsText, hhead, htail]
    exact ⟨_, rfl⟩

/-- A scalar is read back from its text. -/
theorem readsAs_basic {v : Value} (h : v.IsBasicRead) :
    ∃ cs, textOf v = some cs ∧ ReadsAs cs v := by
  have hwords : ∀ p ∈ words, ReadsAs p.1.toList p.2 := fun p hp => readsAs_word hp
  simp only [words, List.forall_mem_cons] at hwords
  obtain ⟨-, htrue, hfalse, -⟩ := hwords
  cases v with
  | bool b =>
    refine ⟨_, by rw [textOf], ?_⟩
    cases b with
    | true => exact htrue
    | false => exact hfalse
  | int n => exact ⟨_, by rw [textOf], readsAs_int n⟩
  | text s => exact ⟨_, by rw [textOf], readsAs_text s⟩
  | bytes kind s =>
    cases kind with
    | fixed => exact ⟨_, rfl, readsAs_blob s⟩
    | array | view => exact False.elim h
  | _ => exact False.elim h

/-- **A document is read back from its text**, whatever follows that ends a value. -/
theorem readsAs_textOf {v : Value} (h : v.Held Value.IsBasicRead) :
    ∃ cs, textOf v = some cs ∧ ReadsAs cs v := by
  induction h with
  | null =>
    have hnull : ("null", Value.null) ∈ words := List.mem_cons_self
    exact ⟨_, by rw [textOf], readsAs_word hnull⟩
  | scalar _ h => exact readsAs_basic h
  | @list items _ ih =>
    obtain ⟨content, hcontent⟩ := exists_itemsText fun v hv => (ih v hv).imp fun _ h => h.1
    obtain ⟨read, hreads, hread⟩ := readsAs_list (fun v hv => reads_of_exists (ih v hv)) hcontent
    rw [List.forall₂_eq_eq_eq] at hreads
    subst hreads
    refine ⟨_, ?_, hread⟩
    rw [textOf, hcontent]
    rfl
  | @map pairs hd hn _ ih =>
    obtain ⟨content, hcontent⟩ := exists_fieldsText hn fun p hp => (ih p hp).imp fun _ h => h.1
    have hvalues : ∀ p ∈ Fields.named pairs, ∀ cs, textOf p.2 = some cs →
        ∃ w, p.2 = w ∧ ReadsAs cs w :=
      Fields.forall_mem_named.2 fun p hp => reads_of_exists (ih p hp)
    obtain ⟨read, hreads, hread⟩ := readsAs_map hvalues hcontent
    rw [Fields.eq_of_related hreads, Fields.ofPairs_of_nodup hd] at hread
    refine ⟨_, ?_, hread⟩
    rw [textOf, hcontent]
    rfl

/-- **A document is read back from its text**, which does not look like a binary document. -/
theorem readText_writeText {v : Value} (h : v.Held Value.IsBasicRead) :
    ∃ text, writeText v = some text ∧ (∃ tail, text.toList = '$' :: tail) ∧
      readText text = some [v] := by
  obtain ⟨body, hbody, hread⟩ := readsAs_textOf h
  obtain ⟨hdollar, values, hvalues, hone⟩ := readText_document hread
  refine ⟨versionWord ++ " " ++ String.ofList body, ?_, hdollar, ?_⟩
  · rw [writeText, hbody]
    rfl
  · rcases hone with rfl | ⟨rfl, -⟩
    · exact hvalues
    · -- a document is no symbol
      cases h with
      | scalar _ h => exact False.elim h

end Text

/-! ### The table of names -/

/-- A table has a number for a name: it is one of the system names or one of its own. -/
def Knows (table : List String) (name : String) : Prop := name ∈ systemNames ++ table

theorem numberOf?_of_knows {table : List String} {name : String} (h : Knows table name) :
    ∃ number, numberOf? table name = some number := by
  have hfound : ((systemNames ++ table).findIdx? (· == name)).isSome = true := by
    rw [List.findIdx?_isSome, List.any_eq_true]
    exact ⟨name, h, beq_self_eq_true name⟩
  obtain ⟨i, hi⟩ := Option.isSome_iff_exists.1 hfound
  exact ⟨i + 1, by rw [numberOf?, hi]; rfl⟩

theorem Knows.mono {seen table : List String} {name : String} (h : Knows seen name)
    (hgrows : seen <+: table) : Knows table name := by
  unfold Knows at h ⊢
  rw [List.mem_append] at h ⊢
  exact h.imp_right fun hmem => hgrows.subset hmem

theorem prefix_addName (seen : List String) (name : String) : seen <+: addName seen name := by
  unfold addName
  split
  · exact List.prefix_rfl
  · exact List.prefix_append _ _

theorem knows_addName (seen : List String) (name : String) : Knows (addName seen name) name := by
  unfold addName
  split
  · rename_i hsome
    obtain ⟨number, hnumber⟩ := Option.isSome_iff_exists.1 hsome
    obtain ⟨i, hi, -⟩ := Option.map_eq_some_iff.1 hnumber
    obtain ⟨hlt, hname, -⟩ := List.findIdx?_eq_some_iff_getElem.1 hi
    unfold Knows
    rw [← eq_of_beq hname]
    exact List.getElem_mem hlt
  · unfold Knows
    simp

theorem prefix_namesOfItems {items : List Value} (h : ∀ v ∈ items, ∀ seen, seen <+: names seen v)
    (seen : List String) : seen <+: namesOfItems seen items := by
  induction items generalizing seen with
  | nil => exact List.prefix_rfl
  | cons v rest ih =>
    rw [List.forall_mem_cons] at h
    rw [namesOfItems]
    exact (h.1 seen).trans (ih h.2 _)

theorem prefix_namesOfFields {fields : Fields}
    (h : ∀ p ∈ fields, ∀ seen, seen <+: names seen p.2) (seen : List String) :
    seen <+: namesOfFields seen fields := by
  induction fields generalizing seen with
  | nil => exact List.prefix_rfl
  | cons p rest ih =>
    obtain ⟨k, v⟩ := p
    rw [List.forall_mem_cons] at h
    have hvalue := fun seen => (h.1 seen).trans (ih h.2 _)
    cases k with
    | text name => exact (prefix_addName seen name).trans (hvalue _)
    | _ => exact hvalue seen

/-- **The table only grows**: the names in front of a document stay in front. -/
theorem prefix_names {v : Value} (h : v.Held Value.IsBasicRead) :
    ∀ seen, seen <+: names seen v := by
  induction h with
  | null => exact fun _ => List.prefix_rfl
  | @scalar v _ h =>
    cases v with
    | bool _ | int _ | text _ | bytes _ _ => exact fun _ => List.prefix_rfl
    | _ => exact False.elim h
  | list _ ih =>
    intro seen
    rw [names]
    exact prefix_namesOfItems ih seen
  | map _ _ _ ih =>
    intro seen
    rw [names]
    exact prefix_namesOfFields (Fields.forall_mem_named.2 ih) seen

/-! ### Bytes -/

/-- A table goes on behind the names that a document adds to those in front of it. -/
def Covers (table : List String) (v : Value) : Prop := ∃ seen, names seen v <+: table

theorem covers_items {table : List String} {items : List Value}
    (h : ∀ v ∈ items, v.Held Value.IsBasicRead) {seen : List String}
    (hcovers : namesOfItems seen items <+: table) :
    ∀ v ∈ items, Covers table v := by
  induction items generalizing seen with
  | nil => exact List.forall_mem_nil _
  | cons v rest ih =>
    rw [List.forall_mem_cons] at h ⊢
    rw [namesOfItems] at hcovers
    have hothers := prefix_namesOfItems (fun w hw => prefix_names (h.2 w hw)) (names seen v)
    exact ⟨⟨seen, hothers.trans hcovers⟩, ih h.2 hcovers⟩

theorem covers_fields {table : List String} {pairs : List (Text × Value)}
    (hn : ∀ p ∈ pairs, Value.IsBasicRead (.ofText p.1))
    (h : ∀ p ∈ pairs, p.2.Held Value.IsBasicRead) {seen : List String}
    (hcovers : namesOfFields seen (Fields.named pairs) <+: table) :
    ∀ p ∈ pairs, (∃ name : String, p.1 = name ∧ Knows table name) ∧ Covers table p.2 := by
  induction pairs generalizing seen with
  | nil => exact List.forall_mem_nil _
  | cons p rest ih =>
    rw [List.forall_mem_cons] at h hn ⊢
    obtain ⟨name, hp⟩ := Value.exists_string_of_isBasic hn.1.isBasic
    rw [Fields.named_cons, hp, Value.ofText_ofString, namesOfFields] at hcovers
    -- the name comes into the table before the names of the value and of the other fields
    have hvalue := prefix_names h.1 (addName seen name)
    have hrest : ∀ q ∈ Fields.named rest, ∀ seen, seen <+: names seen q.2 :=
      Fields.forall_mem_named.2 fun q hq => prefix_names (h.2 q hq)
    have hothers := (prefix_namesOfFields hrest (names (addName seen name) p.2)).trans hcovers
    have hname := (knows_addName seen name).mono (hvalue.trans hothers)
    exact ⟨⟨⟨name, hp, hname⟩, _, hothers⟩, ih hn.2 h.2 hcovers⟩

theorem exists_binaryItems {table : List String} {items : List Value}
    (h : ∀ v ∈ items, ∃ bytes, binaryOf table v = some bytes) :
    ∃ bytes, binaryItems table items = some bytes := by
  induction items with
  | nil => exact ⟨[], rfl⟩
  | cons v rest ih =>
    rw [List.forall_mem_cons] at h
    obtain ⟨head, hhead⟩ := h.1
    obtain ⟨tail, htail⟩ := ih h.2
    rw [binaryItems, hhead, htail]
    exact ⟨_, rfl⟩

theorem exists_binaryFields {table : List String} {pairs : List (Text × Value)}
    (h : ∀ p ∈ pairs, (∃ name : String, p.1 = name ∧ Knows table name) ∧
      ∃ bytes, binaryOf table p.2 = some bytes) :
    ∃ bytes, binaryFields table (Fields.named pairs) = some bytes := by
  induction pairs with
  | nil => exact ⟨[], rfl⟩
  | cons p rest ih =>
    rw [List.forall_mem_cons] at h
    obtain ⟨⟨name, hp, hname⟩, head, hhead⟩ := h.1
    obtain ⟨number, hnumber⟩ := numberOf?_of_knows hname
    obtain ⟨tail, htail⟩ := ih h.2
    rw [Fields.named_cons, hp, Value.ofText_ofString, binaryFields, hnumber, hhead, htail]
    exact ⟨_, rfl⟩

/-- A scalar is read back from its bytes. -/
theorem readsAs_basic {table : List String} {v : Value} (h : v.IsBasicRead) :
    ∃ bytes, binaryOf table v = some bytes ∧ ReadsAs table bytes v := by
  cases v with
  | bool b => exact ⟨_, by rw [binaryOf], readsAs_bool b⟩
  | int n => exact ⟨_, by rw [binaryOf], readsAs_int n⟩
  | text s => exact ⟨_, by rw [binaryOf], readsAs_text s⟩
  | bytes kind s =>
    cases kind with
    | fixed => exact ⟨_, rfl, readsAs_blob s⟩
    | array | view => exact False.elim h
  | _ => exact False.elim h

/-- **A document is read back from its bytes** under every table that covers it. -/
theorem readsAs_binaryOf {table : List String} {v : Value} (h : v.Held Value.IsBasicRead) :
    Covers table v → ∃ bytes, binaryOf table v = some bytes ∧ ReadsAs table bytes v := by
  induction h with
  | null => exact fun _ => ⟨_, by rw [binaryOf], readsAs_null⟩
  | scalar _ h => exact fun _ => readsAs_basic h
  | @list items hitems ih =>
    rintro ⟨seen, hcovers⟩
    rw [names] at hcovers
    have hcovered := covers_items hitems hcovers
    have hwritten := fun v hv => ih v hv (hcovered v hv)
    obtain ⟨content, hcontent⟩ := exists_binaryItems fun v hv => (hwritten v hv).imp fun _ h => h.1
    obtain ⟨read, hreads, hread⟩ :=
      readsAs_list (fun v hv => reads_of_exists (hwritten v hv)) hcontent
    rw [List.forall₂_eq_eq_eq] at hreads
    subst hreads
    refine ⟨_, ?_, hread⟩
    rw [binaryOf, hcontent]
    rfl
  | @map pairs hd hn hpairs ih =>
    rintro ⟨seen, hcovers⟩
    rw [names] at hcovers
    have hcovered := covers_fields hn hpairs hcovers
    have hwritten := fun p hp => ih p hp (hcovered p hp).2
    obtain ⟨content, hcontent⟩ := exists_binaryFields fun p hp =>
      ⟨(hcovered p hp).1, (hwritten p hp).imp fun _ h => h.1⟩
    have hvalues : ∀ p ∈ Fields.named pairs, ∀ bytes, binaryOf table p.2 = some bytes →
        ∃ w, p.2 = w ∧ ReadsAs table bytes w :=
      Fields.forall_mem_named.2 fun p hp => reads_of_exists (hwritten p hp)
    obtain ⟨read, hreads, hread⟩ := readsAs_map hvalues hcontent
    rw [Fields.eq_of_related hreads, Fields.ofPairs_of_nodup hd] at hread
    refine ⟨_, ?_, hread⟩
    rw [binaryOf, hcontent]
    rfl

/-- **A document is read back from its bytes**, which start with the version marker. -/
theorem readBinary_writeBinary {v : Value} (h : v.Held Value.IsBasicRead) :
    ∃ bytes, writeBinary v = some bytes ∧ versionMarker.isPrefixOf bytes = true ∧
      readBinary bytes = some [v] := by
  have hcovers : Covers (names [] v) v := ⟨[], List.prefix_rfl⟩
  obtain ⟨body, hbody, hread⟩ := readsAs_binaryOf h hcovers
  have hmarker : versionMarker.isPrefixOf
      (versionMarker ++ tableElement (names [] v) ++ body) = true := by
    rw [List.isPrefixOf_iff_prefix, List.append_assoc]
    exact List.prefix_append _ _
  refine ⟨versionMarker ++ tableElement (names [] v) ++ body, ?_, hmarker,
    readBinary_document hread⟩
  exact Option.bind_eq_some_iff.2 ⟨body, hbody, rfl⟩

/-! ### Objects of the reader -/

namespace Object

theorem plainItems_ofItems {items : List Value} (h : ∀ v ∈ items, (ofValue v).plain = v) :
    plainItems (ofItems items) = items := by
  induction items with
  | nil => rfl
  | cons v rest ih =>
    rw [List.forall_mem_cons] at h
    rw [ofItems, plainItems, h.1, ih h.2]

theorem plainFields_ofFields {fields : Fields} (h : ∀ p ∈ fields, (ofValue p.2).plain = p.2) :
    plainFields (ofFields fields) = fields := by
  induction fields with
  | nil => rfl
  | cons p rest ih =>
    rw [List.forall_mem_cons] at h
    rw [ofFields, plainFields, h.1, ih h.2]

/-- **A document is plain** once the types of the reader are gone. -/
theorem plain_ofValue {v : Value} {scalar : Value → Prop} (h : v.Held scalar) :
    (ofValue v).plain = v := by
  induction h with
  | null => rfl
  | @scalar v hv _ => cases v <;> first | rfl | exact Bool.noConfusion hv
  | list _ ih => rw [ofValue, plain, plainItems_ofItems ih]
  | map hd _ _ ih =>
    rw [ofValue, plain, plainFields_ofFields (Fields.forall_mem_named.2 ih),
      Fields.ofPairs_of_nodup hd]

end Object

end Ion

namespace Encoding

/-- The encoding of Ion in one form. -/
def ion (binary : Bool) : Encoding := if binary then ionBinary else ionText

/-- **A document of Ion is read back from its body**, by the readers of both forms. -/
theorem parse_encode_ion {v : Value} (h : v.Held Value.IsBasicRead) (binary : Bool) :
    ∃ body, (ion binary).encode v = .ok body ∧ ∀ other, (ion other).parse body = .ok v := by
  -- both readers look for the version marker first
  have hparse : ∀ body, readIon body = .ok v → ∀ other, (ion other).parse body = .ok v := by
    intro body hread other
    have hplain : parseIon body = .ok v := by
      rw [parseIon, hread]
      exact congrArg Except.ok (Ion.Object.plain_ofValue h)
    cases other with
    | true => exact hplain
    | false => exact hplain
  cases binary with
  | true =>
    obtain ⟨body, hbody, hmarker, hread⟩ := Ion.readBinary_writeBinary h
    refine ⟨body, codecResult_eq_ok.2 hbody, hparse body ?_⟩
    unfold readIon
    rw [if_pos hmarker, hread]
    rfl
  | false =>
    obtain ⟨text, htext, hdollar, hread⟩ := Ion.Text.readText_writeText h
    have hmarker := not_marker_encode hdollar
    have hbody : ionText.encode v = .ok (Utf8.encode text) := by
      rw [encode, htext]
      rfl
    refine ⟨Utf8.encode text, hbody, hparse _ ?_⟩
    unfold readIon
    rw [hmarker, if_neg (by decide), Utf8.decode_encode]
    exact bind_eq_ok.2 ⟨[v], codecResult_eq_ok.2 hread, rfl⟩

end Encoding

namespace BodyWriter

/-- A writer that is given one value has the body of its normal form. -/
theorem bytes_of_value {v : Value} {scalar : Value → Prop} (h : Value.Plain scalar v)
    (encoding : Encoding) :
    ∃ w, (new encoding).perform (.value v) = (.ok (), w) ∧
      w.bytes = encoding.encode (v.normalForm encoding.convert) := by
  have hplace : Document.empty.place = .ok (none, Document.empty) := rfl
  have hrun : Document.run encoding.convert (Tree.ofValue v).calls Document.empty = .ok _ :=
    Document.run_calls _ hplace rfl
  rw [Tree.value_ofValue h] at hrun
  refine ⟨.document encoding
    (Document.empty.attach none (v.normalForm encoding.convert)), ?_, rfl⟩
  rw [perform_value h.hasTextKeys, new, performAll_document, hrun]

/-- **What is written in one Ion form is read in both.** A writer of either form accepts a value
nested to any depth, and the readers of both forms give one document for its body: the normal form
of the value, without null fields, with tuples as lists and byte strings of one kind, and with
nothing of the reader's own types. -/
theorem ion_reads_back {v : Value} (h : Value.Plain Value.IsBasic v) (binary : Bool) :
    ∃ w body, (new (.ion binary)).perform (.value v) = (.ok (), w) ∧ w.bytes = .ok body ∧
      ∀ other, (Encoding.ion other).parse body =
        .ok (v.normalForm Encoding.ionText.convert) := by
  obtain ⟨w, hperform, hbytes⟩ := bytes_of_value h (.ion binary)
  have hheld := @Value.Plain.heldBasic Encoding.ionText.convert v h (fun _ => rfl) (fun _ => rfl)
    (fun _ => rfl) fun _ _ => rfl
  obtain ⟨body, hbody, hparse⟩ := Encoding.parse_encode_ion hheld binary
  -- both forms hold scalars alike
  have hconvert : (Encoding.ion binary).convert = Encoding.ionText.convert := by
    funext v
    cases binary <;> cases v <;> rfl
  rw [hconvert, hbody] at hbytes
  exact ⟨w, body, hperform, hbytes, hparse⟩

/-- A map with a null field, bytes of two kinds and names that need quote marks. -/
theorem ion_reads_back_nested :
    ∃ w body, (new (.ion true)).perform (.value (.map [(.text "a", .null),
        (.text "null", .tuple [.null, .int (-5), .bytes .array [1, 255]]),
        (.text "x y", .map [(.text "name", .bytes .view [2])])])) = (.ok (), w) ∧
      w.bytes = .ok body ∧
      ∀ other, (Encoding.ion other).parse body =
        .ok (.map [(.text "null", .list [.null, .int (-5), .blob [1, 255]]),
          (.text "x y", .map [(.text "name", .blob [2])])]) := by
  have hitems : Value.Plain Value.IsBasic (.tuple [.null, .int (-5), .bytes .array [1, 255]]) := by
    apply Value.Plain.tuple
    intro v hv
    simp only [List.mem_cons, List.not_mem_nil, or_false] at hv
    rcases hv with rfl | rfl | rfl
    · exact .null
    · exact .scalar rfl trivial
    · exact .scalar rfl trivial
  have hinner : Value.Plain Value.IsBasic (.map (Fields.named [("name", .bytes .view [2])])) := by
    refine .map (by decide) (by simp [Value.IsBasic]) fun p hp => ?_
    rw [List.mem_singleton.1 hp]
    exact .scalar rfl trivial
  have houter : Value.Plain Value.IsBasic (.map (Fields.named [("a", .null),
      ("null", .tuple [.null, .int (-5), .bytes .array [1, 255]]),
      ("x y", .map (Fields.named [("name", .bytes .view [2])]))])) := by
    refine .map (by decide) (by simp [Value.IsBasic]) fun p hp => ?_
    simp only [List.mem_cons, List.not_mem_nil, or_false] at hp
    rcases hp with rfl | rfl | rfl
    · exact .null
    · exact hitems
    · exact hinner
  exact ion_reads_back houter true

end BodyWriter

end ServiceClient
