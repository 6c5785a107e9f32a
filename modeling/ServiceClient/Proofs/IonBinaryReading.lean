import ServiceClient.Proofs.Fields
import ServiceClient.Proofs.GivenValues
import ServiceClient.Proofs.IonNumbers

/-!
# Binary Ion that is written is read

A binary document is a version marker, a table of the field names in use and one value. The
reader takes the table from the document and finds each field name in it by its number.

* `nameOf?_numberOf?`: the number of a name in a table stands for that name.
* `readsAs_list`, `readsAs_map`: containers are read if their content is.
* `readItem_tableElement`: the table is read under the annotation of symbol tables.
* `readBinary_document`: a document is read as one value, which its bytes are read as.
* `readsAs_written`: the bytes of any value that a caller gives are read.
-/

namespace ServiceClient.Ion

/-- Bytes that are read as a value under a table of names, whatever follows. They start with no
version marker and no annotation. -/
structure ReadsAs (table : List String) (bytes : Bytes) (v : Value) : Prop where
  starts : ∃ first tail, bytes = first :: tail ∧ first.toNat / 16 ≠ 14
  reads : ∀ fuel rest, 2 * bytes.length ≤ fuel + 1 →
    readItem table fuel (bytes ++ rest) = some (.value [] v, rest)

theorem ReadsAs.length_pos {table : List String} {bytes : Bytes} {v : Value}
    (h : ReadsAs table bytes v) : 0 < bytes.length := by
  obtain ⟨first, tail, rfl, -⟩ := h.starts
  exact Nat.succ_pos _

/-- The steps for bytes behind a type code: one, and those for the content. -/
theorem exists_fuel_element {code : Nat} {content : Bytes} {fuel : Nat}
    (h : 2 * (element code content).length ≤ fuel + 1) :
    ∃ k, fuel = k + 1 ∧ 2 * content.length ≤ k := by
  unfold element at h
  split at h
  · rw [List.length_cons] at h
    exact ⟨fuel - 1, by omega, by omega⟩
  · rw [List.length_append, List.length_cons] at h
    exact ⟨fuel - 1, by omega, by omega⟩

section Items

variable {table : List String} {content bytes : Bytes} {code : Nat} (fuel : Nat) (rest : Bytes)

theorem readItem_scalar (h : Announces code content bytes) (hcode : 2 ≤ code ∧ code ≤ 10)
    {v : Value} (hv : readScalar table code content = some v) :
    readItem table (fuel + 1) (bytes ++ rest) = some (.value [] v, rest) := by
  obtain ⟨first, tail, rfl, hfirst, hread⟩ := h
  rw [List.cons_append, readItem]
  simp [hfirst, hread, hv, show code ≠ 1 by omega, show code ≠ 0 by omega,
    show ¬ (code = 11 ∨ code = 12) by omega, show code ≠ 13 by omega, show code ≠ 14 by omega]

theorem readItem_list (h : Announces 11 content bytes) {items : List Value}
    (hitems : readElements table fuel content = some items) :
    readItem table (fuel + 1) (bytes ++ rest) = some (.value [] (.list items), rest) := by
  obtain ⟨first, tail, rfl, hfirst, hread⟩ := h
  rw [List.cons_append, readItem]
  simp [hfirst, hread, hitems]

theorem readItem_struct (h : Announces 13 content bytes) {fields : Fields}
    (hfields : readFields table fuel content = some fields) :
    readItem table (fuel + 1) (bytes ++ rest) =
      some (.value [] (.map (Fields.ofPairs fields)), rest) := by
  obtain ⟨first, tail, rfl, hfirst, hread⟩ := h
  rw [List.cons_append, readItem]
  simp [hfirst, hread, hfields]

end Items

/-! ### Scalars -/

section Scalars

variable {table : List String}

theorem readsAs_scalar {code : Nat} {content : Bytes} (hcode : 2 ≤ code ∧ code ≤ 10) {v : Value}
    (hv : readScalar table code content = some v) : ReadsAs table (element code content) v := by
  have ha := @announces_element code content (by omega)
    (fun h => absurd h (by omega))
  refine ⟨?_, fun fuel rest hfuel => ?_⟩
  · obtain ⟨first, tail, hbytes, hfirst, -⟩ := ha
    exact ⟨first, tail, hbytes, by omega⟩
  · obtain ⟨k, rfl, -⟩ := exists_fuel_element hfuel
    exact readItem_scalar k rest ha hcode hv

theorem readsAs_null : ReadsAs table [0x0f] .null := by
  refine ⟨⟨_, _, rfl, by decide⟩, fun fuel rest hfuel => ?_⟩
  obtain ⟨k, rfl⟩ : ∃ k, fuel = k + 1 := ⟨fuel - 1, by simp at hfuel; omega⟩
  rfl

theorem readsAs_bool (b : Bool) : ReadsAs table [if b then 0x11 else 0x10] (.bool b) := by
  refine ⟨⟨_, _, rfl, by cases b <;> decide⟩, fun fuel rest hfuel => ?_⟩
  obtain ⟨k, rfl⟩ : ∃ k, fuel = k + 1 := ⟨fuel - 1, by simp at hfuel; omega⟩
  cases b <;> rfl

/-- **An integer is read back**: its sign is in its type code. -/
theorem readsAs_int (n : Int) : ReadsAs table (intElement n) (.int n) := by
  have hvalue := ofBigEndian_minimalBytes n.natAbs
  unfold intElement
  by_cases hsign : n < 0
  · rw [if_pos hsign]
    apply readsAs_scalar (by decide)
    have hpos : n.natAbs ≠ 0 := by omega
    have hback : -(n.natAbs : Int) = n := by omega
    simp only [readScalar, hvalue, hpos, hback, if_false]
  · rw [if_neg hsign]
    apply readsAs_scalar (by decide)
    have hback : (n.natAbs : Int) = n := by omega
    simp only [readScalar, hvalue, hback]

theorem readsAs_text (s : String) : ReadsAs table (element 8 (Utf8.encode s)) (.text s) := by
  apply readsAs_scalar (by decide)
  simp [readScalar, utf8Text?, Utf8.decode_encode]

theorem readsAs_blob (s : Bytes) : ReadsAs table (element 10 s) (.blob s) :=
  readsAs_scalar (by decide) rfl

/-- **A double is read**, whether it is written in eight bytes or in none. -/
theorem readsAs_double (d : Double) : ∃ v, ReadsAs table (doubleElement d) v := by
  unfold doubleElement
  split
  · exact ⟨_, readsAs_scalar (by decide) rfl⟩
  · refine ⟨.double ⟨UInt64.ofNat (ofBigEndian (bigEndian 8 d.bits.toNat))⟩, ?_⟩
    apply readsAs_scalar (by decide)
    simp [readScalar, length_bigEndian]

theorem readsAs_decimal {d : Decimal} {bytes : Bytes} (hw : decimalElement? d = some bytes) :
    ReadsAs table bytes (.decimal d) := by
  cases d with
  | finite negative c e =>
    obtain rfl := Option.some.inj hw
    apply readsAs_scalar (by decide)
    have hread := readDecimal_decimal negative c e
    unfold readScalar
    rw [hread]
    rfl
  | infinity negative => cases hw
  | nan => cases hw

theorem readsAs_timestamp {t : Timestamp} (h : t.minuteOffset.toUtc.inRange = true) :
    ReadsAs table (timestampElement t) (.timestamp t.minuteOffset) := by
  rw [timestampElement_eq]
  apply readsAs_scalar (by decide)
  unfold readScalar
  rw [readTimestamp_timestamp h]
  rfl

end Scalars

/-! ### Names -/

/-- **The number of a name** in a table stands for that name. -/
theorem nameOf?_numberOf? {table : List String} {name : String} {n : Nat}
    (h : numberOf? table name = some n) : nameOf? table n = some name := by
  unfold numberOf? at h
  obtain ⟨i, hi, rfl⟩ := Option.map_eq_some_iff.1 h
  rw [List.findIdx?_eq_some_iff_getElem] at hi
  obtain ⟨hlt, hname, -⟩ := hi
  have hget : (systemNames ++ table)[i]? = some name := by
    rw [List.getElem?_eq_getElem hlt, eq_of_beq hname]
  unfold nameOf?
  rw [if_neg (by omega), Nat.add_sub_cancel]
  exact hget

/-- A symbol is read back by its number. -/
theorem readsAs_symbol {table : List String} {name : String} {n : Nat}
    (h : numberOf? table name = some n) :
    ReadsAs table (element 7 (minimalBytes n)) (.symbol name) := by
  have hvalue := ofBigEndian_minimalBytes n
  have hname := nameOf?_numberOf? h
  apply readsAs_scalar (by decide)
  unfold readScalar
  simp only [hvalue, hname]
  rfl

/-! ### Containers -/

section Containers

variable {table : List String} {R : Value → Value → Prop}

/-- The items of a list are read one by one, each as what its bytes are read as. -/
theorem readElements_written {items : List Value}
    (h : ∀ v ∈ items, ∀ bytes, binaryOf table v = some bytes → ∃ w, R v w ∧ ReadsAs table bytes w)
    {bytes : Bytes} (hw : binaryItems table items = some bytes) :
    ∃ read, List.Forall₂ R items read ∧ ∀ fuel, 2 * bytes.length ≤ fuel →
      readElements table fuel bytes = some read := by
  induction items generalizing bytes with
  | nil =>
    rw [binaryItems] at hw
    cases hw
    refine ⟨[], .nil, fun fuel _ => ?_⟩
    rw [readElements]
  | cons v items ih =>
    rw [List.forall_mem_cons] at h
    rw [binaryItems] at hw
    obtain ⟨first, hfirst, hw⟩ := Option.bind_eq_some_iff.1 hw
    obtain ⟨others, hothers, hw⟩ := Option.bind_eq_some_iff.1 hw
    cases hw
    obtain ⟨w, hrel, hv⟩ := h.1 first hfirst
    obtain ⟨read, hreads, hrest⟩ := ih h.2 hothers
    have hpos := hv.length_pos
    refine ⟨w :: read, .cons hrel hreads, fun fuel hfuel => ?_⟩
    rw [List.length_append] at hfuel
    obtain ⟨k, rfl⟩ : ∃ k, fuel = k + 1 := ⟨fuel - 1, by omega⟩
    have hitem := hv.reads k others (by omega)
    obtain ⟨b, tail, rfl, -⟩ := hv.starts
    rw [List.cons_append] at hitem ⊢
    rw [readElements, hitem]
    · show (readElements table k others >>= _) = _
      rw [hrest k (by omega)]
      rfl
    · exact List.cons_ne_nil _ _

/-- The fields of a struct are read one by one, each name by its number. -/
theorem readFields_written {fields : Fields}
    (h : ∀ p ∈ fields, ∀ bytes, binaryOf table p.2 = some bytes →
      ∃ w, R p.2 w ∧ ReadsAs table bytes w)
    {bytes : Bytes} (hw : binaryFields table fields = some bytes) :
    (fields = [] ∨ 1 < bytes.length) ∧
      ∃ read, List.Forall₂ (Fields.Related R) fields read ∧ ∀ fuel, 2 * bytes.length ≤ fuel →
        readFields table fuel bytes = some read := by
  induction fields generalizing bytes with
  | nil =>
    rw [binaryFields] at hw
    cases hw
    refine ⟨.inl rfl, [], .nil, fun fuel _ => ?_⟩
    rw [readFields]
  | cons p fields ih =>
    obtain ⟨k, v⟩ := p
    rw [List.forall_mem_cons] at h
    cases k with
    | text name =>
      rw [binaryFields] at hw
      obtain ⟨number, hnumber, hw⟩ := Option.bind_eq_some_iff.1 hw
      obtain ⟨first, hfirst, hw⟩ := Option.bind_eq_some_iff.1 hw
      obtain ⟨others, hothers, hw⟩ := Option.bind_eq_some_iff.1 hw
      cases hw
      obtain ⟨w, hrel, hv⟩ := h.1 first hfirst
      obtain ⟨-, read, hreads, hrest⟩ := ih h.2 hothers
      have hpos := hv.length_pos
      have hname := nameOf?_numberOf? hnumber
      have hnumberPos := List.length_pos_iff.2 (varUInt_ne_nil number)
      refine ⟨.inr (by simp only [List.length_append]; omega), (.text name, w) :: read,
        .cons ⟨rfl, hrel⟩ hreads, fun fuel hfuel => ?_⟩
      rw [List.length_append, List.length_append] at hfuel
      obtain ⟨n, rfl⟩ : ∃ n, fuel = n + 1 := ⟨fuel - 1, by omega⟩
      have hread := readVarUInt_varUInt number (first ++ others)
      rw [List.append_assoc]
      obtain ⟨b, tail, hb⟩ := List.exists_cons_of_ne_nil (varUInt_ne_nil number)
      rw [hb, List.cons_append] at hread ⊢
      rw [readFields, hread]
      · show (readItem table n (first ++ others) >>= _) = _
        rw [hv.reads n others (by omega)]
        show (readFields table n others >>= _) = _
        rw [hrest n (by omega)]
        show (nameOf? table number >>= _) = _
        rw [hname]
        rfl
      · exact List.cons_ne_nil _ _
    | _ => cases hw

/-- A list is read if its items are. -/
theorem readsAs_list {items : List Value}
    (h : ∀ v ∈ items, ∀ bytes, binaryOf table v = some bytes → ∃ w, R v w ∧ ReadsAs table bytes w)
    {content : Bytes} (hw : binaryItems table items = some content) :
    ∃ read, List.Forall₂ R items read ∧ ReadsAs table (element 11 content) (.list read) := by
  have ha := @announces_element 11 content (by decide)
    (fun h => absurd h (by decide))
  obtain ⟨read, hreads, hread⟩ := readElements_written h hw
  refine ⟨read, hreads, ?_, fun fuel rest hfuel => ?_⟩
  · obtain ⟨first, tail, hbytes, hfirst, -⟩ := ha
    exact ⟨first, tail, hbytes, by omega⟩
  · obtain ⟨k, rfl, hk⟩ := exists_fuel_element hfuel
    exact readItem_list k rest ha (hread k hk)

/-- A map is read if its values are. -/
theorem readsAs_map {fields : Fields}
    (h : ∀ p ∈ fields, ∀ bytes, binaryOf table p.2 = some bytes →
      ∃ w, R p.2 w ∧ ReadsAs table bytes w)
    {content : Bytes} (hw : binaryFields table fields = some content) :
    ∃ read, List.Forall₂ (Fields.Related R) fields read ∧
      ReadsAs table (element 13 content) (.map (Fields.ofPairs read)) := by
  obtain ⟨hlength, read, hreads, hread⟩ := readFields_written h hw
  have hcontent : content.length ≠ 1 := by
    obtain rfl | hlong := hlength
    · rw [binaryFields] at hw
      cases hw
      decide
    · omega
  have ha := @announces_element 13 content (by decide) (fun _ => hcontent)
  refine ⟨read, hreads, ?_, fun fuel rest hfuel => ?_⟩
  · obtain ⟨first, tail, hbytes, hfirst, -⟩ := ha
    exact ⟨first, tail, hbytes, by omega⟩
  · obtain ⟨k, rfl, hk⟩ := exists_fuel_element hfuel
    exact readItem_struct k rest ha (hread k hk)

end Containers

/-! ### The table of names -/

/-- The content of a list of texts. -/
theorem binaryItems_texts (table names : List String) :
    binaryItems table (names.map .text) =
      some (names.flatMap fun name => element 8 (Utf8.encode name)) := by
  induction names with
  | nil => rfl
  | cons name names ih =>
    rw [List.map_cons, binaryItems, binaryOf, ih]
    rfl

/-- The names of a table are read as a list of texts. -/
theorem readsAs_names (table names : List String) :
    ReadsAs table (element 11 (names.flatMap fun name => element 8 (Utf8.encode name)))
      (.list (names.map .text)) := by
  have htexts : ∀ v ∈ names.map Value.text, ∀ bytes, binaryOf table v = some bytes →
      ∃ w, v = w ∧ ReadsAs table bytes w := by
    intro v hv bytes hw
    obtain ⟨name, -, rfl⟩ := List.mem_map.1 hv
    rw [binaryOf] at hw
    cases hw
    exact ⟨_, rfl, readsAs_text name⟩
  obtain ⟨read, hreads, hread⟩ := readsAs_list htexts (binaryItems_texts table names)
  rw [List.forall₂_eq_eq_eq] at hreads
  rw [hreads]
  exact hread

/-- What a table of names is read as. -/
def tableValue (table : List String) : Value :=
  .map [(.text "symbols", .list (table.map .text))]

/-- The struct that holds the names. -/
theorem readsAs_tableStruct (table : List String) :
    ReadsAs [] (element 13 (varUInt 7 ++
      element 11 (table.flatMap fun name => element 8 (Utf8.encode name)))) (tableValue table) := by
  have hnames := readsAs_names [] table
  have hpos := hnames.length_pos
  have hlength : (varUInt 7 ++ element 11 (table.flatMap fun name =>
      element 8 (Utf8.encode name))).length ≠ 1 := by
    have hseven := List.length_pos_iff.2 (varUInt_ne_nil 7)
    rw [List.length_append]
    omega
  have ha := announces_element (show 13 < 16 by decide) (fun _ => hlength)
  refine ⟨?_, fun fuel rest hfuel => ?_⟩
  · obtain ⟨first, tail, hbytes, hfirst, -⟩ := ha
    exact ⟨first, tail, hbytes, by omega⟩
  · obtain ⟨k, rfl, hk⟩ := exists_fuel_element hfuel
    have hseven : varUInt 7 = [0x87] := by decide
    rw [hseven, List.length_append, List.length_singleton] at hk
    obtain ⟨n, rfl⟩ : ∃ n, k = n + 1 := ⟨k - 1, by omega⟩
    obtain ⟨m, rfl⟩ : ∃ m, n = m + 1 := ⟨n - 1, by omega⟩
    have hitem := hnames.reads (m + 1) [] (by omega)
    rw [List.append_nil] at hitem
    -- the one field is named by the seventh of the system names
    have hfields : readFields [] (m + 2) (varUInt 7 ++ element 11 (table.flatMap fun name =>
        element 8 (Utf8.encode name))) = some [(.text "symbols", .list (table.map .text))] := by
      have hnumber := readVarUInt_varUInt 7
        (element 11 (table.flatMap fun name => element 8 (Utf8.encode name)))
      have hname : nameOf? [] 7 = some "symbols" := by decide
      have hend : readFields [] (m + 1) [] = some [] := by rw [readFields]
      rw [hseven, List.singleton_append] at hnumber ⊢
      rw [readFields, hnumber]
      · simp [hitem, hend, hname]
      · exact List.cons_ne_nil _ _
    exact readItem_struct (m + 2) rest ha hfields

/-- **The table of a document** is read under the annotation of symbol tables. -/
theorem readItem_tableElement {table : List String} (hne : table ≠ []) {fuel : Nat} (rest : Bytes)
    (hfuel : 2 * (tableElement table).length ≤ fuel + 1) :
    readItem [] fuel (tableElement table ++ rest) =
      some (.value [3] (tableValue table), rest) := by
  have hsome : table.isEmpty = false := by simp [hne]
  have hstruct := readsAs_tableStruct table
  unfold tableElement at hfuel ⊢
  simp only [hsome, Bool.false_eq_true, if_false] at hfuel ⊢
  generalize element 13 (varUInt 7 ++ element 11 (table.flatMap fun name =>
    element 8 (Utf8.encode name))) = struct at *
  have ha := @announces_element 14 (varUInt 1 ++ varUInt 3 ++ struct) (by decide)
    (fun h => absurd h (by decide))
  obtain ⟨k, rfl, hk⟩ := exists_fuel_element hfuel
  obtain ⟨first, tail, hbytes, hfirst, hread⟩ := ha
  have hone := readVarUInt_varUInt 1 (varUInt 3 ++ struct)
  have hthree : varUInt 3 = [0x83] := by decide
  have htake := takeBytes?_append (varUInt 3) struct
  have hnumbers : readNumbers (varUInt 3).length (varUInt 3) = some [3] := by decide
  have hitem := hstruct.reads k [] (by
    rw [List.length_append, List.length_append] at hk
    omega)
  have hlength : (varUInt 3).length = 1 := by decide
  rw [List.append_nil] at hitem
  rw [hlength] at htake
  rw [hbytes, List.cons_append, readItem]
  simp [hfirst, hread, List.append_assoc, hone, htake, hnumbers, hitem]

theorem tableOf_tableValue (table : List String) : tableOf [] (tableValue table) = table := by
  have hsymbols : Fields.get? (.text "symbols")
      [(Value.text "symbols", Value.list (table.map .text))] = some (.list (table.map .text)) := by
    simp [Fields.get?, Value.sameKey]
  have himports : Fields.get? (.text "imports")
      [(Value.text "symbols", Value.list (table.map .text))] = none := by
    simp [Fields.get?, Value.sameKey]
  unfold tableOf tableValue
  simp only [hsymbols, himports, List.map_map]
  exact List.map_id table

/-! ### Documents -/

/-- A value starts with no version marker. -/
theorem ReadsAs.not_marker {table : List String} {bytes : Bytes} {v : Value}
    (h : ReadsAs table bytes v) (rest : Bytes) :
    versionMarker.isPrefixOf (bytes ++ rest) = false := by
  obtain ⟨first, tail, rfl, hfirst⟩ := h.starts
  have hne : (0xe0 : UInt8) ≠ first := by
    rintro rfl
    exact hfirst (by decide)
  rw [List.cons_append, versionMarker, List.isPrefixOf, beq_false_of_ne hne, Bool.false_and]

/-- An annotation with a content is no version marker either. -/
theorem element_not_marker {content : Bytes} (h : content ≠ []) (rest : Bytes) :
    versionMarker.isPrefixOf (element 14 content ++ rest) = false := by
  have hpos := List.length_pos_iff.2 h
  obtain ⟨first, tail, hbytes, hne⟩ : ∃ first tail, element 14 content = first :: tail ∧
      (0xe0 : UInt8) ≠ first := by
    unfold element
    by_cases hshort : content.length < 14
    · rw [if_pos hshort]
      refine ⟨_, _, rfl, fun heq => ?_⟩
      have hbyte : (UInt8.ofNat (14 * 16 + content.length)).toNat = 14 * 16 + content.length :=
        Utf8.toNat_byte (by omega)
      have hmarker := congrArg UInt8.toNat heq
      rw [hbyte] at hmarker
      have hfirst : (0xe0 : UInt8).toNat = 224 := rfl
      omega
    · rw [if_neg hshort]
      exact ⟨_, _, List.cons_append, by decide⟩
  rw [hbytes, List.cons_append, versionMarker, List.isPrefixOf, beq_false_of_ne hne,
    Bool.false_and]

/-- The end of a document is read as its one value. -/
theorem readStream_value {table : List String} {body : Bytes} {w : Value}
    (h : ReadsAs table body w) (fuel : Nat) : readStream table (fuel + 2) body = some [w] := by
  have hmarker := h.not_marker []
  have hitem := h.reads (2 * body.length + 2) [] (by omega)
  obtain ⟨first, tail, hbody, -⟩ := h.starts
  rw [List.append_nil] at hmarker hitem
  have hend : readStream table (fuel + 1) [] = some [] := by rw [readStream]
  rw [readStream, hmarker]
  · simp [hitem, hend]
  · rw [hbody]
    exact List.cons_ne_nil _ _

/-- **A document is read** as the one value that its bytes are read as. -/
theorem readBinary_document {table : List String} {body : Bytes} {w : Value}
    (h : ReadsAs table body w) :
    readBinary (versionMarker ++ tableElement table ++ body) = some [w] := by
  have hpos := h.length_pos
  have hmarker :
      versionMarker.isPrefixOf (versionMarker ++ (tableElement table ++ body)) = true := rfl
  have hdrop :
      (versionMarker ++ (tableElement table ++ body)).drop 4 = tableElement table ++ body := rfl
  have hlength : versionMarker.length = 4 := rfl
  unfold readBinary
  obtain ⟨k, hk⟩ : ∃ k, (versionMarker ++ tableElement table ++ body).length + 1 = k + 4 :=
    ⟨(tableElement table).length + body.length + 1, by simp only [List.length_append]; omega⟩
  rw [hk, List.append_assoc, readStream, if_pos hmarker, hdrop]
  · by_cases hnames : table = []
    · -- no name is in use, and no table is written
      subst hnames
      exact readStream_value h (k + 1)
    · have hitem := readItem_tableElement hnames body
        (show 2 * (tableElement table).length ≤
          (2 * (tableElement table ++ body).length + 2) + 1 by rw [List.length_append]; omega)
      have hother : versionMarker.isPrefixOf (tableElement table ++ body) = false := by
        have hsome : table.isEmpty = false := by simp [hnames]
        unfold tableElement
        rw [hsome, if_neg (by decide)]
        exact element_not_marker (by simp [varUInt_ne_nil 1]) body
      have htable := tableOf_tableValue table
      have hvalue := readStream_value h k
      rw [readStream, hother]
      · simp only [Bool.false_eq_true, if_false, hitem, Option.bind_eq_bind, Option.bind_some]
        show readStream (tableOf [] (tableValue table)) (k + 2) body = _
        rw [htable, hvalue]
      · have := List.length_pos_iff.1 hpos
        simp [this]
  · exact List.cons_ne_nil _ _

/-! ### All values -/

/-- A caller's timestamps are read if their clocks in UTC show a year of four digits. -/
def ShowsUtc (t : Timestamp) : Prop := t.minuteOffset.toUtc.inRange = true

/-- **The bytes of a value that a caller gives are read**, whatever follows. -/
theorem readsAs_written {fixed free : Timestamp → Prop} {v : Value} (h : Value.Given fixed free v)
    (table : List String) : (∀ t, free t → ShowsUtc t) → ∀ bytes, binaryOf table v = some bytes →
      ∃ w, True ∧ ReadsAs table bytes w := by
  induction h with
  | null =>
    intro _ bytes hw
    rw [binaryOf] at hw
    cases hw
    exact ⟨_, trivial, readsAs_null⟩
  | bool b =>
    intro _ bytes hw
    rw [binaryOf] at hw
    cases hw
    exact ⟨_, trivial, readsAs_bool b⟩
  | int n =>
    intro _ bytes hw
    rw [binaryOf] at hw
    cases hw
    exact ⟨_, trivial, readsAs_int n⟩
  | double d =>
    intro _ bytes hw
    rw [binaryOf] at hw
    cases hw
    obtain ⟨w, hread⟩ := @readsAs_double table d
    exact ⟨w, trivial, hread⟩
  | decimal d =>
    intro _ bytes hw
    rw [binaryOf] at hw
    exact ⟨_, trivial, readsAs_decimal hw⟩
  | text s =>
    intro _ bytes hw
    rw [binaryOf] at hw
    cases hw
    exact ⟨_, trivial, readsAs_text s⟩
  | loose t =>
    intro _ bytes hw
    cases hw
  | symbol s =>
    intro _ bytes hw
    rw [binaryOf] at hw
    obtain ⟨number, hnumber, hw⟩ := Option.bind_eq_some_iff.1 hw
    cases hw
    exact ⟨_, trivial, readsAs_symbol hnumber⟩
  | bytes kind s =>
    intro _ bytes hw
    cases kind with
    | fixed =>
      cases hw
      exact ⟨_, trivial, readsAs_blob s⟩
    | array =>
      cases hw
      exact ⟨_, trivial, readsAs_blob s⟩
    | view => cases hw
  | timestamp ht =>
    intro hfree bytes hw
    rw [binaryOf] at hw
    cases hw
    exact ⟨_, trivial, readsAs_timestamp (hfree _ ht)⟩
  | list _ ih =>
    intro hfree bytes hw
    rw [binaryOf] at hw
    obtain ⟨content, hcontent, hw⟩ := Option.bind_eq_some_iff.1 hw
    cases hw
    obtain ⟨read, -, hread⟩ :=
      readsAs_list (R := fun _ _ => True) (fun v hv => ih v hv hfree) hcontent
    exact ⟨_, trivial, hread⟩
  | tuple _ ih =>
    intro hfree bytes hw
    rw [binaryOf] at hw
    obtain ⟨content, hcontent, hw⟩ := Option.bind_eq_some_iff.1 hw
    cases hw
    obtain ⟨read, -, hread⟩ :=
      readsAs_list (R := fun _ _ => True) (fun v hv => ih v hv hfree) hcontent
    exact ⟨_, trivial, hread⟩
  | set _ _ =>
    intro _ bytes hw
    cases hw
  | map _ _ _ ihx =>
    intro hfree bytes hw
    rw [binaryOf] at hw
    obtain ⟨content, hcontent, hw⟩ := Option.bind_eq_some_iff.1 hw
    cases hw
    obtain ⟨read, -, hread⟩ :=
      readsAs_map (R := fun _ _ => True) (fun p hp => ihx p hp hfree) hcontent
    exact ⟨_, trivial, hread⟩

/-- **A binary document of a value that a caller gives is read** as one value. -/
theorem readBinary_of_write {fixed free : Timestamp → Prop} {v : Value}
    (h : Value.Given fixed free v) (hfree : ∀ t, free t → ShowsUtc t) {bytes : Bytes}
    (hw : writeBinary v = some bytes) :
    (∃ body, bytes = versionMarker ++ body) ∧ ∃ w, readBinary bytes = some [w] := by
  obtain ⟨body, hbody, hw⟩ := Option.bind_eq_some_iff.1 hw
  cases hw
  obtain ⟨w, -, hread⟩ := readsAs_written h (names [] v) hfree body hbody
  exact ⟨⟨_, List.append_assoc _ _ _⟩, w, readBinary_document hread⟩

end ServiceClient.Ion
