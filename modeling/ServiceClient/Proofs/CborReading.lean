import ServiceClient.Cbor.Read
import ServiceClient.Proofs.NormalForm
import ServiceClient.Proofs.Utf8

/-!
# Documents of CBOR read back

CBOR holds documents of booleans, integers, strings and byte strings.

* `ofBigEndian_bigEndian`, `ofBigEndian_minimalBytes`: a number is read from its bytes.
* `announces_head`: a head is read as its major type and its argument, in each of its five sizes.
* `readsAs_write`: the bytes of a document are read as the document, whatever follows.
* `exists_write`: a document has bytes exactly if its lengths fit in 64 bits.
-/

namespace ServiceClient

/-! ### Numbers in bytes -/

theorem length_bigEndian (width n : Nat) : (bigEndian width n).length = width := by
  induction width with
  | zero => rfl
  | succ width ih => rw [bigEndian, List.length_cons, ih]

/-- Bytes behind a number shift it by their width. -/
theorem foldl_bigEndian (width n acc : Nat) :
    (bigEndian width n).foldl (fun n b => n * 256 + b.toNat) acc =
      acc * 256 ^ width + n % 256 ^ width := by
  induction width generalizing acc with
  | zero => rw [bigEndian, List.foldl_nil]; omega
  | succ width ih =>
    have hbyte : (UInt8.ofNat (n / 256 ^ width)).toNat = n / 256 ^ width % 256 := rfl
    have hsplit : n % 256 ^ (width + 1) = n % 256 ^ width + 256 ^ width * (n / 256 ^ width % 256) :=
      Nat.mod_pow_succ
    rw [bigEndian, List.foldl_cons, ih, hbyte, hsplit, Nat.pow_succ, Nat.add_mul, Nat.mul_assoc,
      Nat.mul_comm 256, Nat.mul_comm (n / 256 ^ width % 256)]
    omega

theorem ofBigEndian_bigEndian {width n : Nat} (h : n < 256 ^ width) :
    ofBigEndian (bigEndian width n) = n := by
  rw [ofBigEndian, foldl_bigEndian, Nat.mod_eq_of_lt h]
  omega

/-- A number is below the first one that needs another byte. -/
theorem lt_pow_byteWidth (n : Nat) : n < 256 ^ byteWidth n := by
  unfold byteWidth
  by_cases hn : n = 0
  · rw [if_pos hn, hn]; decide
  · have hlog : n < 2 ^ (n.log2 + 1) := Nat.lt_log2_self
    have hbits : n.log2 + 1 ≤ 8 * (n.log2 / 8 + 1) := by omega
    have hpow : 2 ^ (n.log2 + 1) ≤ 256 ^ (n.log2 / 8 + 1) := by
      calc 2 ^ (n.log2 + 1) ≤ 2 ^ (8 * (n.log2 / 8 + 1)) := Nat.pow_le_pow_right (by decide) hbits
        _ = 256 ^ (n.log2 / 8 + 1) := by rw [Nat.pow_mul]
    rw [if_neg hn]
    exact Nat.lt_of_lt_of_le hlog hpow

theorem ofBigEndian_minimalBytes (n : Nat) : ofBigEndian (minimalBytes n) = n :=
  ofBigEndian_bigEndian (lt_pow_byteWidth n)

theorem takeBytes?_append (s rest : Bytes) : takeBytes? s.length (s ++ rest) = some (s, rest) := by
  unfold takeBytes?
  rw [if_pos (by rw [List.length_append]; omega), List.take_left, List.drop_left]

namespace Cbor

/-! ### Heads -/

/-- Bytes that are read as a major type with its argument, whatever follows. -/
def Announces (h : Bytes) (major n : Nat) : Prop :=
  ∃ first tail, h = first :: tail ∧ first.toNat / 32 = major ∧
    ∀ rest, readArgument (first.toNat % 32) (tail ++ rest) = some (.value n, rest)

theorem initial_parts {major info : Nat} (hm : major < 8) (hi : info < 32) :
    (initial major info).toNat / 32 = major ∧ (initial major info).toNat % 32 = info := by
  have hbyte : (initial major info).toNat = major * 32 + info := Utf8.toNat_byte (by omega)
  omega

/-- An argument in bytes of its own is read from as many bytes as the first one announces. -/
theorem announces_bytes {major info width n : Nat} (hm : major < 8) (hi : 24 ≤ info ∧ info ≤ 27)
    (hw : width = 2 ^ (info - 24)) (hn : n < 256 ^ width) :
    Announces (initial major info :: bigEndian width n) major n := by
  obtain ⟨hmajor, hinfo⟩ := initial_parts hm (show info < 32 by omega)
  refine ⟨_, _, rfl, hmajor, fun rest => ?_⟩
  have htake := takeBytes?_append (bigEndian width n) rest
  rw [length_bigEndian, hw] at htake
  have hvalue := ofBigEndian_bigEndian hn
  rw [hw] at hvalue
  rw [hinfo, readArgument, if_neg (by omega), if_pos hi.2, hw, htake]
  show some (Argument.value (ofBigEndian (bigEndian (2 ^ (info - 24)) n)), rest) = _
  rw [hvalue]

/-- **A head is read as what it is the head of**, in each of its five sizes. -/
theorem announces_head {major n : Nat} (hm : major < 8) {h : Bytes} (hh : head major n = some h) :
    Announces h major n := by
  unfold head at hh
  split at hh
  · -- the argument is in the first byte
    rename_i hn
    obtain ⟨hmajor, hinfo⟩ := initial_parts hm (show n < 32 by omega)
    cases hh
    refine ⟨_, _, rfl, hmajor, fun rest => ?_⟩
    rw [hinfo, readArgument, if_pos hn]
    rfl
  split at hh
  · cases hh
    exact announces_bytes hm (by decide) rfl (by assumption)
  split at hh
  · cases hh
    exact announces_bytes hm (by decide) rfl (by assumption)
  split at hh
  · cases hh
    exact announces_bytes hm (by decide) rfl (by assumption)
  split at hh
  · cases hh
    exact announces_bytes hm (by decide) rfl (by assumption)
  · cases hh

/-- The arguments of 64 bits have heads. -/
theorem exists_head (major : Nat) {n : Nat} : (∃ h, head major n = some h) ↔ n < 2 ^ 64 := by
  unfold head
  constructor
  · rintro ⟨h, hh⟩
    split at hh
    · omega
    split at hh
    · omega
    split at hh
    · omega
    split at hh
    · omega
    split at hh
    · assumption
    · cases hh
  · intro hn
    split
    · exact ⟨_, rfl⟩
    split
    · exact ⟨_, rfl⟩
    split
    · exact ⟨_, rfl⟩
    split
    · exact ⟨_, rfl⟩
    exact ⟨_, rfl⟩

/-! ### Values -/

/-- Bytes that are read as a value, whatever follows. Each of them takes at most two steps. -/
structure ReadsAs (bytes : Bytes) (v : Value) : Prop where
  nonempty : bytes ≠ []
  reads : ∀ fuel rest, 2 * bytes.length ≤ fuel + 1 →
    readValue fuel (bytes ++ rest) = some (v, rest)

section Reading

variable {h : Bytes} {n : Nat} (fuel : Nat) (rest : Bytes)

theorem readValue_natural (hh : Announces h 0 n) :
    readValue (fuel + 1) (h ++ rest) = some (.int n, rest) := by
  obtain ⟨first, tail, rfl, hmajor, hread⟩ := hh
  rw [List.cons_append, readValue]
  simp only [hread, hmajor]
  rfl

theorem readValue_negative (hh : Announces h 1 n) :
    readValue (fuel + 1) (h ++ rest) = some (.int (-(n : Int) - 1), rest) := by
  obtain ⟨first, tail, rfl, hmajor, hread⟩ := hh
  rw [List.cons_append, readValue]
  simp only [hread, hmajor]
  rfl

theorem readValue_bytes {s : Bytes} (hh : Announces h 2 s.length) :
    readValue (fuel + 1) (h ++ (s ++ rest)) = some (.blob s, rest) := by
  obtain ⟨first, tail, rfl, hmajor, hread⟩ := hh
  have hstring : readString 2 (.value s.length) (s ++ rest) = some ([s], rest) := by
    rw [readString, takeBytes?_append]
    rfl
  rw [List.cons_append, readValue]
  simp [hread, hmajor, hstring]

theorem readValue_text {s : String} (hh : Announces h 3 (Utf8.encode s).length) :
    readValue (fuel + 1) (h ++ (Utf8.encode s ++ rest)) = some (.text s, rest) := by
  obtain ⟨first, tail, rfl, hmajor, hread⟩ := hh
  have hstring : readString 3 (.value (Utf8.encode s).length) (Utf8.encode s ++ rest) =
      some ([Utf8.encode s], rest) := by
    rw [readString, takeBytes?_append]
    rfl
  have htext : text? (Utf8.encode s) = some s := by rw [text?, Utf8.decode_encode]
  rw [List.cons_append, readValue]
  simp [hread, hmajor, hstring, htext]

theorem readValue_list (hh : Announces h 4 n) {items : List Value} {after : Bytes}
    (hitems : readItems fuel n rest = some (items, after)) :
    readValue (fuel + 1) (h ++ rest) = some (.list items, after) := by
  obtain ⟨first, tail, rfl, hmajor, hread⟩ := hh
  rw [List.cons_append, readValue]
  simp [hread, hmajor, hitems]

theorem readValue_map (hh : Announces h 5 n) {fields : List (Value × Value)} {after : Bytes}
    (hfields : readFields fuel n rest = some (fields, after)) :
    readValue (fuel + 1) (h ++ rest) = some (.map (Fields.ofPairs fields), after) := by
  obtain ⟨first, tail, rfl, hmajor, hread⟩ := hh
  rw [List.cons_append, readValue]
  simp [hread, hmajor, hfields]

theorem readValue_tag (hh : Announces h 6 n) {v w : Value} {after : Bytes}
    (hcontent : readValue fuel rest = some (v, after)) (htag : untag n v = some w) :
    readValue (fuel + 1) (h ++ rest) = some (w, after) := by
  obtain ⟨first, tail, rfl, hmajor, hread⟩ := hh
  rw [List.cons_append, readValue]
  simp [hread, hmajor, hcontent, htag]

end Reading

/-- A head has a first byte. -/
theorem Announces.ne_nil {h : Bytes} {major n : Nat} (hh : Announces h major n) : h ≠ [] := by
  obtain ⟨first, tail, rfl, -, -⟩ := hh
  exact List.cons_ne_nil first tail

/-- The steps for bytes that start with a head: one, and those for what follows the head. -/
theorem Announces.exists_fuel {h : Bytes} {major n fuel : Nat} (hh : Announces h major n)
    {s : Bytes} (hfuel : 2 * (h ++ s).length ≤ fuel + 1) :
    ∃ k, fuel = k + 1 ∧ 2 * s.length ≤ k := by
  have hpos := List.length_pos_iff.2 hh.ne_nil
  rw [List.length_append] at hfuel
  exact ⟨fuel - 1, by omega, by omega⟩

theorem readsAs_null : ReadsAs [0xf6] .null := by
  refine ⟨by decide, fun fuel rest hfuel => ?_⟩
  obtain ⟨k, rfl⟩ : ∃ k, fuel = k + 1 := ⟨fuel - 1, by simp at hfuel; omega⟩
  rfl

theorem readsAs_bool (b : Bool) : ReadsAs [if b then 0xf5 else 0xf4] (.bool b) := by
  refine ⟨by simp, fun fuel rest hfuel => ?_⟩
  obtain ⟨k, rfl⟩ : ∃ k, fuel = k + 1 := ⟨fuel - 1, by simp at hfuel; omega⟩
  cases b <;> rfl

theorem readsAs_bytes {s bytes : Bytes} (hw : writeBytes s = some bytes) :
    ReadsAs bytes (.blob s) := by
  obtain ⟨h, hhead, hbytes⟩ := Option.bind_eq_some_iff.1 hw
  have hh := announces_head (by decide) hhead
  cases hbytes
  refine ⟨by simp [hh.ne_nil], fun fuel rest hfuel => ?_⟩
  obtain ⟨k, rfl, -⟩ := hh.exists_fuel hfuel
  rw [List.append_assoc]
  exact readValue_bytes k rest hh

theorem readsAs_text {s : String} {bytes : Bytes} (hw : writeText s = some bytes) :
    ReadsAs bytes (.text s) := by
  obtain ⟨h, hhead, hbytes⟩ := Option.bind_eq_some_iff.1 hw
  have hh := announces_head (by decide) hhead
  cases hbytes
  refine ⟨by simp [hh.ne_nil], fun fuel rest hfuel => ?_⟩
  obtain ⟨k, rfl, -⟩ := hh.exists_fuel hfuel
  rw [List.append_assoc]
  exact readValue_text k rest hh

/-- The bytes of a value under a tag are read as what the tag makes of it. -/
theorem readsAs_tag {tag : Nat} {h content : Bytes} {v w : Value} (hh : Announces h 6 tag)
    (hv : ReadsAs content v) (htag : untag tag v = some w) : ReadsAs (h ++ content) w := by
  refine ⟨by simp [hh.ne_nil], fun fuel rest hfuel => ?_⟩
  obtain ⟨k, rfl, hk⟩ := hh.exists_fuel hfuel
  rw [List.append_assoc]
  exact readValue_tag k _ hh (hv.reads k rest (by omega)) htag

/-- A magnitude in a head, or as a tagged byte string, is read as `v` if both forms of it are. -/
theorem readsAs_magnitude {major tag m : Nat} (hmajor : major < 8) {v : Value}
    (hnumber : ∀ {h}, Announces h major m → ∀ fuel rest,
      readValue (fuel + 1) (h ++ rest) = some (v, rest))
    (htag : untag tag (.blob (minimalBytes m)) = some v) {bytes : Bytes}
    (hw : (if m < 2 ^ 64 then head major m
      else do return (← head 6 tag) ++ (← writeBytes (minimalBytes m))) = some bytes) :
    ReadsAs bytes v := by
  split at hw
  · have hh := announces_head hmajor hw
    refine ⟨hh.ne_nil, fun fuel rest hfuel => ?_⟩
    have hpos := List.length_pos_iff.2 hh.ne_nil
    obtain ⟨k, rfl⟩ : ∃ k, fuel = k + 1 := ⟨fuel - 1, by omega⟩
    exact hnumber hh k rest
  · obtain ⟨h, hhead, hw⟩ := Option.bind_eq_some_iff.1 hw
    obtain ⟨content, hcontent, hw⟩ := Option.bind_eq_some_iff.1 hw
    cases hw
    exact readsAs_tag (announces_head (by decide) hhead) (readsAs_bytes hcontent) htag

/-- **An integer is read as it was written**, whether its magnitude fits in a head or not. -/
theorem readsAs_int {n : Int} {bytes : Bytes} (hw : writeInt n = some bytes) :
    ReadsAs bytes (.int n) := by
  unfold writeInt at hw
  by_cases hsign : n < 0
  · have hvalue : -(magnitude n : Int) - 1 = n := by
      rw [magnitude, if_pos hsign]
      omega
    have htag : untag 3 (.blob (minimalBytes (magnitude n))) = some (.int n) := by
      show some (Value.int (-(ofBigEndian (minimalBytes (magnitude n)) : Int) - 1)) = _
      rw [ofBigEndian_minimalBytes, hvalue]
    simp only [if_pos hsign] at hw
    exact readsAs_magnitude (by decide)
      (fun hh fuel rest => by rw [readValue_negative fuel rest hh, hvalue]) htag hw
  · have hvalue : (magnitude n : Int) = n := by
      rw [magnitude, if_neg hsign]
      omega
    have htag : untag 2 (.blob (minimalBytes (magnitude n))) = some (.int n) := by
      show some (Value.int (ofBigEndian (minimalBytes (magnitude n)))) = _
      rw [ofBigEndian_minimalBytes, hvalue]
    simp only [if_neg hsign] at hw
    exact readsAs_magnitude (by decide)
      (fun hh fuel rest => by rw [readValue_natural fuel rest hh, hvalue]) htag hw

section Written

variable {R : Value → Value → Prop}

/-- The items of a list are read one by one, each as what its bytes are read as. -/
theorem readItems_written {items : List Value}
    (h : ∀ v ∈ items, ∀ bytes, write v = some bytes → ∃ w, R v w ∧ ReadsAs bytes w)
    {bytes : Bytes} (hw : writeItems items = some bytes) :
    ∃ read, List.Forall₂ R items read ∧ ∀ fuel rest, 2 * bytes.length ≤ fuel →
      readItems fuel items.length (bytes ++ rest) = some (read, rest) := by
  induction items generalizing bytes with
  | nil =>
    rw [writeItems] at hw
    cases hw
    refine ⟨[], .nil, fun fuel rest _ => ?_⟩
    rw [List.length_nil, List.nil_append, readItems]
  | cons v items ih =>
    rw [List.forall_mem_cons] at h
    rw [writeItems] at hw
    obtain ⟨first, hfirst, hw⟩ := Option.bind_eq_some_iff.1 hw
    obtain ⟨others, hothers, hw⟩ := Option.bind_eq_some_iff.1 hw
    cases hw
    obtain ⟨w, hrel, hv⟩ := h.1 first hfirst
    obtain ⟨read, hreads, hrest⟩ := ih h.2 hothers
    -- each item takes at least one byte, which pays for its step
    have hpos := List.length_pos_iff.2 hv.nonempty
    refine ⟨w :: read, .cons hrel hreads, fun fuel rest hfuel => ?_⟩
    rw [List.length_append] at hfuel
    obtain ⟨k, rfl⟩ : ∃ k, fuel = k + 1 := ⟨fuel - 1, by omega⟩
    rw [List.length_cons, List.append_assoc, readItems, hv.reads k _ (by omega)]
    show (readItems k items.length (others ++ rest) >>= _) = _
    rw [hrest k rest (by omega)]
    rfl

/-- A field that is read: its key is what the bytes of the written key are read as. -/
def FieldReads (R : Value → Value → Prop) (p q : Value × Value) : Prop :=
  (∃ key, R p.1 key ∧ q.1 = asKey key) ∧ R p.2 q.2

/-- The fields of a map are read one by one, a key before its value. -/
theorem readFields_written {fields : Fields}
    (hk : ∀ p ∈ fields, ∀ bytes, write p.1 = some bytes → ∃ w, R p.1 w ∧ ReadsAs bytes w)
    (hx : ∀ p ∈ fields, ∀ bytes, write p.2 = some bytes → ∃ w, R p.2 w ∧ ReadsAs bytes w)
    {bytes : Bytes} (hw : writeFields fields = some bytes) :
    ∃ read, List.Forall₂ (FieldReads R) fields read ∧ ∀ fuel rest, 2 * bytes.length ≤ fuel →
      readFields fuel fields.length (bytes ++ rest) = some (read, rest) := by
  induction fields generalizing bytes with
  | nil =>
    rw [writeFields] at hw
    cases hw
    refine ⟨[], .nil, fun fuel rest _ => ?_⟩
    rw [List.length_nil, List.nil_append, readFields]
  | cons p fields ih =>
    obtain ⟨k, v⟩ := p
    rw [List.forall_mem_cons] at hk hx
    rw [writeFields] at hw
    obtain ⟨key, hkey, hw⟩ := Option.bind_eq_some_iff.1 hw
    obtain ⟨first, hfirst, hw⟩ := Option.bind_eq_some_iff.1 hw
    obtain ⟨others, hothers, hw⟩ := Option.bind_eq_some_iff.1 hw
    cases hw
    obtain ⟨l, hkrel, hk'⟩ := hk.1 key hkey
    obtain ⟨w, hrel, hv⟩ := hx.1 first hfirst
    obtain ⟨read, hreads, hrest⟩ := ih hk.2 hx.2 hothers
    -- each key takes at least one byte, which pays for its field
    have hpos := List.length_pos_iff.2 hk'.nonempty
    refine ⟨(asKey l, w) :: read, .cons ⟨⟨l, hkrel, rfl⟩, hrel⟩ hreads, fun fuel rest hfuel => ?_⟩
    rw [List.length_append, List.length_append] at hfuel
    obtain ⟨n, rfl⟩ : ∃ n, fuel = n + 1 := ⟨fuel - 1, by omega⟩
    rw [List.length_cons, List.append_assoc, List.append_assoc, readFields,
      hk'.reads n _ (by omega)]
    show (readValue n (first ++ (others ++ rest)) >>= _) = _
    rw [hv.reads n _ (by omega)]
    show (readFields n fields.length (others ++ rest) >>= _) = _
    rw [hrest n rest (by omega)]
    rfl

/-- A list is read if its items are. -/
theorem readsAs_list {items : List Value}
    (h : ∀ v ∈ items, ∀ bytes, write v = some bytes → ∃ w, R v w ∧ ReadsAs bytes w)
    {front content : Bytes} (hfront : head 4 items.length = some front)
    (hw : writeItems items = some content) :
    ∃ read, List.Forall₂ R items read ∧ ReadsAs (front ++ content) (.list read) := by
  have hh := announces_head (by decide) hfront
  obtain ⟨read, hreads, hread⟩ := readItems_written h hw
  refine ⟨read, hreads, by simp [hh.ne_nil], fun fuel rest hfuel => ?_⟩
  obtain ⟨k, rfl, hk⟩ := hh.exists_fuel hfuel
  rw [List.append_assoc]
  exact readValue_list k _ hh (hread k rest hk)

/-- A map is read if its keys and its values are. Of keys that are one, the last one counts. -/
theorem readsAs_map {fields : Fields}
    (hk : ∀ p ∈ fields, ∀ bytes, write p.1 = some bytes → ∃ w, R p.1 w ∧ ReadsAs bytes w)
    (hx : ∀ p ∈ fields, ∀ bytes, write p.2 = some bytes → ∃ w, R p.2 w ∧ ReadsAs bytes w)
    {front content : Bytes} (hfront : head 5 fields.length = some front)
    (hw : writeFields fields = some content) :
    ∃ read, List.Forall₂ (FieldReads R) fields read ∧
      ReadsAs (front ++ content) (.map (Fields.ofPairs read)) := by
  have hh := announces_head (by decide) hfront
  obtain ⟨read, hreads, hread⟩ := readFields_written hk hx hw
  refine ⟨read, hreads, by simp [hh.ne_nil], fun fuel rest hfuel => ?_⟩
  obtain ⟨k, rfl, hk⟩ := hh.exists_fuel hfuel
  rw [List.append_assoc]
  exact readValue_map k _ hh (hread k rest hk)

end Written

/-- Fields with texts as keys are read under the same keys. -/
theorem fieldReads_named {pairs : List (Text × Value)} {read : Fields}
    (h : List.Forall₂ (FieldReads Eq) (Fields.named pairs) read) : read = Fields.named pairs := by
  refine Fields.eq_named (fun p _ q hfield => ?_) h
  obtain ⟨⟨key, hkey, hq⟩, hv⟩ := hfield
  have hkeep : asKey (.ofText p.1) = .ofText p.1 := by
    rcases Value.ofText_cases p.1 with ⟨s, -, hs⟩ | ⟨l, -, hl⟩
    · rw [hs]; rfl
    · rw [hl]; rfl
  rw [← hkey, hkeep] at hq
  exact Prod.ext hq hv.symm

/-- The bytes of a scalar are read as the scalar. -/
theorem readsAs_scalar {v : Value} (h : v.IsBasicRead) {bytes : Bytes}
    (hw : write v = some bytes) : ReadsAs bytes v := by
  cases v with
  | bool b =>
    rw [write] at hw
    cases hw
    exact readsAs_bool b
  | int n =>
    rw [write] at hw
    exact readsAs_int hw
  | text s =>
    rw [write] at hw
    exact readsAs_text hw
  | bytes kind s =>
    cases kind with
    | fixed => exact readsAs_bytes hw
    | array | view => exact False.elim h
  | _ => exact False.elim h

/-- **The bytes of a document are read as the document**, whatever follows. -/
theorem readsAs_write {v : Value} (h : v.Held Value.IsBasicRead) :
    ∀ {bytes}, write v = some bytes → ReadsAs bytes v := by
  induction h with
  | null =>
    intro bytes hw
    rw [write] at hw
    cases hw
    exact readsAs_null
  | scalar _ h => exact readsAs_scalar h
  | list _ ih =>
    intro bytes hw
    rw [write] at hw
    obtain ⟨front, hfront, hw⟩ := Option.bind_eq_some_iff.1 hw
    obtain ⟨content, hcontent, hw⟩ := Option.bind_eq_some_iff.1 hw
    cases hw
    obtain ⟨read, hreads, hread⟩ :=
      readsAs_list (fun v hv bytes hw => ⟨v, rfl, ih v hv hw⟩) hfront hcontent
    rw [List.forall₂_eq_eq_eq] at hreads
    rw [hreads]
    exact hread
  | @map pairs hd hn _ ih =>
    intro bytes hw
    rw [write] at hw
    obtain ⟨front, hfront, hw⟩ := Option.bind_eq_some_iff.1 hw
    obtain ⟨content, hcontent, hw⟩ := Option.bind_eq_some_iff.1 hw
    cases hw
    have hkeys : ∀ p ∈ Fields.named pairs, ∀ bytes, write p.1 = some bytes →
        ∃ w, p.1 = w ∧ ReadsAs bytes w :=
      Fields.forall_mem_named.2 fun p hp _ hw => ⟨_, rfl, readsAs_scalar (hn p hp) hw⟩
    have hvalues : ∀ p ∈ Fields.named pairs, ∀ bytes, write p.2 = some bytes →
        ∃ w, p.2 = w ∧ ReadsAs bytes w :=
      Fields.forall_mem_named.2 fun p hp _ hw => ⟨_, rfl, ih p hp hw⟩
    obtain ⟨read, hreads, hread⟩ := readsAs_map hkeys hvalues hfront hcontent
    rw [fieldReads_named hreads, Fields.ofPairs_of_nodup hd] at hread
    exact hread

/-- Bytes that are read as a value up to their end are read. -/
theorem read_of_readsAs {v : Value} {bytes : Bytes} (h : ReadsAs bytes v) :
    read bytes = some v := by
  have hread := h.reads (2 * bytes.length + 2) [] (by omega)
  rw [List.append_nil] at hread
  rw [read, hread]
  rfl

/-- **A document is read back from its bytes.** -/
theorem read_write {v : Value} (h : v.Held Value.IsBasicRead) {bytes : Bytes}
    (hw : write v = some bytes) : read bytes = some v :=
  read_of_readsAs (readsAs_write h hw)

/-! ### Lengths -/

mutual

/-- Whether every length in a value fits in 64 bits: of a text and a byte string in bytes, of an
integer in the bytes of its magnitude, of a list in items, of a map in fields. -/
def fits : Value → Bool
  | .int n => byteWidth (magnitude n) < 2 ^ 64
  | .text s => (Utf8.encode s).length < 2 ^ 64
  | .bytes _ s => s.length < 2 ^ 64
  | .list items => decide (items.length < 2 ^ 64) && itemsFit items
  | .map fields => decide (fields.length < 2 ^ 64) && fieldsFit fields
  | _ => true

def itemsFit : List Value → Bool
  | [] => true
  | v :: rest => fits v && itemsFit rest

def fieldsFit : List (Value × Value) → Bool
  | [] => true
  | (k, v) :: rest => fits k && fits v && fieldsFit rest

end

/-- Two parts that are written in a row are both written. -/
theorem exists_append {a b : Option Bytes} :
    (∃ bytes, (do return (← a) ++ (← b)) = some bytes) ↔ (∃ s, a = some s) ∧ ∃ s, b = some s := by
  constructor
  · rintro ⟨bytes, h⟩
    obtain ⟨s, hs, h⟩ := Option.bind_eq_some_iff.1 h
    obtain ⟨t, ht, -⟩ := Option.bind_eq_some_iff.1 h
    exact ⟨⟨s, hs⟩, t, ht⟩
  · rintro ⟨⟨s, rfl⟩, t, rfl⟩
    exact ⟨s ++ t, rfl⟩

/-- A string is written behind its head. -/
theorem exists_string {major n : Nat} {s : Bytes} :
    (∃ bytes, (do return (← head major n) ++ s) = some bytes) ↔ n < 2 ^ 64 := by
  rw [← exists_head major]
  constructor
  · rintro ⟨bytes, h⟩
    obtain ⟨front, hfront, -⟩ := Option.bind_eq_some_iff.1 h
    exact ⟨front, hfront⟩
  · rintro ⟨front, hfront⟩
    exact ⟨front ++ s, by rw [hfront]; rfl⟩

/-- A number of 64 bits has not too many bytes. -/
theorem byteWidth_lt {n : Nat} (h : n < 2 ^ 64) : byteWidth n < 2 ^ 64 := by
  have hlog : n.log2 ≤ n := Nat.log2_le_self n
  unfold byteWidth
  split <;> omega

theorem exists_writeInt {n : Int} :
    (∃ bytes, writeInt n = some bytes) ↔ byteWidth (magnitude n) < 2 ^ 64 := by
  have hlength : (minimalBytes (magnitude n)).length = byteWidth (magnitude n) :=
    length_bigEndian _ _
  unfold writeInt
  dsimp only
  by_cases hsmall : magnitude n < 2 ^ 64
  · rw [if_pos hsmall]
    exact ⟨fun _ => byteWidth_lt hsmall, fun _ => (exists_head _).2 hsmall⟩
  · rw [if_neg hsmall, exists_append, writeBytes, exists_string, hlength]
    refine ⟨fun h => h.2, fun h => ⟨(exists_head _).2 ?_, h⟩⟩
    split <;> decide

theorem exists_writeItems {items : List Value}
    (h : ∀ v ∈ items, (∃ bytes, write v = some bytes) ↔ fits v = true) :
    (∃ bytes, writeItems items = some bytes) ↔ itemsFit items = true := by
  induction items with
  | nil =>
    rw [writeItems, itemsFit]
    exact ⟨fun _ => rfl, fun _ => ⟨[], rfl⟩⟩
  | cons v items ih =>
    rw [List.forall_mem_cons] at h
    rw [writeItems, itemsFit, exists_append, h.1, ih h.2, Bool.and_eq_true]

theorem exists_writeFields {fields : Fields}
    (hk : ∀ p ∈ fields, (∃ bytes, write p.1 = some bytes) ↔ fits p.1 = true)
    (h : ∀ p ∈ fields, (∃ bytes, write p.2 = some bytes) ↔ fits p.2 = true) :
    (∃ bytes, writeFields fields = some bytes) ↔ fieldsFit fields = true := by
  induction fields with
  | nil =>
    rw [writeFields, fieldsFit]
    exact ⟨fun _ => rfl, fun _ => ⟨[], rfl⟩⟩
  | cons p fields ih =>
    rw [List.forall_mem_cons] at h hk
    rw [writeFields, fieldsFit, Bool.and_eq_true, Bool.and_eq_true, ← hk.1, ← h.1,
      ← ih hk.2 h.2, and_assoc]
    constructor
    · rintro ⟨bytes, hw⟩
      obtain ⟨key, hkey, hw⟩ := Option.bind_eq_some_iff.1 hw
      obtain ⟨first, hfirst, hw⟩ := Option.bind_eq_some_iff.1 hw
      obtain ⟨others, hothers, -⟩ := Option.bind_eq_some_iff.1 hw
      exact ⟨⟨key, hkey⟩, ⟨first, hfirst⟩, others, hothers⟩
    · rintro ⟨⟨key, hkey⟩, ⟨first, hfirst⟩, others, hothers⟩
      exact ⟨key ++ first ++ others, by rw [hkey, hfirst, hothers]; rfl⟩

theorem exists_write_scalar {v : Value} (h : v.IsBasicRead) :
    (∃ bytes, write v = some bytes) ↔ fits v = true := by
  cases v with
  | bool b => simp [write, fits]
  | int n =>
    rw [write, fits, decide_eq_true_eq]
    exact exists_writeInt
  | text s =>
    rw [write, fits, decide_eq_true_eq]
    exact exists_string
  | bytes kind s =>
    cases kind with
    | fixed =>
      rw [fits, decide_eq_true_eq]
      exact exists_string
    | array | view => exact False.elim h
  | _ => exact False.elim h

/-- **A document has bytes exactly if its lengths fit.** -/
theorem exists_write {v : Value} (h : v.Held Value.IsBasicRead) :
    (∃ bytes, write v = some bytes) ↔ fits v = true := by
  induction h with
  | null => simp [write, fits]
  | scalar _ h => exact exists_write_scalar h
  | list _ ih =>
    rw [write, fits, exists_append, exists_head, exists_writeItems ih, Bool.and_eq_true,
      decide_eq_true_eq]
  | map _ hn _ ih =>
    rw [write, fits, exists_append, exists_head, Bool.and_eq_true, decide_eq_true_eq,
      exists_writeFields]
    · exact Fields.forall_mem_named.2 fun p hp => exists_write_scalar (hn p hp)
    · exact Fields.forall_mem_named.2 ih

end Cbor

end ServiceClient
