import ServiceClient.Proofs.NormalForm
import ServiceClient.Proofs.WrittenBodies

/-!
# The names of fields in what is read

A document of JSON or Ion names its fields by texts, whatever its body is. In CBOR any value can be
the key of a field.

* `Value.TextKeyed`: a value whose fields, if it has any, are named by texts.
* `Ion.Gives`: a property of whatever a reader gives.
* `Ion.gives_readItem`, `Ion.Text.gives_readTextValue`: the values of both Ion forms.
* `Encoding.textKeyed_of_parse`: the documents of all encodings but CBOR.
-/

namespace ServiceClient

/-- Fields that are named by texts. -/
def Fields.HaveTextKeys (fields : Fields) : Prop := ∀ f ∈ fields, ∃ name, f.1 = .ofText name

def Value.isMap : Value → Bool
  | .map _ => true
  | _ => false

/-- A value whose fields, if it has any, are named by texts. -/
def Value.TextKeyed (v : Value) : Prop := ∀ fields, v = .map fields → Fields.HaveTextKeys fields

/-- A value that has no fields at all. -/
theorem Value.TextKeyed.scalar {v : Value} (h : v.isMap = false) : TextKeyed v := by
  intro fields hv
  rw [hv] at h
  cases h

theorem Value.TextKeyed.map {fields : Fields} (h : fields.HaveTextKeys) :
    TextKeyed (.map fields) := by
  intro fields' heq
  cases heq
  exact h

theorem Fields.HaveTextKeys.ofPairs {pairs : Fields} (h : HaveTextKeys pairs) :
    HaveTextKeys (Fields.ofPairs pairs) := by
  have hpairs : ∀ p ∈ pairs, (∃ name, p.1 = Value.ofText name) ∧ True :=
    fun p hp => ⟨h p hp, trivial⟩
  intro f hf
  exact (Fields.forall_ofPairs (P := fun k => ∃ name, k = .ofText name) (Q := fun _ => True)
    hpairs f hf).1

namespace Ion

/-! ### What readers give -/

/-- Whatever is read has a property. -/
def Gives {α : Type} (P : α → Prop) (o : Option α) : Prop := ∀ x, o = some x → P x

section Gives

variable {α β : Type} {P : α → Prop}

theorem gives_none : Gives P none := fun _ h => (by cases h)

theorem gives_some {x : α} (h : P x) : Gives P (some x) := by
  intro y hy
  cases hy
  exact h

theorem gives_bind {o : Option β} {f : β → Option α} (h : ∀ y, o = some y → Gives P (f y)) :
    Gives P (o >>= f) := by
  intro x hx
  obtain ⟨y, hy, hx⟩ := Option.bind_eq_some_iff.1 hx
  exact h y hy x hx

theorem gives_map {o : Option β} {f : β → α} (h : ∀ y, P (f y)) : Gives P (o.map f) := by
  intro x hx
  obtain ⟨y, -, rfl⟩ := Option.map_eq_some_iff.1 hx
  exact h y

theorem gives_ite {c : Prop} [Decidable c] {o o' : Option α} (h : Gives P o) (h' : Gives P o') :
    Gives P (if c then o else o') := by
  split
  · exact h
  · exact h'

end Gives

/-! ### Scalars -/

/-- The value that is read in front of a rest has no field that is not named by a text. -/
def Keyed {α : Type} (r : Value × α) : Prop := r.1.TextKeyed

theorem gives_readScalar (table : List String) (code : Nat) (content : Bytes) :
    Gives Value.TextKeyed (readScalar table code content) := by
  unfold readScalar
  split
  · exact gives_some (.scalar rfl)
  · exact gives_ite gives_none (gives_some (.scalar rfl))
  · split
    · exact gives_some (.scalar rfl)
    · exact gives_some (.scalar rfl)
    · exact gives_some (.scalar rfl)
    · exact gives_none
  · exact gives_map fun _ => .scalar rfl
  · exact gives_map fun _ => .scalar rfl
  · exact gives_map fun _ => .scalar rfl
  · exact gives_map fun _ => .scalar rfl
  · exact gives_some (.scalar rfl)
  · exact gives_some (.scalar rfl)
  · exact gives_none

/-! ### Bytes -/

theorem haveTextKeys_nil : Fields.HaveTextKeys [] := List.forall_mem_nil _

theorem haveTextKeys_cons {name : String} {v : Value} {fields : Fields}
    (h : fields.HaveTextKeys) : Fields.HaveTextKeys ((.text name, v) :: fields) :=
  List.forall_mem_cons.2 ⟨⟨name, (Value.ofText_ofString name).symm⟩, h⟩

/-- The fields of a struct are named by the texts of its table. -/
theorem gives_readFields (table : List String) (fuel : Nat) (s : Bytes) :
    Gives Fields.HaveTextKeys (readFields table fuel s) := by
  induction fuel generalizing s with
  | zero =>
    cases s with
    | nil => exact gives_some haveTextKeys_nil
    | cons b rest => exact gives_none
  | succ fuel ih =>
    cases s with
    | nil => exact gives_some haveTextKeys_nil
    | cons b rest =>
      rw [readFields]
      · refine gives_bind fun number _ => gives_bind fun item _ => gives_bind fun tail htail => ?_
        have hkeys := ih _ tail htail
        split
        · exact gives_bind fun name _ => gives_some (haveTextKeys_cons hkeys)
        · exact gives_some hkeys
      · exact List.cons_ne_nil _ _

/-- An item that is a value names its fields by texts. -/
def Item.Keyed (r : Item × Bytes) : Prop :=
  ∀ annotations v, r.1 = .value annotations v → v.TextKeyed

theorem gives_readItem (table : List String) (fuel : Nat) (s : Bytes) :
    Gives Item.Keyed (readItem table fuel s) := by
  -- a scalar names no fields; what is left are lists, structs and annotations
  have hvalue : ∀ annotations v rest, Value.TextKeyed v →
      Gives Item.Keyed (some (.value annotations v, rest)) := by
    intro annotations v rest hv
    apply gives_some
    rintro annotations' v' heq
    cases heq
    exact hv
  have hscalar : ∀ annotations v rest, v.isMap = false →
      Gives Item.Keyed (some (.value annotations v, rest)) :=
    fun _ _ _ h => hvalue _ _ _ (.scalar h)
  induction fuel generalizing s with
  | zero => exact gives_none
  | succ fuel ih =>
    cases s with
    | nil => exact gives_none
    | cons b rest =>
      rw [readItem]
      apply gives_ite
      · refine gives_ite (hscalar _ _ _ rfl) (gives_ite (hscalar _ _ _ rfl) ?_)
        exact gives_ite (hscalar _ _ _ rfl) gives_none
      · refine gives_bind fun r _ => ?_
        obtain ⟨content, rest⟩ := r
        cases content with
        | none => exact gives_ite (hscalar _ _ _ rfl) gives_none
        | some content =>
          refine gives_ite (gives_some fun _ _ h => by cases h)
            (gives_ite ?_ (gives_ite ?_ (gives_ite ?_ ?_)))
          · exact gives_bind fun items _ => hscalar _ _ _ rfl
          · refine gives_bind fun fields hfields => hvalue _ _ _ ?_
            exact Value.TextKeyed.map (gives_readFields table fuel content fields hfields).ofPairs
          · -- an annotation is around the item that it annotates
            refine gives_bind fun _ _ => gives_bind fun _ _ => gives_bind fun annotations _ => ?_
            refine gives_ite gives_none (gives_bind fun item hitem => ?_)
            split
            · exact hvalue _ _ _ (ih _ _ hitem _ _ rfl)
            · exact gives_none
          · refine gives_bind fun v hv => hvalue _ _ _ ?_
            exact gives_readScalar table _ content v hv

/-- The values of a stream name their fields by texts. -/
theorem gives_readStream (table : List String) (fuel : Nat) (s : Bytes) :
    Gives (fun values => ∀ v ∈ values, v.TextKeyed) (readStream table fuel s) := by
  induction fuel generalizing table s with
  | zero =>
    cases s with
    | nil => exact gives_some (List.forall_mem_nil _)
    | cons b rest => exact gives_none
  | succ fuel ih =>
    cases s with
    | nil => exact gives_some (List.forall_mem_nil _)
    | cons b rest =>
      rw [readStream]
      · refine gives_ite (ih _ _) (gives_bind fun r hitem => ?_)
        obtain ⟨item, rest⟩ := r
        have hkeyed := gives_readItem _ _ _ _ hitem
        dsimp only
        split
        · exact ih _ _
        · refine gives_bind fun tail htail => gives_some ?_
          exact List.forall_mem_cons.2 ⟨hkeyed _ _ rfl, ih _ _ tail htail⟩
        · exact ih _ _
      · exact List.cons_ne_nil _ _

/-! ### Text -/

namespace Text

theorem gives_readScaled (negative hasPoint : Bool) (whole fraction s : List Char) :
    Gives Keyed (readScaled negative hasPoint whole fraction s) := by
  have hplain : ∀ d n, Value.TextKeyed (if hasPoint then .decimal d else .int n) := by
    intro d n
    cases hasPoint
    · exact .scalar rfl
    · exact .scalar rfl
  unfold readScaled
  cases s with
  | nil => exact gives_some (hplain _ _)
  | cons c tail =>
    refine gives_ite ?_ (gives_ite ?_ (gives_some (hplain _ _)))
    · exact gives_bind fun _ _ => gives_some (.scalar rfl)
    · exact gives_bind fun _ _ => gives_some (.scalar rfl)

theorem gives_readBased (base : Nat) (negative : Bool) (s : List Char) :
    Gives Keyed (readBased base negative s) :=
  gives_bind fun _ _ => gives_bind fun _ _ => gives_some (.scalar rfl)

theorem gives_readUnsigned (negative : Bool) (s : List Char) :
    Gives Keyed (readUnsigned negative s) := by
  unfold readUnsigned
  split
  · exact gives_readBased _ _ _
  · exact gives_readBased _ _ _
  · exact gives_readBased _ _ _
  · exact gives_readBased _ _ _
  · refine gives_bind fun _ _ => gives_ite gives_none (gives_bind fun _ _ => ?_)
    exact gives_readScaled _ _ _ _ _

theorem gives_readTextNumber (s : List Char) : Gives Keyed (readTextNumber s) := by
  have hend : ∀ r : Value × List Char, Keyed r →
      Gives Keyed (if endsNumber r.2 then some r else none) :=
    fun _ hr => gives_ite (gives_some hr) gives_none
  unfold readTextNumber
  dsimp only
  split
  · exact gives_bind fun r hr => hend r (gives_readUnsigned _ _ r hr)
  · exact gives_bind fun r hr => hend r (gives_readUnsigned _ _ r hr)

theorem gives_readTextTimestamp (s : List Char) : Gives Keyed (readTextTimestamp s) := by
  have hfinish : ∀ (d : Date) (c : TimeOfDay) (zone : Option Int) (rest : List Char),
      Gives Keyed (do
        let t ← Timestamp.ofParts? d c zone
        if endsNumber rest then return (Value.timestamp t, rest) else none) :=
    fun _ _ _ _ => gives_bind fun _ _ => gives_ite (gives_some (.scalar rfl)) gives_none
  unfold readTextTimestamp
  refine gives_bind fun _ _ => ?_
  dsimp only
  split
  · exact hfinish _ _ _ _
  · refine gives_bind fun _ _ => gives_bind fun _ _ => ?_
    split
    · exact hfinish _ _ _ _
    · refine gives_bind fun _ _ => gives_bind fun _ _ => ?_
      split
      · refine gives_ite ?_ (hfinish _ _ _ _)
        refine gives_bind fun _ _ => gives_bind fun _ _ => gives_bind fun _ _ => ?_
        split
        · refine gives_bind fun _ _ => gives_bind fun _ _ => gives_bind fun _ _ => ?_
          exact gives_bind fun _ _ => hfinish _ _ _ _
        · exact gives_bind fun _ _ => gives_bind fun _ _ => hfinish _ _ _ _
      · exact hfinish _ _ _ _
      · exact hfinish _ _ _ _

theorem gives_readBlob (s : List Char) : Gives Keyed (readBlob s) := by
  unfold readBlob
  dsimp only
  split
  · apply gives_ite
    · split
      · exact gives_some (.scalar rfl)
      · exact gives_none
    · exact gives_none
  · exact gives_none

theorem gives_readClob (s : List Char) : Gives Keyed (readClob s) := by
  unfold readClob
  dsimp only
  split
  all_goals
    refine gives_bind fun r _ => ?_
    obtain ⟨chars, rest⟩ := r
    dsimp only
    split
    · exact gives_bind fun _ _ => gives_some (.scalar rfl)
    · exact gives_none

theorem gives_readNamed (table : List String) (s : List Char) :
    Gives Keyed (readNamed table s) := by
  unfold readNamed
  refine gives_ite ?_
    (gives_ite (gives_some (.scalar rfl)) (gives_ite (gives_some (.scalar rfl)) ?_))
  · split
    · exact gives_ite (gives_some (.scalar rfl)) gives_none
    · exact gives_some (.scalar rfl)
  · exact gives_ite (gives_some (.scalar rfl)) (gives_bind fun _ _ => gives_some (.scalar rfl))

/-- The fields of a struct are named by the texts in front of their colons. -/
theorem gives_readTextFields (table : List String) (fuel : Nat) (s : List Char) :
    Gives (fun r => Fields.HaveTextKeys r.1) (readTextFields table fuel s) := by
  induction fuel generalizing s with
  | zero => exact gives_none
  | succ fuel ih =>
    unfold readTextFields
    split
    · exact gives_some haveTextKeys_nil
    · refine gives_bind fun _ _ => gives_bind fun _ _ => gives_bind fun _ _ => ?_
      refine gives_bind fun _ _ => ?_
      split
      · exact gives_some (haveTextKeys_cons haveTextKeys_nil)
      · refine gives_bind fun _ _ => gives_bind fun r hfields => ?_
        exact gives_some (haveTextKeys_cons (ih _ r hfields))
      · exact gives_none

/-- The value behind its annotations has no field that is not named by a text. -/
def Annotated (r : List String × Value × List Char) : Prop := r.2.1.TextKeyed

theorem gives_readTextValue (table : List String) (inner : Bool) (fuel : Nat) (s : List Char) :
    Gives Annotated (readTextValue table inner fuel s) := by
  induction fuel generalizing s with
  | zero => exact gives_none
  | succ fuel ih =>
    unfold readTextValue
    split
    · exact gives_none
    · dsimp only
      split
      · exact gives_bind fun r hr => gives_some (gives_readClob _ r hr)
      · exact gives_bind fun r hr => gives_some (gives_readClob _ r hr)
      · exact gives_bind fun r hr => gives_some (gives_readBlob _ r hr)
    · refine gives_bind fun _ _ => gives_bind fun r hfields => gives_some ?_
      exact Value.TextKeyed.map (gives_readTextFields _ _ _ r hfields).ofPairs
    · exact gives_bind fun _ _ => gives_bind fun _ _ => gives_some (.scalar rfl)
    · exact gives_bind fun _ _ => gives_bind fun _ _ => gives_some (.scalar rfl)
    · exact gives_bind fun _ _ => gives_some (.scalar rfl)
    · exact gives_bind fun _ _ => gives_some (.scalar rfl)
    · refine gives_bind fun _ _ => ?_
      dsimp only
      split
      · exact gives_bind fun _ _ => gives_bind fun r hr => gives_some (ih _ r hr)
      · exact gives_some (.scalar rfl)
    · refine gives_ite ?_ (gives_ite ?_ (gives_ite (gives_some (.scalar rfl)) (gives_ite ?_ ?_)))
      · refine gives_bind fun r hr => ?_
        obtain ⟨v, isSymbol, rest⟩ := r
        have hnamed := gives_readNamed _ _ _ hr
        dsimp only
        split
        · exact gives_bind fun _ _ => gives_bind fun r hr => gives_some (ih _ r hr)
        · exact gives_some hnamed
      · dsimp only
        split
        · exact gives_bind fun r hr => gives_some (gives_readTextTimestamp _ r hr)
        · exact gives_bind fun r hr => gives_some (gives_readTextNumber _ r hr)
      · exact gives_bind fun r hr => gives_some (gives_readTextNumber _ r hr)
      · exact gives_ite (gives_some (.scalar rfl)) gives_none

/-- The values of a stream name their fields by texts. -/
theorem gives_readTextStream (table : List String) (fuel : Nat) (s : List Char) :
    Gives (fun values => ∀ v ∈ values, v.TextKeyed) (readTextStream table fuel s) := by
  induction fuel generalizing table s with
  | zero => exact gives_none
  | succ fuel ih =>
    rw [readTextStream]
    refine gives_bind fun _ _ => gives_ite (gives_some (List.forall_mem_nil _)) ?_
    refine gives_bind fun r hv => ?_
    obtain ⟨names, v, rest⟩ := r
    have hkeyed := gives_readTextValue _ _ _ _ _ hv
    dsimp only
    split
    · exact ih _ _
    · exact ih _ _
    · refine gives_bind fun tail htail => gives_some ?_
      exact List.forall_mem_cons.2 ⟨hkeyed, ih _ _ tail htail⟩

end Text

/-! ### Documents -/

namespace Object

theorem haveTextKeys_plainFields {fields : Fields} (h : fields.HaveTextKeys) :
    Fields.HaveTextKeys (plainFields (ofFields fields)) := by
  induction fields with
  | nil => exact haveTextKeys_nil
  | cons p rest ih =>
    obtain ⟨k, v⟩ := p
    obtain ⟨⟨name, rfl⟩, hrest⟩ := List.forall_mem_cons.1 h
    rw [ofFields, plainFields]
    exact List.forall_mem_cons.2 ⟨⟨name, rfl⟩, ih hrest⟩

/-- The names of fields stay as they are read. -/
theorem textKeyed_plain {v : Value} (h : v.TextKeyed) : ((ofValue v).plain).TextKeyed := by
  cases v with
  | map fields =>
    have hfields := haveTextKeys_plainFields (h fields rfl)
    rw [ofValue, plain]
    exact Value.TextKeyed.map hfields.ofPairs
  | _ => exact .scalar rfl

end Object

end Ion

namespace Encoding

theorem textKeyed_of_single {values : List Value} (h : ∀ v ∈ values, v.TextKeyed) {v : Value}
    (hv : single values = .ok v) : v.TextKeyed := by
  cases values with
  | nil =>
    cases hv
    exact .scalar rfl
  | cons w rest =>
    cases rest with
    | nil =>
      cases hv
      exact h _ List.mem_cons_self
    | cons _ _ => cases hv

theorem textKeyed_of_parseIon {body : Bytes} {v : Value} (h : parseIon body = .ok v) :
    v.TextKeyed := by
  obtain ⟨w, hw, hv⟩ := bind_eq_ok.1 h
  obtain rfl := Except.ok.inj hv
  apply Ion.Object.textKeyed_plain
  unfold readIon at hw
  split at hw
  · obtain ⟨values, hvalues, hw⟩ := bind_eq_ok.1 hw
    exact textKeyed_of_single (Ion.gives_readStream _ _ _ _ (codecResult_eq_ok.1 hvalues)) hw
  · split at hw
    · cases hw
    · obtain ⟨values, hvalues, hw⟩ := bind_eq_ok.1 hw
      exact textKeyed_of_single
        (Ion.Text.gives_readTextStream _ _ _ _ (codecResult_eq_ok.1 hvalues)) hw

/-- **A document names its fields by texts** in every encoding but CBOR. -/
theorem textKeyed_of_parse {e : Encoding} (he : e ≠ cbor) {body : Bytes} {v : Value}
    (h : e.parse body = .ok v) : v.TextKeyed := by
  cases e with
  | json =>
    intro fields hv
    subst hv
    obtain ⟨pairs, rfl, -⟩ := Json.textFields_of_held (held_of_parse_json h)
    exact List.forall_mem_map.2 fun p _ => ⟨p.1, rfl⟩
  | cbor => exact absurd rfl he
  | ionText => exact textKeyed_of_parseIon h
  | ionBinary => exact textKeyed_of_parseIon h

/-- An empty body has no fields in any encoding. -/
theorem parse_nil_ne_map (e : Encoding) (fields : Fields) : e.parse [] ≠ .ok (.map fields) := by
  have hdecode : Utf8.decode [] = .ok (String.ofList []) := Utf8.decode_encodeChars []
  have hion : parseIon [] = .ok .null := by
    have hmarker : Ion.versionMarker.isPrefixOf ([] : Bytes) = false := rfl
    unfold parseIon readIon
    rw [hmarker, if_neg (by decide), hdecode]
    rfl
  intro h
  cases e with
  | json => exact parse_json_nil _ h
  | cbor => cases h
  | ionText =>
    rw [parse, hion] at h
    cases h
  | ionBinary =>
    rw [parse, hion] at h
    cases h

end Encoding

end ServiceClient
