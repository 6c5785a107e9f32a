import ServiceClient.BodyWriter
import ServiceClient.Proofs.CborWritten
import ServiceClient.Proofs.IonBinaryReading
import ServiceClient.Proofs.IonTextReading
import ServiceClient.Proofs.JsonWritten
import ServiceClient.Proofs.Tree

/-!
# Bodies that a writer gives are read

A writer collects the values that it is called with, each as its encoding holds it. What it gives
as a body at the end is read in the same encoding, whatever the calls were, as long as the encoding
can show the timestamps among the values.

* `Encoding.parse_of_encode`: an encoded document is read.
* `Json.given_of_read`: the values of JSON texts hold no timestamps.
* `Document.Shows.perform`: a call keeps the values of a document such that they can be shown.
* `BodyWriter.parse_of_bytes`: the body that a writer gives is read.
-/

namespace ServiceClient

namespace Encoding

/-- The timestamps inside of sets and keys that an encoding can show: CBOR needs offsets in whole
minutes, and Ion writes none of them. -/
def FixedTime : Encoding → Timestamp → Prop
  | cbor => Cbor.ShowsOffset
  | _ => fun _ => True

/-- The timestamps of a document that an encoding can show elsewhere. -/
def FreeTime : Encoding → Timestamp → Prop
  | json => fun _ => True
  | cbor => Cbor.ShowsOffset
  | ionText => Ion.Text.ShowsClock
  | ionBinary => Ion.ShowsUtc

/-- The timestamps that a writer can be given: JSON and CBOR make numbers of them, Ion reads a
clock without an offset as UTC. -/
def GivenTime (e : Encoding) (t : Timestamp) : Prop :=
  match e with
  | json | cbor => True
  | ionText | ionBinary => e.FreeTime t.aware

/-- A document whose timestamps the encoding can show. -/
def Holds (e : Encoding) (v : Value) : Prop := Value.Given e.FixedTime e.FreeTime v

/-- A value that a caller gives, and that the encoding can show. -/
def Admits (e : Encoding) (v : Value) : Prop := Value.Given e.FixedTime e.GivenTime v

/-- A field name that the encoding can show. -/
def Names (e : Encoding) (k : Value) : Prop := Value.Given e.FixedTime e.FixedTime k

/-- The only value of a stream of at most one. -/
theorem single_of_length {values : List Value} (h : values.length ≤ 1) :
    ∃ v, single values = .ok v := by
  match values, h with
  | [], _ => exact ⟨_, rfl⟩
  | [v], _ => exact ⟨v, rfl⟩

theorem codecResult_eq_ok {α : Type} {r : Option α} {x : α} :
    codecResult r = .ok x ↔ r = some x := by
  unfold codecResult
  cases r with
  | none => exact ⟨fun h => (by cases h), fun h => (by cases h)⟩
  | some y => exact ⟨fun h => congrArg some (Except.ok.inj h), fun h => (by cases h; rfl)⟩

/-- A text that starts with a dollar sign is not taken for a binary document. -/
theorem not_marker_encode {text : String} (h : ∃ tail, text.toList = '$' :: tail) :
    Ion.versionMarker.isPrefixOf (Utf8.encode text) = false := by
  obtain ⟨tail, htail⟩ := h
  have hbytes : Utf8.encode text = 0x24 :: Utf8.encodeChars tail := by
    unfold Utf8.encode
    rw [htail]
    rfl
  rw [hbytes]
  rfl

/-- **An encoded document is read**, in JSON without any condition on it. -/
theorem parse_of_encode {e : Encoding} {v : Value} {body : Bytes} (h : e ≠ json → e.Holds v)
    (hbody : e.encode v = .ok body) : ∃ w, e.parse body = .ok w := by
  cases e with
  | json =>
    obtain ⟨cs, hprint, hbody⟩ := bind_eq_ok.1 hbody
    obtain rfl := Except.ok.inj hbody
    obtain ⟨w, hread⟩ := Json.read_of_print (mapError_eq_ok.1 hprint)
    exact ⟨w, parse_json_of_read hread⟩
  | cbor =>
    obtain ⟨w, hread⟩ :=
      Cbor.read_of_write (h (by decide)) (fun _ ht => ht) (codecResult_eq_ok.1 hbody)
    exact ⟨w, codecResult_eq_ok.2 hread⟩
  | ionText =>
    obtain ⟨text, htext, hbody⟩ := bind_eq_ok.1 hbody
    obtain rfl := Except.ok.inj hbody
    obtain ⟨hdollar, values, hread, hone⟩ := Ion.Text.readText_of_write (h (by decide))
      (fun _ ht => ht) (codecResult_eq_ok.1 htext)
    -- the text starts with a dollar sign, so it is not taken for the binary form
    obtain ⟨w, hw⟩ := single_of_length hone
    refine ⟨_, bind_eq_ok.2 ⟨w, ?_, rfl⟩⟩
    unfold readIon
    rw [not_marker_encode hdollar, if_neg (by decide), Utf8.decode_encode]
    exact bind_eq_ok.2 ⟨values, codecResult_eq_ok.2 hread, hw⟩
  | ionBinary =>
    obtain ⟨⟨tail, rfl⟩, w, hread⟩ := Ion.readBinary_of_write (h (by decide)) (fun _ ht => ht)
      (codecResult_eq_ok.1 hbody)
    have hmarker : Ion.versionMarker.isPrefixOf (Ion.versionMarker ++ tail) = true := rfl
    refine ⟨_, bind_eq_ok.2 ⟨w, ?_, rfl⟩⟩
    unfold readIon
    rw [if_pos hmarker]
    exact bind_eq_ok.2 ⟨[w], codecResult_eq_ok.2 hread, rfl⟩

/-- A scalar that is given is held as the encoding converts it. -/
theorem holds_convert {e : Encoding} {v : Value} (h : e.Admits v) (hv : v.isScalar = true) :
    e.Holds (e.convert v) := by
  cases h with
  | null => cases hv
  | bool b => cases e <;> exact .bool b
  | int n => cases e <;> exact .int n
  | double d => cases e <;> exact .double d
  | decimal d =>
    cases e with
    | json => exact .double _
    | cbor => exact .decimal d
    | ionText => exact .decimal d
    | ionBinary => exact .decimal d
  | text s => cases e <;> exact .text s
  | loose t => cases e <;> exact .loose t
  | symbol s => cases e <;> exact .symbol s
  | bytes kind s =>
    cases e with
    | json => exact .text _
    | cbor => exact .bytes .fixed s
    | ionText => exact .bytes .fixed s
    | ionBinary => exact .bytes .fixed s
  | timestamp ht =>
    cases e with
    | json => exact .double _
    | cbor => exact .int _
    | ionText => exact .timestamp ht
    | ionBinary => exact .timestamp ht
  | list _ => cases hv
  | tuple _ => cases hv
  | set hs => cases e <;> exact .set hs
  | map _ _ => cases hv

end Encoding

/-! ### Values of JSON texts -/

namespace Json

variable {fixed free : Timestamp → Prop}

theorem given_ofText (t : Text) : Value.Given fixed free (.ofText t) := by
  rcases Value.ofText_cases t with ⟨s, -, h⟩ | ⟨l, -, h⟩ <;> rw [h]
  · exact .text s
  · exact .loose l

theorem given_of_isRead {v : Value} (h : IsRead v) : Value.Given fixed free v := by
  cases v with
  | bool b => exact .bool b
  | int n => exact .int n
  | double d => exact .double d
  | text s => exact .text s
  | loose t => exact .loose t
  | _ => exact False.elim h

/-- **The values of JSON texts hold neither timestamps nor tags.** -/
theorem given_of_read {t : Text} {v : Value} (h : read t = .ok v) : Value.Given fixed free v := by
  have hheld : v.Held (Value.Given fixed free) :=
    held_of_readChars ⟨fun _ => given_ofText _, fun _ => given_of_isRead⟩ (mapError_eq_ok.1 h)
  clear h
  induction hheld with
  | null => exact .null
  | scalar _ h => exact h
  | list _ ih => exact .list ih
  | map _ _ _ ih =>
    exact .map (List.forall_mem_map.2 fun p _ => given_ofText p.1) (List.forall_mem_map.2 ih)

end Json

/-! ### Documents under construction -/

/-- The content of an open container can be shown. -/
def Frame.Shows (e : Encoding) : Frame → Prop
  | .object fields => ∀ p ∈ fields, e.Names p.1 ∧ e.Holds p.2
  | .array items => ∀ v ∈ items, e.Holds v

namespace Document

/-- Everything in a document can be shown, the field names that wait included. -/
structure Shows (e : Encoding) (d : Document) : Prop where
  root : ∀ v, d.root = some v → e.Holds v
  frames : ∀ f ∈ d.frames, (∀ k, f.1 = some k → e.Names k) ∧ f.2.Shows e
  pending : ∀ k, d.pending = some k → e.Names k

variable {e : Encoding} {d d' : Document} {name : Option Value} {v : Value}

theorem shows_empty (e : Encoding) : empty.Shows e :=
  ⟨fun _ h => (by cases h), List.forall_mem_nil _, fun _ h => (by cases h)⟩

theorem Shows.place (h : d.Shows e) (hp : d.place = .ok (name, d')) :
    d'.Shows e ∧ ∀ k, name = some k → e.Names k := by
  unfold Document.place at hp
  split at hp
  · split at hp
    · cases hp
    · cases hp
      exact ⟨h, fun k hk => (by cases hk)⟩
  · cases hp
    exact ⟨h, fun k hk => (by cases hk)⟩
  · split at hp
    · cases hp
    · rename_i k hpending
      split at hp
      · cases hp
        refine ⟨⟨h.root, h.frames, fun k hk => (by cases hk)⟩, fun k' hk => ?_⟩
        obtain rfl := Option.some.inj hk
        exact h.pending _ hpending
      · cases hp

theorem Shows.attach (h : d.Shows e) (hname : ∀ k, name = some k → e.Names k) (hv : e.Holds v) :
    (d.attach name v).Shows e := by
  have hkey : e.Names (name.getD .null) := by
    cases name with
    | none => exact .null
    | some k => exact hname k rfl
  have hframes := h.frames
  unfold Document.attach
  split
  · refine ⟨fun w hw => ?_, h.frames, h.pending⟩
    obtain rfl := Option.some.inj hw
    exact hv
  · rename_i outer items rest heq
    rw [heq, List.forall_mem_cons] at hframes
    refine ⟨h.root, ?_, h.pending⟩
    rw [List.forall_mem_cons]
    refine ⟨⟨hframes.1.1, fun w hw => ?_⟩, hframes.2⟩
    rcases List.mem_append.1 hw with hw | hw
    · exact hframes.1.2 w hw
    · rw [List.mem_singleton.1 hw]
      exact hv
  · rename_i outer fields rest heq
    rw [heq, List.forall_mem_cons] at hframes
    refine ⟨h.root, ?_, h.pending⟩
    rw [List.forall_mem_cons]
    exact ⟨⟨hframes.1.1, Fields.forall_put hkey hv hframes.1.2⟩, hframes.2⟩

theorem Shows.add (h : d.Shows e) (hv : e.Holds v) (hadd : d.add v = .ok d') : d'.Shows e := by
  obtain ⟨⟨name, placed⟩, hplace, hadd⟩ := bind_eq_ok.1 hadd
  obtain ⟨hplaced, hname⟩ := h.place hplace
  obtain rfl := Except.ok.inj hadd
  exact hplaced.attach hname hv

theorem Shows.startObject (h : d.Shows e) (hstart : d.startObject = .ok d') : d'.Shows e := by
  obtain ⟨⟨name, placed⟩, hplace, hstart⟩ := bind_eq_ok.1 hstart
  obtain ⟨hplaced, hname⟩ := h.place hplace
  obtain rfl := Except.ok.inj hstart
  exact ⟨hplaced.root, List.forall_mem_cons.2 ⟨⟨hname, List.forall_mem_nil _⟩, hplaced.frames⟩,
    hplaced.pending⟩

theorem Shows.startArray (h : d.Shows e) (hstart : d.startArray = .ok d') : d'.Shows e := by
  obtain ⟨⟨name, placed⟩, hplace, hstart⟩ := bind_eq_ok.1 hstart
  obtain ⟨hplaced, hname⟩ := h.place hplace
  obtain rfl := Except.ok.inj hstart
  exact ⟨hplaced.root, List.forall_mem_cons.2 ⟨⟨hname, List.forall_mem_nil _⟩, hplaced.frames⟩,
    hplaced.pending⟩

theorem Shows.endObject (h : d.Shows e) (hend : d.endObject = .ok d') : d'.Shows e := by
  have hframes := h.frames
  unfold Document.endObject at hend
  split at hend
  · rename_i name fields rest heq
    rw [heq, List.forall_mem_cons] at hframes
    obtain rfl := Except.ok.inj hend
    have hinner : Shows e { d with frames := rest } := ⟨h.root, hframes.2, h.pending⟩
    have hmap : e.Holds (.map fields) :=
      .map (fun p hp => (hframes.1.2 p hp).1) (fun p hp => (hframes.1.2 p hp).2)
    exact hinner.attach hframes.1.1 hmap
  · cases hend

theorem Shows.endArray (h : d.Shows e) (hend : d.endArray = .ok d') : d'.Shows e := by
  have hframes := h.frames
  unfold Document.endArray at hend
  split at hend
  · rename_i name items rest heq
    rw [heq, List.forall_mem_cons] at hframes
    obtain rfl := Except.ok.inj hend
    have hinner : Shows e { d with frames := rest } := ⟨h.root, hframes.2, h.pending⟩
    exact hinner.attach hframes.1.1 (.list hframes.1.2)
  · cases hend

theorem Shows.fieldName {k : Value} (h : d.Shows e) (hk : e.Names k)
    (hname : d.fieldName k = .ok d') : d'.Shows e := by
  unfold Document.fieldName at hname
  split at hname
  · obtain rfl := Except.ok.inj hname
    refine ⟨h.root, h.frames, fun k' hk' => ?_⟩
    split at hk'
    · cases hk'
    · obtain rfl := Option.some.inj hk'
      exact hk
  · cases hname

/-- Items are written one after the other. -/
theorem Shows.writeItems {items : List Value}
    (hw : ∀ v ∈ items, ∀ d d' : Document, d.Shows e → d.write e.convert v = .ok d' → d'.Shows e)
    (h : d.Shows e) (hok : d.writeItems e.convert items = .ok d') : d'.Shows e := by
  induction items generalizing d with
  | nil =>
    rw [Document.writeItems] at hok
    obtain rfl := Except.ok.inj hok
    exact h
  | cons v rest ih =>
    rw [List.forall_mem_cons] at hw
    rw [Document.writeItems] at hok
    obtain ⟨d₁, hfirst, hok⟩ := bind_eq_ok.1 hok
    exact ih hw.2 (hw.1 d d₁ h hfirst) hok

/-- Fields are written one after the other, those that are null left out. -/
theorem Shows.writeFields {fields : Fields} (hk : ∀ p ∈ fields, e.Names p.1)
    (hw : ∀ p ∈ fields, ∀ d d' : Document, d.Shows e → d.write e.convert p.2 = .ok d' →
      d'.Shows e)
    (h : d.Shows e) (hok : d.writeFields e.convert fields = .ok d') : d'.Shows e := by
  induction fields generalizing d with
  | nil =>
    rw [Document.writeFields] at hok
    obtain rfl := Except.ok.inj hok
    exact h
  | cons p rest ih =>
    obtain ⟨k, v⟩ := p
    rw [List.forall_mem_cons] at hk hw
    -- a field that is null is passed over, its name too
    by_cases hnull : v = .null
    · rw [hnull, Document.writeFields] at hok
      exact ih hk.2 hw.2 h hok
    · rw [Document.writeFields] at hok
      · obtain ⟨d₁, hname, hok⟩ := bind_eq_ok.1 hok
        obtain ⟨d₂, hvalue, hok⟩ := bind_eq_ok.1 hok
        exact ih hk.2 hw.2 (hw.1 d₁ d₂ (h.fieldName hk.1 hname) hvalue) hok
      · exact hnull

/-- **A value that is given is written** such that it can be shown. -/
theorem Shows.write (hv : e.Admits v) : ∀ d d' : Document, d.Shows e →
    d.write e.convert v = .ok d' → d'.Shows e := by
  have hscalar : ∀ w, e.Admits w → w.isScalar = true → ∀ d d' : Document, d.Shows e →
      d.write e.convert w = .ok d' → d'.Shows e := by
    intro w hw hs d d' h hok
    rw [write_scalar hs] at hok
    exact h.add (Encoding.holds_convert hw hs) hok
  -- which timestamps are given depends on the encoding; a name for them lets the induction run
  obtain ⟨given, hgiven⟩ : ∃ given, e.GivenTime = given := ⟨_, rfl⟩
  unfold Encoding.Admits at hv
  rw [hgiven] at hv
  induction hv with
  | null =>
    intro d d' h hok
    rw [write_null] at hok
    exact h.add .null hok
  | bool b => exact hscalar _ (.bool b) rfl
  | int n => exact hscalar _ (.int n) rfl
  | double d => exact hscalar _ (.double d) rfl
  | decimal d => exact hscalar _ (.decimal d) rfl
  | text s => exact hscalar _ (.text s) rfl
  | loose t => exact hscalar _ (.loose t) rfl
  | symbol s => exact hscalar _ (.symbol s) rfl
  | bytes kind s => exact hscalar _ (.bytes kind s) rfl
  | timestamp ht =>
    rw [← hgiven] at ht
    exact hscalar _ (.timestamp ht) rfl
  | set hs _ => exact hscalar _ (.set hs) rfl
  | list _ ih =>
    intro d d' h hok
    rw [Document.write] at hok
    obtain ⟨d₁, hstart, hok⟩ := bind_eq_ok.1 hok
    obtain ⟨d₂, hitems, hok⟩ := bind_eq_ok.1 hok
    exact ((h.startArray hstart).writeItems (fun v hv => ih v hv hgiven) hitems).endArray hok
  | tuple _ ih =>
    intro d d' h hok
    rw [Document.write] at hok
    obtain ⟨d₁, hstart, hok⟩ := bind_eq_ok.1 hok
    obtain ⟨d₂, hitems, hok⟩ := bind_eq_ok.1 hok
    exact ((h.startArray hstart).writeItems (fun v hv => ih v hv hgiven) hitems).endArray hok
  | map hk _ _ ih =>
    intro d d' h hok
    rw [Document.write] at hok
    obtain ⟨d₁, hstart, hok⟩ := bind_eq_ok.1 hok
    obtain ⟨d₂, hfields, hok⟩ := bind_eq_ok.1 hok
    exact ((h.startObject hstart).writeFields hk (fun p hp => ih p hp hgiven) hfields).endObject hok

/-- A call with what a caller gives. -/
def Call.Admits (e : Encoding) : Call → Prop
  | .fieldName k => e.Names k
  | .value v => e.Admits v
  | _ => True

/-- **A call keeps what a document holds such that it can be shown.** -/
theorem Shows.perform {c : Call} (hc : c.Admits e) (h : d.Shows e)
    (hok : d.perform e.convert c = .ok d') : d'.Shows e := by
  cases c with
  | startObject => exact h.startObject hok
  | endObject => exact h.endObject hok
  | startArray => exact h.startArray hok
  | endArray => exact h.endArray hok
  | fieldName k => exact h.fieldName hc hok
  | value v => exact Shows.write hc d d' h hok

end Document

namespace BodyWriter

/-- A writer of an encoding whose document can be shown, in JSON whatever it holds, or a silent
one. -/
def Shows (e : Encoding) : BodyWriter → Prop
  | .document encoding d => encoding = e ∧ (e ≠ .json → d.Shows e)
  | .silent => True

theorem Shows.perform {e : Encoding} {w w' : BodyWriter} {c : Document.Call}
    (hc : e ≠ .json → c.Admits e) (h : w.Shows e) (hok : w.perform c = (.ok (), w')) :
    w'.Shows e := by
  unfold BodyWriter.perform at hok
  split at hok
  · rw [← (Prod.mk.inj hok).2]
    trivial
  · rename_i encoding d
    obtain ⟨rfl, hd⟩ := h
    split at hok
    · rename_i d' hd'
      rw [← (Prod.mk.inj hok).2]
      exact ⟨rfl, fun hjson => (hd hjson).perform (hc hjson) hd'⟩
    · cases (Prod.mk.inj hok).1

/-- **The body that a writer gives is read**, if there is one. -/
theorem parse_of_bytes {e : Encoding} {w : BodyWriter} (h : w.Shows e) {body : Bytes}
    (hbody : w.bytes = .ok body) (hne : body ≠ []) : ∃ v, e.parse body = .ok v := by
  unfold bytes at hbody
  split at hbody
  · exact absurd (Except.ok.inj hbody).symm hne
  · rename_i encoding d
    obtain ⟨rfl, hd⟩ := h
    split at hbody
    · cases hbody
    · exact absurd (Except.ok.inj hbody).symm hne
    · rename_i v hfinished
      have hroot : d.root = some v := by
        unfold Document.finished? at hfinished
        split at hfinished
        · exact Except.ok.inj hfinished
        · cases hfinished
      exact Encoding.parse_of_encode (fun hjson => (hd hjson).root v hroot) hbody

end BodyWriter

end ServiceClient
