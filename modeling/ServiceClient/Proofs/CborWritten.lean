import ServiceClient.Proofs.CborReading
import ServiceClient.Proofs.GivenValues
import ServiceClient.Proofs.TimestampText

/-!
# Every item of CBOR that is written is read

A value need not be a document that CBOR holds as it is: it may be a double or a decimal, a set,
a timestamp, or a map with keys of any kind. Whatever is written is well formed, so that it is
read as some value.

* `readsAs_double`, `readsAs_decimal`, `readsAs_timestamp`: the tagged and the fixed forms.
* `readsAs_written`: the bytes of any value are read, whatever follows.
-/

namespace ServiceClient.Cbor

/-- What is written of a timestamp with an offset can be read if the clock shows a year of four
digits and the offset is less than a day and in whole minutes. -/
def ShowsOffset (t : Timestamp) : Prop :=
  t.inRange = true ∧ ∀ o, t.offset = some o → o.natAbs < 86400 ∧ o % 60 = 0

/-- A number of major type 7 is read from the bytes behind its first one. -/
theorem readsAs_float {info width n : Nat} (hi : 24 ≤ info ∧ info ≤ 27)
    (hw : width = 2 ^ (info - 24)) (hn : n < 256 ^ width) {v : Value}
    (hv : readSimple info (.value n) = some v) :
    ReadsAs (initial 7 info :: bigEndian width n) v := by
  obtain ⟨hmajor, hinfo⟩ := initial_parts (show 7 < 8 by decide) (show info < 32 by omega)
  refine ⟨List.cons_ne_nil _ _, fun fuel rest hfuel => ?_⟩
  obtain ⟨k, rfl⟩ : ∃ k, fuel = k + 1 := ⟨fuel - 1, by rw [List.length_cons] at hfuel; omega⟩
  have htake := takeBytes?_append (bigEndian width n) rest
  rw [length_bigEndian] at htake
  have hread : readArgument info (bigEndian width n ++ rest) = some (.value n, rest) := by
    rw [readArgument, if_neg (by omega), if_pos hi.2, ← hw, htake]
    show some (Argument.value (ofBigEndian (bigEndian width n)), rest) = _
    rw [ofBigEndian_bigEndian hn]
  rw [List.cons_append, readValue]
  simp [hinfo, hread, hmajor, hv]

/-- **A double is read**, whether it is a number, an infinity or none. -/
theorem readsAs_double (d : Double) : ∃ v, ReadsAs (writeDouble d) v := by
  unfold writeDouble
  split
  · exact ⟨_, readsAs_float (n := 0x7e00) (show 24 ≤ 25 ∧ 25 ≤ 27 by decide) rfl (by decide) rfl⟩
  split
  · -- an infinity, whose sign is the highest bit of its second byte
    by_cases hsign : d.isNegative = true
    · rw [if_pos hsign]
      exact ⟨_, readsAs_float (n := 0xfc00) (show 24 ≤ 25 ∧ 25 ≤ 27 by decide) rfl (by decide) rfl⟩
    · rw [if_neg hsign]
      exact ⟨_, readsAs_float (n := 0x7c00) (show 24 ≤ 25 ∧ 25 ≤ 27 by decide) rfl (by decide) rfl⟩
  · have hbits : d.bits.toNat < 256 ^ 8 := d.bits.toNat_lt
    exact ⟨_, readsAs_float (show 24 ≤ 27 ∧ 27 ≤ 27 by decide) rfl hbits rfl⟩

/-- **A decimal is read** from its exponent and its coefficient. -/
theorem readsAs_decimal {d : Decimal} {bytes : Bytes} (hw : writeDecimal d = some bytes) :
    ∃ v, ReadsAs bytes v := by
  cases d with
  | finite negative c e =>
    unfold writeDecimal at hw
    obtain ⟨tag, htag, hw⟩ := Option.bind_eq_some_iff.1 hw
    obtain ⟨front, hfront, hw⟩ := Option.bind_eq_some_iff.1 hw
    obtain ⟨exponent, hexponent, hw⟩ := Option.bind_eq_some_iff.1 hw
    obtain ⟨coefficient, hcoefficient, hw⟩ := Option.bind_eq_some_iff.1 hw
    obtain ⟨m, hm⟩ : ∃ m, m = (Decimal.finite negative c e).signedCoefficient := ⟨_, rfl⟩
    rw [← hm] at hcoefficient
    cases hw
    -- the two numbers are the items of a list
    have hitems : writeItems [.int e, .int m] = some (exponent ++ (coefficient ++ [])) := by
      simp [writeItems, write, hexponent, hcoefficient]
    have hints : ∀ v ∈ [Value.int e, .int m], ∀ bytes, write v = some bytes →
        ∃ w, v = w ∧ ReadsAs bytes w := by
      intro v hv bytes hw
      refine ⟨v, rfl, ?_⟩
      rcases List.mem_cons.1 hv with rfl | hv
      · rw [write] at hw
        exact readsAs_int hw
      · rw [List.mem_singleton.1 hv, write] at hw
        rw [List.mem_singleton.1 hv]
        exact readsAs_int hw
    obtain ⟨read, hreads, hread⟩ := readsAs_list hints hfront hitems
    rw [List.forall₂_eq_eq_eq] at hreads
    rw [← hreads] at hread
    have hvalue : untag 4 (.list [.int e, .int m]) =
        some (.decimal (.finite (m < 0) m.natAbs e)) := rfl
    have htagged := readsAs_tag (announces_head (by decide) htag) hread hvalue
    rw [List.append_nil, ← List.append_assoc, ← List.append_assoc] at htagged
    exact ⟨_, htagged⟩
  | infinity negative =>
    unfold writeDecimal at hw
    cases hw
    exact readsAs_double _
  | nan =>
    unfold writeDecimal at hw
    cases hw
    exact readsAs_double _

/-- **A timestamp is read back** from its text under a tag. -/
theorem readsAs_timestamp {t : Timestamp} (h : ShowsOffset t) {bytes : Bytes}
    (hw : writeTimestamp t = some bytes) : ReadsAs bytes (.timestamp t) := by
  obtain ⟨hrange, hoffset⟩ := h
  unfold writeTimestamp at hw
  split at hw
  · cases hw
  · rename_i o ho
    obtain ⟨hday, hwhole⟩ := hoffset o ho
    obtain ⟨tag, htag, hw⟩ := Option.bind_eq_some_iff.1 hw
    obtain ⟨text, htext, hw⟩ := Option.bind_eq_some_iff.1 hw
    cases hw
    refine readsAs_tag (announces_head (by decide) htag) (readsAs_text htext) ?_
    have hread : Timestamp.ofInternetText?
        (if o = 0 then (Timestamp.mk t.clock none).isoText ++ "Z" else t.isoText) = some t := by
      split
      · rename_i hzero
        rw [hzero] at ho
        exact Timestamp.ofInternetText?_universal hrange ho
      · exact Timestamp.ofInternetText?_isoText hrange ho hday hwhole
    show ((Timestamp.ofInternetText? _).map Value.timestamp) = _
    rw [hread]
    rfl

/-- **The bytes of a value that a caller gives are read**, whatever follows. -/
theorem readsAs_written {free : Timestamp → Prop} {v : Value} (h : Value.Given ShowsOffset free v) :
    (∀ t, free t → ShowsOffset t) →
      ∀ bytes, write v = some bytes → ∃ w, True ∧ ReadsAs bytes w := by
  induction h with
  | null =>
    intro _ bytes hw
    rw [write] at hw
    cases hw
    exact ⟨_, trivial, readsAs_null⟩
  | bool b =>
    intro _ bytes hw
    rw [write] at hw
    cases hw
    exact ⟨_, trivial, readsAs_bool b⟩
  | int n =>
    intro _ bytes hw
    rw [write] at hw
    exact ⟨_, trivial, readsAs_int hw⟩
  | double d =>
    intro _ bytes hw
    rw [write] at hw
    cases hw
    obtain ⟨w, hread⟩ := readsAs_double d
    exact ⟨w, trivial, hread⟩
  | decimal d =>
    intro _ bytes hw
    rw [write] at hw
    obtain ⟨w, hread⟩ := readsAs_decimal hw
    exact ⟨w, trivial, hread⟩
  | text s =>
    intro _ bytes hw
    rw [write] at hw
    exact ⟨_, trivial, readsAs_text hw⟩
  | loose t =>
    intro _ bytes hw
    cases hw
  | symbol s =>
    intro _ bytes hw
    rw [write] at hw
    exact ⟨_, trivial, readsAs_text hw⟩
  | bytes kind s =>
    intro _ bytes hw
    cases kind with
    | fixed => exact ⟨_, trivial, readsAs_bytes hw⟩
    | array => exact ⟨_, trivial, readsAs_bytes hw⟩
    | view => cases hw
  | timestamp ht =>
    intro hfree bytes hw
    rw [write] at hw
    exact ⟨_, trivial, readsAs_timestamp (hfree _ ht) hw⟩
  | list _ ih =>
    intro hfree bytes hw
    rw [write] at hw
    obtain ⟨front, hfront, hw⟩ := Option.bind_eq_some_iff.1 hw
    obtain ⟨content, hcontent, hw⟩ := Option.bind_eq_some_iff.1 hw
    cases hw
    obtain ⟨read, -, hread⟩ :=
      readsAs_list (R := fun _ _ => True) (fun v hv => ih v hv hfree) hfront hcontent
    exact ⟨_, trivial, hread⟩
  | tuple _ ih =>
    intro hfree bytes hw
    rw [write] at hw
    obtain ⟨front, hfront, hw⟩ := Option.bind_eq_some_iff.1 hw
    obtain ⟨content, hcontent, hw⟩ := Option.bind_eq_some_iff.1 hw
    cases hw
    obtain ⟨read, -, hread⟩ :=
      readsAs_list (R := fun _ _ => True) (fun v hv => ih v hv hfree) hfront hcontent
    exact ⟨_, trivial, hread⟩
  | set _ ih =>
    intro _ bytes hw
    rw [write] at hw
    obtain ⟨tag, htag, hw⟩ := Option.bind_eq_some_iff.1 hw
    obtain ⟨front, hfront, hw⟩ := Option.bind_eq_some_iff.1 hw
    obtain ⟨content, hcontent, hw⟩ := Option.bind_eq_some_iff.1 hw
    cases hw
    obtain ⟨read, -, hread⟩ := readsAs_list (R := fun _ _ => True)
      (fun v hv => ih v hv fun _ ht => ht) hfront hcontent
    rw [List.append_assoc]
    exact ⟨_, trivial, readsAs_tag (announces_head (by decide) htag) hread rfl⟩
  | map _ _ ihk ihx =>
    intro hfree bytes hw
    rw [write] at hw
    obtain ⟨front, hfront, hw⟩ := Option.bind_eq_some_iff.1 hw
    obtain ⟨content, hcontent, hw⟩ := Option.bind_eq_some_iff.1 hw
    cases hw
    obtain ⟨read, -, hread⟩ := readsAs_map (R := fun _ _ => True)
      (fun p hp => ihk p hp fun _ ht => ht) (fun p hp => ihx p hp hfree) hfront hcontent
    exact ⟨_, trivial, hread⟩

/-- **The bytes of a value that a caller gives are read.** -/
theorem read_of_write {free : Timestamp → Prop} {v : Value} (h : Value.Given ShowsOffset free v)
    (hfree : ∀ t, free t → ShowsOffset t) {bytes : Bytes} (hw : write v = some bytes) :
    ∃ w, read bytes = some w := by
  obtain ⟨w, -, hread⟩ := readsAs_written h hfree bytes hw
  exact ⟨w, read_of_readsAs hread⟩

end ServiceClient.Cbor
