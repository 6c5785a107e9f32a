import ServiceClient.Ion.ReadBinary
import ServiceClient.Proofs.Calendar
import ServiceClient.Proofs.CborReading

/-!
# Numbers of binary Ion read back

Lengths, exponents and the parts of timestamps stand in bytes of seven bits, the last of which is
marked; coefficients in whole bytes with a sign bit.

* `readVarUInt_varUInt`, `readVarInt_varInt`: a number of seven bit bytes is read back.
* `ofSignedBytes_signedBytes`: so is a number with a sign bit.
* `readDecimal_decimal`, `readTimestamp_timestamp`: so are decimals and timestamps.
* `announces_element`: a type code with a length is read as both.
-/

namespace ServiceClient.Ion

/-! ### Bytes of seven bits -/

/-- The number that digits to the base 128 are, behind those that are read. -/
def ofSevenBits (n : Nat) (digits : List Nat) : Nat := digits.foldl (fun n d => n * 128 + d) n

theorem sevenBitDigits_lt (fuel n : Nat) : ∀ d ∈ sevenBitDigits fuel n, d < 128 := by
  induction fuel generalizing n with
  | zero =>
    intro d hd
    rw [sevenBitDigits] at hd
    cases hd
  | succ fuel ih =>
    intro d hd
    rw [sevenBitDigits] at hd
    split at hd
    · cases hd
    · rcases List.mem_append.1 hd with hd | hd
      · exact ih (n / 128) d hd
      · rw [List.mem_singleton.1 hd]
        omega

theorem ofSevenBits_digits {fuel n : Nat} (h : n < 128 ^ fuel) :
    ofSevenBits 0 (sevenBitDigits fuel n) = n := by
  induction fuel generalizing n with
  | zero =>
    rw [Nat.pow_zero] at h
    rw [sevenBitDigits]
    show 0 = n
    omega
  | succ fuel ih =>
    rw [sevenBitDigits]
    split
    · show 0 = n
      omega
    · have hrest : n / 128 < 128 ^ fuel := by
        rw [Nat.div_lt_iff_lt_mul (by decide)]
        rw [Nat.pow_succ] at h
        exact h
      have hfront := ih hrest
      unfold ofSevenBits at hfront ⊢
      rw [List.foldl_append, hfront, List.foldl_cons, List.foldl_nil]
      omega

/-- A number has fewer digits to the base 128 than bits. -/
theorem lt_pow_log2 (n : Nat) : n < 128 ^ (n.log2 + 1) := by
  have hbits : n < 2 ^ (n.log2 + 1) := Nat.lt_log2_self
  have hpow : 2 ^ (n.log2 + 1) ≤ 128 ^ (n.log2 + 1) := Nat.pow_le_pow_left (by decide) _
  omega

/-- The digits of a number, at least one. -/
theorem digits_spec (n : Nat) :
    (if n = 0 then [0] else sevenBitDigits (n.log2 + 1) n) ≠ [] ∧
      (∀ d ∈ (if n = 0 then [0] else sevenBitDigits (n.log2 + 1) n), d < 128) ∧
      ofSevenBits 0 (if n = 0 then [0] else sevenBitDigits (n.log2 + 1) n) = n := by
  by_cases hn : n = 0
  · rw [if_pos hn, hn]
    decide
  · rw [if_neg hn]
    refine ⟨?_, sevenBitDigits_lt _ _, ofSevenBits_digits (lt_pow_log2 n)⟩
    rw [sevenBitDigits, if_neg hn]
    simp

theorem markLast_ne_nil {digits : List Nat} (h : digits ≠ []) : markLast digits ≠ [] := by
  cases digits with
  | nil => exact absurd rfl h
  | cons d rest => cases rest <;> exact List.cons_ne_nil _ _

/-- Bytes of seven bits are read up to the marked one. -/
theorem readVarUIntFrom_markLast {digits : List Nat} (hne : digits ≠ [])
    (h : ∀ d ∈ digits, d < 128) (n : Nat) (rest : Bytes) :
    readVarUIntFrom n (markLast digits ++ rest) = some (ofSevenBits n digits, rest) := by
  induction digits generalizing n with
  | nil => exact absurd rfl hne
  | cons d digits ih =>
    rw [List.forall_mem_cons] at h
    by_cases hlast : digits = []
    · subst hlast
      have hbyte : (UInt8.ofNat (d + 128)).toNat = d + 128 := Utf8.toNat_byte (by omega)
      rw [markLast, List.cons_append, List.nil_append, readVarUIntFrom, hbyte,
        if_pos (by omega), show (d + 128) % 128 = d by omega]
      rfl
    · have hbyte : (UInt8.ofNat d).toNat = d := Utf8.toNat_byte (by omega)
      have hmark : markLast (d :: digits) = UInt8.ofNat d :: markLast digits := by
        cases digits with
        | nil => exact absurd rfl hlast
        | cons e digits => rfl
      rw [hmark, List.cons_append, readVarUIntFrom, hbyte, if_neg (by omega), ih hlast h.2]
      rfl

/-- **A natural number is read back** from its bytes of seven bits. -/
theorem readVarUInt_varUInt (n : Nat) (rest : Bytes) :
    readVarUInt (varUInt n ++ rest) = some (n, rest) := by
  obtain ⟨hne, hlt, hvalue⟩ := digits_spec n
  unfold readVarUInt varUInt
  rw [readVarUIntFrom_markLast hne hlt, hvalue]

theorem varUInt_ne_nil (n : Nat) : varUInt n ≠ [] := markLast_ne_nil (digits_spec n).1

/-- The first byte of a number with a sign holds the sign and six bits. -/
theorem readVarInt_markLast {d : Nat} {digits : List Nat} (hd : d < 128)
    (h : ∀ e ∈ digits, e < 128) (rest : Bytes) :
    readVarInt (markLast (d :: digits) ++ rest) =
      some (d / 64 % 2 == 1, ofSevenBits (d % 64) digits, rest) := by
  by_cases hlast : digits = []
  · subst hlast
    have hbyte : (UInt8.ofNat (d + 128)).toNat = d + 128 := Utf8.toNat_byte (by omega)
    have hsign : (d + 128) / 64 % 2 = d / 64 % 2 := by omega
    have hfirst : (d + 128) % 64 = d % 64 := by omega
    rw [markLast, List.cons_append, List.nil_append]
    unfold readVarInt
    simp only [hbyte, hsign, hfirst, show 128 ≤ d + 128 by omega, if_true]
    rfl
  · have hbyte : (UInt8.ofNat d).toNat = d := Utf8.toNat_byte (by omega)
    have hmark : markLast (d :: digits) = UInt8.ofNat d :: markLast digits := by
      cases digits with
      | nil => exact absurd rfl hlast
      | cons e digits => rfl
    rw [hmark, List.cons_append]
    unfold readVarInt
    simp only [hbyte, show ¬ 128 ≤ d by omega, if_false, readVarUIntFrom_markLast hlast h,
      Option.map_some]

/-- **An integer is read back** from its bytes of seven bits: its sign and its magnitude. -/
theorem readVarInt_varInt (n : Int) (rest : Bytes) :
    readVarInt (varInt n ++ rest) = some (decide (n < 0), n.natAbs, rest) := by
  obtain ⟨hne, hlt, hvalue⟩ := digits_spec n.natAbs
  have hzero : (if n = 0 then [0] else sevenBitDigits (n.natAbs.log2 + 1) n.natAbs) =
      if n.natAbs = 0 then [0] else sevenBitDigits (n.natAbs.log2 + 1) n.natAbs := by
    by_cases hn : n = 0
    · rw [if_pos hn, if_pos (by omega)]
    · rw [if_neg hn, if_neg (by omega)]
  unfold varInt
  rw [hzero]
  generalize
    (if n.natAbs = 0 then [0] else sevenBitDigits (n.natAbs.log2 + 1) n.natAbs) = digits at *
  obtain ⟨d, ds, rfl⟩ := List.exists_cons_of_ne_nil hne
  rw [List.forall_mem_cons] at hlt
  obtain ⟨hd, hds⟩ := hlt
  have hfirst : ofSevenBits d ds = n.natAbs := by
    have hcons : ofSevenBits 0 (d :: ds) = ofSevenBits (0 * 128 + d) ds := rfl
    rw [← hvalue, hcons]
    congr 1
    omega
  dsimp only
  by_cases hsmall : d < 64
  · -- the sign goes into the first byte
    rw [if_pos hsmall]
    by_cases hsign : n < 0
    · rw [if_pos hsign, readVarInt_markLast (by omega) hds, show (d + 64) % 64 = d by omega, hfirst,
        show (d + 64) / 64 % 2 = 1 by omega]
      simp [hsign]
    · rw [if_neg hsign, Nat.add_zero, readVarInt_markLast (by omega) hds,
        show d % 64 = d by omega, hfirst, show d / 64 % 2 = 0 by omega]
      simp [hsign]
  · -- the sign stands in a byte of its own
    have hall : ∀ e ∈ d :: ds, e < 128 := List.forall_mem_cons.2 ⟨hd, hds⟩
    rw [if_neg hsmall]
    by_cases hsign : n < 0
    · rw [if_pos hsign, readVarInt_markLast (by omega) hall, show 64 % 64 = 0 by omega, hvalue]
      simp [hsign]
    · rw [if_neg hsign, readVarInt_markLast (by omega) hall, show 0 % 64 = 0 by omega, hvalue]
      simp [hsign]

theorem varInt_ne_nil (n : Int) : varInt n ≠ [] := by
  intro hnil
  have hread := readVarInt_varInt n []
  rw [hnil] at hread
  cases hread

/-! ### Numbers with a sign bit -/

theorem ofBigEndian_cons_zero (s : Bytes) : ofBigEndian (0 :: s) = ofBigEndian s := by
  unfold ofBigEndian
  rw [List.foldl_cons]
  rfl

/-- **A number with a sign bit is read back**: its sign and its magnitude. -/
theorem ofSignedBytes_signedBytes (negative : Bool) (n : Nat) :
    ofSignedBytes (signedBytes negative n) = (negative, n) := by
  have hvalue := ofBigEndian_minimalBytes n
  unfold signedBytes
  dsimp only
  split
  · rename_i hnil
    rw [hnil] at hvalue
    have hzero : n = 0 := hvalue.symm
    cases negative
    · rw [hzero]
      rfl
    · rw [hzero]
      rfl
  · rename_i b rest hbytes
    rw [hbytes] at hvalue
    by_cases hsmall : b.toNat < 128
    · -- the sign is the highest bit of the first byte
      rw [if_pos hsmall]
      cases negative with
      | true =>
        have hbyte : (UInt8.ofNat (b.toNat + 128)).toNat = b.toNat + 128 :=
          Utf8.toNat_byte (by omega)
        have hback : UInt8.ofNat ((b.toNat + 128) % 128) = b := by
          rw [show (b.toNat + 128) % 128 = b.toNat by omega]
          exact UInt8.ofNat_toNat
        simp only [if_true, ofSignedBytes, hbyte, hback, hvalue]
        simp
      | false =>
        have hback : UInt8.ofNat (b.toNat + 0) = b := UInt8.ofNat_toNat
        have hkeep : UInt8.ofNat (b.toNat % 128) = b := by
          rw [show b.toNat % 128 = b.toNat by omega]
          exact UInt8.ofNat_toNat
        simp only [Bool.false_eq_true, if_false, ofSignedBytes, hback, hkeep, hvalue]
        simp
        omega
    · -- the sign stands in a byte of its own
      rw [if_neg hsmall, hbytes]
      cases negative with
      | true =>
        have hzero : UInt8.ofNat ((UInt8.ofNat 128).toNat % 128) = 0 := by decide
        simp only [if_true, ofSignedBytes, hzero, ofBigEndian_cons_zero, hvalue]
        simp
      | false =>
        have hzero : UInt8.ofNat ((UInt8.ofNat 0).toNat % 128) = 0 := by decide
        simp only [Bool.false_eq_true, if_false, ofSignedBytes, hzero, ofBigEndian_cons_zero,
          hvalue]
        simp

/-! ### Decimals and timestamps -/

/-- **A finite decimal is read back** from its exponent and its coefficient. -/
theorem readDecimal_decimal (negative : Bool) (c : Nat) (e : Int) :
    readDecimal (if e = 0 ∧ c = 0 ∧ !negative then [] else varInt e ++ signedBytes negative c) =
      some (.finite negative c e) := by
  split
  · rename_i hzero
    obtain ⟨rfl, rfl, hsign⟩ := hzero
    cases negative
    · rfl
    · exact absurd hsign (by decide)
  · have hne : (varInt e ++ signedBytes negative c).isEmpty = false := by simp [varInt_ne_nil e]
    have hexponent : signed (decide (e < 0)) e.natAbs = e := by
      unfold signed
      split
      · rename_i hneg
        rw [decide_eq_true_eq] at hneg
        omega
      · rename_i hneg
        rw [decide_eq_true_eq] at hneg
        omega
    unfold readDecimal
    rw [if_neg (by rw [hne]; decide), readVarInt_varInt, Option.bind_eq_bind, Option.bind_some]
    dsimp only
    rw [ofSignedBytes_signedBytes, hexponent]
    rfl

/-- Microseconds are read back from a fraction of six digits. -/
theorem readFractionBytes_micro {n : Nat} (h : n < 1000000) :
    readFractionBytes (varInt (-6) ++ signedBytes false n) = some n := by
  have hne : (varInt (-6) ++ signedBytes false n).isEmpty = false := by simp [varInt_ne_nil (-6)]
  have hread := readVarInt_varInt (-6) (signedBytes false n)
  have hsigned := ofSignedBytes_signedBytes false n
  have hdown : decide ((-6 : Int) < 0) = true := by decide
  have hdigits : (-6 : Int).natAbs = 6 := by decide
  unfold readFractionBytes
  simp only [hne, hread, hsigned, hdown, hdigits, Bool.false_eq_true, if_false, Bool.false_and,
    Bool.not_true, Nat.le_refl, if_true, Nat.sub_self, Nat.pow_zero, Nat.div_one, if_pos h,
    Option.bind_eq_bind, Option.bind_some]

/-- The content of a timestamp, as `timestampElement` writes it. -/
def timestampContent (t : Timestamp) : Bytes :=
  (match t.offset with
    | some o => varInt (o / 60)
    | none => [0xc0]) ++ (varUInt t.minuteOffset.toUtc.date.year.toNat ++
    (varUInt t.minuteOffset.toUtc.date.month ++ (varUInt t.minuteOffset.toUtc.date.day ++
      (varUInt t.minuteOffset.toUtc.timeOfDay.hour ++
        (varUInt t.minuteOffset.toUtc.timeOfDay.minute ++
          (varUInt t.minuteOffset.toUtc.timeOfDay.second ++ (varInt (-6) ++
            signedBytes false t.minuteOffset.toUtc.timeOfDay.microsecond)))))))

theorem timestampElement_eq (t : Timestamp) :
    timestampElement t = element 6 (timestampContent t) := by
  unfold timestampElement timestampContent
  cases t.offset with
  | none => simp only [List.append_assoc]
  | some o => simp only [List.append_assoc]

/-- The offset of a timestamp is read back in whole minutes; a negative zero is an unknown one. -/
theorem readVarInt_offset (t : Timestamp) (rest : Bytes) :
    ∃ negative n, readVarInt ((match t.offset with
        | some o => varInt (o / 60)
        | none => [0xc0]) ++ rest) = some (negative, n, rest) ∧
      (if negative && n = 0 then none else some (signed negative n * 60)) =
        t.minuteOffset.offset := by
  unfold Timestamp.minuteOffset
  cases t.offset with
  | none => exact ⟨true, 0, rfl, rfl⟩
  | some o =>
    refine ⟨decide (o / 60 < 0), (o / 60).natAbs, readVarInt_varInt (o / 60) rest, ?_⟩
    by_cases hsign : o / 60 < 0
    · have hn : (o / 60).natAbs ≠ 0 := by omega
      have hvalue : -((o / 60).natAbs : Int) = o / 60 := by omega
      simp only [hsign, hn, signed, hvalue, decide_true, decide_false, Bool.true_and, if_true,
        Bool.false_eq_true, if_false, Option.map_some]
    · have hvalue : ((o / 60).natAbs : Int) = o / 60 := by omega
      simp only [hsign, signed, hvalue, decide_false, Bool.false_and, Bool.false_eq_true, if_false,
        Option.map_some]

/-- **A timestamp is read back**, with its offset in whole minutes, if its clock in UTC shows a
year of four digits. -/
theorem readTimestamp_timestamp {t : Timestamp} (h : t.minuteOffset.toUtc.inRange = true) :
    readTimestamp (timestampContent t) = some t.minuteOffset := by
  obtain ⟨negative, n, hoffset, hzone⟩ := readVarInt_offset t
    (varUInt t.minuteOffset.toUtc.date.year.toNat ++ (varUInt t.minuteOffset.toUtc.date.month ++
      (varUInt t.minuteOffset.toUtc.date.day ++ (varUInt t.minuteOffset.toUtc.timeOfDay.hour ++
        (varUInt t.minuteOffset.toUtc.timeOfDay.minute ++
          (varUInt t.minuteOffset.toUtc.timeOfDay.second ++ (varInt (-6) ++
            signedBytes false t.minuteOffset.toUtc.timeOfDay.microsecond)))))))
  have hmicro : t.minuteOffset.toUtc.timeOfDay.microsecond < 1000000 :=
    (TimeOfDay.ofMicroseconds_spec (Timestamp.clock_rest t.minuteOffset.toUtc)).2.2.2.1
  have hparts := Timestamp.ofParts?_parts h none
  have hne : ∀ n (s : Bytes), (varUInt n ++ s).isEmpty = false := by
    intro n s
    simp [varUInt_ne_nil n]
  unfold readTimestamp timestampContent
  simp only [hoffset, hzone, readVarUInt_varUInt, hne, Bool.false_eq_true, if_false,
    readFractionBytes_micro hmicro, hparts, Option.bind_eq_bind, Option.bind_some]
  -- the clock in UTC is behind the clock of the timestamp by its offset
  have hclock : t.minuteOffset.toUtc.clock + t.minuteOffset.offset.getD 0 * 1000000 =
      t.minuteOffset.clock := by
    unfold Timestamp.toUtc Timestamp.instant
    dsimp only
    omega
  rw [hclock]
  rfl

/-! ### Type codes -/

/-- Bytes that are read as a type code with a content, whatever follows. -/
def Announces (code : Nat) (content bytes : Bytes) : Prop :=
  ∃ first tail, bytes = first :: tail ∧ first.toNat / 16 = code ∧
    ∀ rest, readContent code (first.toNat % 16) (tail ++ rest) = some (some content, rest)

/-- **A type code with a length is read** as both, unless it is that of a struct with one byte,
which no field has. -/
theorem announces_element {code : Nat} {content : Bytes} (hcode : code < 16)
    (hstruct : code = 13 → content.length ≠ 1) : Announces code content (element code content) := by
  unfold element
  by_cases hshort : content.length < 14
  · have hbyte : (UInt8.ofNat (code * 16 + content.length)).toNat = code * 16 + content.length :=
      Utf8.toNat_byte (by omega)
    rw [if_pos hshort]
    refine ⟨_, _, rfl, by omega, fun rest => ?_⟩
    have hlow : (code * 16 + content.length) % 16 = content.length := by omega
    have hlong : ¬ (content.length = 14 ∨ code = 13 ∧ content.length = 1) := by
      rintro (h | ⟨h, h1⟩)
      · omega
      · exact hstruct h h1
    unfold readContent
    rw [hbyte, hlow, if_neg (by omega), if_neg hlong, takeBytes?_append]
    rfl
  · have hbyte : (UInt8.ofNat (code * 16 + 14)).toNat = code * 16 + 14 :=
      Utf8.toNat_byte (by omega)
    rw [if_neg hshort]
    refine ⟨_, _, List.cons_append, by omega, fun rest => ?_⟩
    have hlow : (code * 16 + 14) % 16 = 14 := by omega
    unfold readContent
    rw [hbyte, hlow, if_neg (by decide), if_pos (.inl rfl), List.append_assoc, readVarUInt_varUInt]
    show (takeBytes? content.length (content ++ rest) >>= _) = _
    rw [takeBytes?_append]
    rfl

end ServiceClient.Ion
