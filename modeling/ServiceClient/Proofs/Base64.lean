import Mathlib.Tactic.Set
import ServiceClient.Encoding

/-!
# Base 64 reads back

* `Base64.exists_digits`: what padded text consists of.
* `Base64.decodeFrom_padded`: the decoder gives back the bytes of padded text, whatever padding
  is behind it.
* `Base64.decodeText_encodeChars`: so does the decoder that fills in padding and takes both
  alphabets.
-/

namespace ServiceClient.Base64

/-- What the decoder sees of the alphabet: each digit has its number, is ASCII, and is neither a
filling character nor one of the alphabet for URLs. -/
theorem digit_spec : ∀ n < 64, value? (digit n) = some n ∧ digit n ≠ '=' ∧
    (digit n).toNat < 128 ∧ digit n ≠ '-' ∧ digit n ≠ '_' := by decide

/-- A digit is pushed to its group. -/
theorem decodeFrom_digit {n : Nat} (h : n < 64) (g : Group) (done : Nat) (rest : List Char) :
    decodeFrom g done (digit n :: rest) =
      (decodeFrom (g.push n).2 (done + (g.push n).1.length / 3) rest).map ((g.push n).1 ++ ·) := by
  rw [decodeFrom.eq_def]
  simp only [if_neg (digit_spec n h).2.1, (digit_spec n h).1]

/-- Two digits hold the first byte of a group. -/
theorem ofNat_first (a b : UInt8) :
    UInt8.ofNat (a.toNat / 4 * 4 + (a.toNat % 4 * 16 + b.toNat / 16) / 16) = a := by
  have ha := a.toNat_lt
  have hb := b.toNat_lt
  rw [show a.toNat / 4 * 4 + (a.toNat % 4 * 16 + b.toNat / 16) / 16 = a.toNat by omega,
    UInt8.ofNat_toNat]

theorem ofNat_second (a b c : UInt8) :
    UInt8.ofNat ((a.toNat % 4 * 16 + b.toNat / 16) % 16 * 16 +
      (b.toNat % 16 * 4 + c.toNat / 64) / 4) = b := by
  have hb := b.toNat_lt
  have hc := c.toNat_lt
  rw [show (a.toNat % 4 * 16 + b.toNat / 16) % 16 * 16 + (b.toNat % 16 * 4 + c.toNat / 64) / 4 =
    b.toNat by omega, UInt8.ofNat_toNat]

theorem ofNat_third (b c : UInt8) :
    UInt8.ofNat ((b.toNat % 16 * 4 + c.toNat / 64) % 4 * 64 + c.toNat % 64) = c := by
  have hc := c.toNat_lt
  rw [show (b.toNat % 16 * 4 + c.toNat / 64) % 4 * 64 + c.toNat % 64 = c.toNat by omega,
    UInt8.ofNat_toNat]

theorem map_nil_append (r : Except Error Bytes) : r.map ([] ++ ·) = r := by cases r <;> rfl

/-- Padding is skipped where a group starts. -/
theorem decodeFrom_padding (done k : Nat) :
    decodeFrom .start done (List.replicate k '=') = .ok [] := by
  induction k with
  | zero => rfl
  | succ k ih =>
    rw [List.replicate_succ, decodeFrom.eq_def]
    exact ih

/-- **Padded text is decoded to its bytes**, group by group, with any padding behind it. -/
theorem decodeFrom_padded (s : Bytes) (k : Nat) : ∀ done,
    decodeFrom .start done (encodeChars s ++ List.replicate k '=') = .ok s := by
  -- groups of one and of two bytes are filled up with zeros
  induction s using encodeChars.induct with
  | case1 => exact fun done => decodeFrom_padding done k
  | case2 a =>
    intro done
    have ha := a.toNat_lt
    have h := ofNat_first a 0
    rw [encodeChars, List.cons_append, decodeFrom_digit (by omega), List.cons_append,
      decodeFrom_digit (by omega)]
    simp only [Group.push, map_nil_append]
    show Except.ok [UInt8.ofNat (a.toNat / 4 * 4 + a.toNat % 4 * 16 / 16)] = .ok [a]
    rw [show a.toNat % 4 * 16 = a.toNat % 4 * 16 + (0 : UInt8).toNat / 16 from rfl, h]
  | case3 a b =>
    intro done
    have ha := a.toNat_lt
    have hb := b.toNat_lt
    have h := ofNat_second a b 0
    rw [encodeChars, List.cons_append, decodeFrom_digit (by omega), List.cons_append,
      decodeFrom_digit (by omega), List.cons_append, decodeFrom_digit (by omega)]
    simp only [Group.push, map_nil_append]
    show Except.ok [UInt8.ofNat (a.toNat / 4 * 4 + (a.toNat % 4 * 16 + b.toNat / 16) / 16),
      UInt8.ofNat ((a.toNat % 4 * 16 + b.toNat / 16) % 16 * 16 + b.toNat % 16 * 4 / 4)] = .ok [a, b]
    rw [ofNat_first, show b.toNat % 16 * 4 = b.toNat % 16 * 4 + (0 : UInt8).toNat / 64 from rfl, h]
  | case4 a b c rest ih =>
    intro done
    have ha := a.toNat_lt
    have hb := b.toNat_lt
    have hc := c.toNat_lt
    rw [encodeChars, List.cons_append, decodeFrom_digit (by omega), List.cons_append,
      decodeFrom_digit (by omega), List.cons_append, decodeFrom_digit (by omega),
      List.cons_append, decodeFrom_digit (by omega)]
    simp only [Group.push, map_nil_append]
    rw [ih, ofNat_first, ofNat_second, ofNat_third]; rfl

/-- **The decoder gives back the bytes of padded text.** -/
theorem decodeFrom_encodeChars (s : Bytes) (done : Nat) :
    decodeFrom .start done (encodeChars s) = .ok s := by
  have h := decodeFrom_padded s 0 done
  rw [List.replicate_zero, List.append_nil] at h
  exact h

/-- Padded text has digits of the alphabet, and up to two filling characters behind them. -/
theorem exists_digits (s : Bytes) : ∃ digits pads,
    encodeChars s = digits ++ List.replicate pads '=' ∧ pads ≤ 2 ∧
      ∀ c ∈ digits, ∃ n, n < 64 ∧ c = digit n := by
  induction s using encodeChars.induct with
  | case1 => exact ⟨[], 0, rfl, by decide, fun c hc => absurd hc List.not_mem_nil⟩
  | case2 a =>
    have ha := a.toNat_lt
    refine ⟨[digit (a.toNat / 4), digit (a.toNat % 4 * 16)], 2, rfl, by decide, ?_⟩
    simp only [List.forall_mem_cons]
    exact ⟨⟨_, by omega, rfl⟩, ⟨_, by omega, rfl⟩, by simp⟩
  | case3 a b =>
    have ha := a.toNat_lt
    have hb := b.toNat_lt
    refine ⟨[digit (a.toNat / 4), digit (a.toNat % 4 * 16 + b.toNat / 16),
      digit (b.toNat % 16 * 4)], 1, rfl, by decide, ?_⟩
    simp only [List.forall_mem_cons]
    exact ⟨⟨_, by omega, rfl⟩, ⟨_, by omega, rfl⟩, ⟨_, by omega, rfl⟩, by simp⟩
  | case4 a b c rest ih =>
    have ha := a.toNat_lt
    have hb := b.toNat_lt
    have hc := c.toNat_lt
    obtain ⟨digits, pads, hchars, hpads, hdigits⟩ := ih
    refine ⟨digit (a.toNat / 4) :: digit (a.toNat % 4 * 16 + b.toNat / 16) ::
      digit (b.toNat % 16 * 4 + c.toNat / 64) :: digit (c.toNat % 64) :: digits, pads,
      by rw [encodeChars, hchars]; rfl, hpads, ?_⟩
    simp only [List.forall_mem_cons]
    exact ⟨⟨_, by omega, rfl⟩, ⟨_, by omega, rfl⟩, ⟨_, by omega, rfl⟩, ⟨_, by omega, rfl⟩, hdigits⟩

/-- The characters of padded text are ASCII, and none is of the alphabet for URLs. -/
theorem mem_encodeChars (s : Bytes) :
    ∀ c ∈ encodeChars s, c.toNat < 128 ∧ c ≠ '-' ∧ c ≠ '_' := by
  intro c hc
  obtain ⟨digits, pads, hchars, -, hdigits⟩ := exists_digits s
  rw [hchars, List.mem_append, List.mem_replicate] at hc
  obtain hc | ⟨-, rfl⟩ := hc
  · obtain ⟨n, hn, rfl⟩ := hdigits c hc
    exact (digit_spec n hn).2.2
  · decide

theorem length_encodeChars (s : Bytes) : (encodeChars s).length % 4 = 0 := by
  induction s using encodeChars.induct with
  | case1 => rfl
  | case2 a => simp [encodeChars]
  | case3 a b => simp [encodeChars]
  | case4 a b c rest ih => simp only [encodeChars, List.length_cons]; omega

/-- **The lenient decoder gives back the bytes of padded text.** -/
theorem decodeText_encodeChars (s : Bytes) : decodeText (encodeChars s) = .ok s := by
  have hmem := mem_encodeChars s
  have hpad : pad (encodeChars s) = encodeChars s := by
    unfold pad; rw [if_pos (length_encodeChars s)]
  have hstd : (encodeChars s).map standardChar = encodeChars s := by
    rw [List.map_congr_left (g := id), List.map_id]
    intro c hc
    unfold standardChar; rw [if_neg (hmem c hc).2.1, if_neg (hmem c hc).2.2]; rfl
  have hascii : (encodeChars s).all (·.toNat < 128) = true := by
    rw [List.all_eq_true]; intro c hc; exact decide_eq_true (hmem c hc).1
  unfold decodeText decode
  rw [hpad, hstd, if_pos hascii, decodeFrom_encodeChars]

end ServiceClient.Base64

namespace ServiceClient

/-- The base 64 text of bytes is read as these bytes. -/
theorem Encoding.decodeBlob_json_encode (origin : Value.Origin) (s : Bytes) :
    Encoding.json.decodeBlob origin (.text (Base64.encode s)) = .ok (.blob s) := by
  have h : base64Decode origin (.text (Base64.encode s)) = .ok s := by
    show (Base64.decodeText (Base64.encode s).toList).mapError Failure.base64 = .ok s
    rw [Base64.encode, String.toList_ofList, Base64.decodeText_encodeChars]; rfl
  show (base64Decode origin (.text (Base64.encode s))).map Value.blob = _
  rw [h]; rfl

end ServiceClient
