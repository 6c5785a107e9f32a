import Mathlib.Tactic.Set
import ServiceClient.Text.Charset

/-!
# UTF-8 reads back

* `Utf8.start_encodeChar`: the bytes of a character are read as that character, whatever
  follows them.
* `Utf8.decode_encodeChars`: the strict decoder gives back the text that was encoded.
-/

namespace ServiceClient.Utf8

theorem toNat_byte {n : Nat} (h : n < 256) : (UInt8.ofNat n).toNat = n :=
  UInt8.toNat_ofNat_of_lt' h

/-- A byte that continues a character carries six bits. -/
theorem payload_tail (n : Nat) : payload (UInt8.ofNat (0x80 + n % 64)) = n % 64 := by
  have h : (UInt8.ofNat (0x80 + n % 64)).toNat = 0x80 + n % 64 := toNat_byte (by omega)
  unfold payload; rw [h]; omega

theorem isContinuation_tail (n : Nat) : isContinuation (UInt8.ofNat (0x80 + n % 64)) = true := by
  have h : (UInt8.ofNat (0x80 + n % 64)).toNat = 0x80 + n % 64 := toNat_byte (by omega)
  simp only [isContinuation, h, Bool.and_eq_true, decide_eq_true_eq]
  omega

/-- No character is a surrogate, and code points end at `10FFFF`. -/
theorem toNat_valid (c : Char) : c.toNat < 0xD800 ∨ 0xDFFF < c.toNat ∧ c.toNat < 0x110000 :=
  c.valid

/-- **A character is read from its bytes**, whatever follows them. -/
theorem start_encodeChar (c : Char) (rest : Bytes) :
    ∃ b more, encodeChar c = b :: more ∧ start b (more ++ rest) = .char c more.length := by
  have hv := toNat_valid c
  have hc : ∀ n, n = c.toNat → Char.ofNat n = c := fun n h => h ▸ Char.ofNat_toNat c
  unfold encodeChar
  set n := c.toNat
  -- one case for each length; the first byte tells the lengths apart
  by_cases h1 : n < 0x80
  · have hb : (UInt8.ofNat n).toNat = n := toNat_byte (by omega)
    refine ⟨UInt8.ofNat n, [], by simp [h1], ?_⟩
    unfold start; rw [hb, if_pos h1, hc n rfl]; rfl
  by_cases h2 : n < 0x800
  · have hb : (UInt8.ofNat (0xC0 + n / 64)).toNat = 0xC0 + n / 64 := toNat_byte (by omega)
    refine ⟨UInt8.ofNat (0xC0 + n / 64), [UInt8.ofNat (0x80 + n % 64)], by simp [h1, h2], ?_⟩
    unfold start
    rw [hb, if_neg (by omega), if_neg (by omega)]
    simp only [List.cons_append, List.nil_append]
    rw [if_pos (by omega), isContinuation_tail, payload_tail, if_pos rfl, hc _ (by omega)]; rfl
  by_cases h3 : n < 0x10000
  · have hb : (UInt8.ofNat (0xE0 + n / 4096)).toNat = 0xE0 + n / 4096 := toNat_byte (by omega)
    have hs : (UInt8.ofNat (0x80 + n / 64 % 64)).toNat = 0x80 + n / 64 % 64 :=
      toNat_byte (by omega)
    refine ⟨UInt8.ofNat (0xE0 + n / 4096),
      [UInt8.ofNat (0x80 + n / 64 % 64), UInt8.ofNat (0x80 + n % 64)], by simp [h1, h2, h3], ?_⟩
    -- the second byte keeps out long forms after `E0` and surrogates after `ED`
    have hlow : ¬ (0xE0 + n / 4096 = 0xE0 ∧ 0x80 + n / 64 % 64 < 0xA0) := by omega
    have hsur : ¬ (0xE0 + n / 4096 = 0xED ∧ 0xA0 ≤ 0x80 + n / 64 % 64) := by omega
    unfold start
    rw [hb, if_neg (by omega), if_neg (by omega)]
    simp only [List.cons_append, List.nil_append]
    rw [if_neg (by omega), if_pos (by omega), hs, isContinuation_tail, isContinuation_tail,
      payload_tail, payload_tail, if_pos rfl, if_neg (by simp; omega), hc _ (by omega)]; rfl
  · have hb : (UInt8.ofNat (0xF0 + n / 262144)).toNat = 0xF0 + n / 262144 := toNat_byte (by omega)
    have hs : (UInt8.ofNat (0x80 + n / 4096 % 64)).toNat = 0x80 + n / 4096 % 64 :=
      toNat_byte (by omega)
    refine ⟨UInt8.ofNat (0xF0 + n / 262144), [UInt8.ofNat (0x80 + n / 4096 % 64),
      UInt8.ofNat (0x80 + n / 64 % 64), UInt8.ofNat (0x80 + n % 64)], by simp [h1, h2, h3], ?_⟩
    unfold start
    rw [hb, if_neg (by omega), if_neg (by omega)]
    simp only [List.cons_append, List.nil_append]
    rw [if_neg (by omega), if_neg (by omega), hs, isContinuation_tail, isContinuation_tail,
      isContinuation_tail, payload_tail, payload_tail, payload_tail, if_neg (by simp; omega)]
    simp only [Bool.not_true, Bool.false_eq_true, if_false, if_true]
    rw [hc _ (by omega)]; rfl

/-- **The decoder gives back the characters**, under any policy and from any position. -/
theorem decodeFrom_encodeChars (policy : OnInvalid) (s : List Char) :
    ∀ position, decodeFrom policy position (encodeChars s) = .ok s := by
  induction s with
  | nil => intro position; unfold encodeChars decodeFrom; rfl
  | cons c s ih =>
    intro position
    obtain ⟨b, more, hb, hs⟩ := start_encodeChar c (encodeChars s)
    have he : encodeChars (c :: s) = b :: (more ++ encodeChars s) := by
      unfold encodeChars; rw [List.flatMap_cons, hb]; rfl
    rw [he, decodeFrom, hs]
    simp only [List.drop_left, ih]
    rfl

theorem decode_encodeChars (s : List Char) :
    decode (encodeChars s) = .ok (String.ofList s) := by
  unfold decode; rw [decodeFrom_encodeChars]; rfl

theorem decode_encode (s : String) : decode (encode s) = .ok s := by
  unfold encode; rw [decode_encodeChars, String.ofList_toList]

end ServiceClient.Utf8
