import Mathlib.Logic.Function.Iterate
import ServiceClient.Proofs.Exchange
import ServiceClient.Proofs.ProfileText

/-!
# Bursts of errors

The checksum of a body tells it apart from every body of the same length that differs from it in at
most four bytes in a row. Dividing out a bit is linear and loses nothing, so it is enough that up
to four bytes enter the register as one word, and that different words stay different behind them.

* `crcBit_xor`, `crcBit_injective`: one bit.
* `foldl_crcByte`: up to four bytes are added at once.
* `crc32_burst`: the checksum tells bytes in a burst apart.
* `Dialect.damaged_reply_refused`: a damaged response is refused before it is read.
-/

namespace ServiceClient

/-! ### One bit -/

/-- A bit that is zero is dropped, one that is set adds the polynomial. -/
theorem crcBit_of_even {r : UInt32} (h : r.toNat % 2 = 0) : crcBit r = r >>> 1 := by
  unfold crcBit
  rw [if_neg]
  intro hone
  have := congrArg UInt32.toNat hone
  rw [UInt32.toNat_and, UInt32.toNat_one, Nat.and_one_is_mod] at this
  omega

theorem crcBit_of_odd {r : UInt32} (h : r.toNat % 2 = 1) :
    crcBit r = (r >>> 1) ^^^ 0xEDB88320 := by
  unfold crcBit
  rw [if_pos]
  apply UInt32.toNat_inj.1
  rw [UInt32.toNat_and, UInt32.toNat_one, Nat.and_one_is_mod, h]

theorem toNat_crcBit_of_even {r : UInt32} (h : r.toNat % 2 = 0) :
    (crcBit r).toNat = r.toNat / 2 := by
  rw [crcBit_of_even h, UInt32.toNat_shiftRight]
  exact Nat.shiftRight_eq_div_pow _ 1

/-- **A bit is divided out linearly.** -/
theorem crcBit_xor (a b : UInt32) : crcBit (a ^^^ b) = crcBit a ^^^ crcBit b := by
  have hparity : (a ^^^ b).toNat % 2 = (a.toNat % 2) ^^^ (b.toNat % 2) := by
    rw [UInt32.toNat_xor]
    exact Nat.xor_mod_two_pow (n := 1)
  have hshift : (a ^^^ b) >>> 1 = a >>> 1 ^^^ b >>> 1 := UInt32.shiftRight_xor
  rcases Nat.mod_two_eq_zero_or_one a.toNat with ha | ha <;>
    rcases Nat.mod_two_eq_zero_or_one b.toNat with hb | hb <;> rw [ha, hb] at hparity
  · rw [crcBit_of_even hparity, crcBit_of_even ha, crcBit_of_even hb, hshift]
  · rw [crcBit_of_odd hparity, crcBit_of_even ha, crcBit_of_odd hb, hshift, UInt32.xor_assoc]
  · rw [crcBit_of_odd hparity, crcBit_of_odd ha, crcBit_of_even hb, hshift]
    ac_rfl
  · -- the polynomial is added twice, which is not at all
    have htwice : ∀ x y p : UInt32, x ^^^ p ^^^ (y ^^^ p) = x ^^^ y := by
      intro x y p
      rw [UInt32.xor_assoc, UInt32.xor_comm p, UInt32.xor_assoc, UInt32.xor_self, UInt32.xor_zero]
    rw [crcBit_of_even hparity, crcBit_of_odd ha, crcBit_of_odd hb, hshift, htwice]

/-- **No bit is lost**: a bit that is shifted out comes back in the polynomial. -/
theorem crcBit_injective : Function.Injective crcBit := by
  intro a b h
  have hzero : ∀ r : UInt32, crcBit r = 0 → r = 0 := by
    intro r hr
    have hlt := r.toNat_lt
    rcases Nat.mod_two_eq_zero_or_one r.toNat with heven | hodd
    · have := toNat_crcBit_of_even heven
      rw [hr, UInt32.toNat_zero] at this
      exact UInt32.toNat_inj.1 (by rw [UInt32.toNat_zero]; omega)
    · -- the polynomial has the highest bit, and the shifted register has not
      rw [crcBit_of_odd hodd, UInt32.xor_eq_zero_iff] at hr
      have hshift : r.toNat / 2 = 0xEDB88320 := by
        rw [← Nat.pow_one 2, ← Nat.shiftRight_eq_div_pow]
        exact (UInt32.toNat_shiftRight r 1).symm.trans (congrArg UInt32.toNat hr)
      omega
  have hsame : crcBit (a ^^^ b) = 0 := by rw [crcBit_xor, h, UInt32.xor_self]
  exact UInt32.xor_eq_zero_iff.1 (hzero _ hsame)

theorem iterate_crcBit_xor (k : Nat) (a b : UInt32) :
    crcBit^[k] (a ^^^ b) = crcBit^[k] a ^^^ crcBit^[k] b := by
  induction k generalizing a b with
  | zero => rfl
  | succ k ih => rw [Function.iterate_succ_apply, crcBit_xor, ih]; rfl

/-- Bits that are zero are shifted out without a change. -/
theorem toNat_iterate_crcBit (k : Nat) (n : Nat) (r : UInt32) (h : r.toNat = 2 ^ k * n) :
    (crcBit^[k] r).toNat = n := by
  induction k generalizing r with
  | zero => exact h.trans (Nat.one_mul n)
  | succ k ih =>
    rw [Nat.pow_succ'] at h
    rw [Function.iterate_succ_apply]
    refine ih _ ?_
    rw [Nat.mul_assoc] at h
    rw [toNat_crcBit_of_even (by omega)]
    omega

/-! ### Bytes -/

theorem crcByte_eq (r : UInt32) (b : UInt8) : crcByte r b = crcBit^[8] (r ^^^ b.toUInt32) := rfl

theorem crcByte_injective (b : UInt8) : Function.Injective fun r => crcByte r b := by
  intro a c h
  exact (UInt32.xor_left_inj _).1 (crcBit_injective.iterate 8 h)

theorem foldl_crcByte_injective (s : Bytes) : Function.Injective fun r => s.foldl crcByte r := by
  induction s with
  | nil => exact Function.injective_id
  | cons b s ih => exact ih.comp (crcByte_injective b)

/-- The number that bytes are, the lowest first. -/
def ofLittleEndian : Bytes → Nat
  | [] => 0
  | b :: s => b.toNat + 256 * ofLittleEndian s

theorem ofLittleEndian_lt (s : Bytes) : ofLittleEndian s < 256 ^ s.length := by
  induction s with
  | nil => decide
  | cons b s ih =>
    have := b.toNat_lt
    rw [ofLittleEndian, List.length_cons, Nat.pow_succ']
    omega

theorem ofLittleEndian_injective {s t : Bytes} (hlength : s.length = t.length)
    (h : ofLittleEndian s = ofLittleEndian t) : s = t := by
  induction s generalizing t with
  | nil => exact (List.length_eq_zero_iff.1 hlength.symm).symm
  | cons b s ih =>
    obtain ⟨c, t, rfl⟩ := List.exists_cons_of_length_eq_add_one hlength.symm
    have hb := b.toNat_lt
    have hc := c.toNat_lt
    rw [ofLittleEndian, ofLittleEndian] at h
    rw [UInt8.toNat_inj.1 (show b.toNat = c.toNat by omega),
      ih (Nat.succ.inj hlength) (by omega)]

theorem toNat_word {n : Nat} (h : n < 2 ^ 32) : (UInt32.ofNat n).toNat = n :=
  UInt32.toNat_ofNat_of_lt' h

/-- A byte and what stands above it. -/
theorem toUInt32_xor (b : UInt8) {n : Nat} (h : 256 * n < 2 ^ 32) :
    b.toUInt32 ^^^ UInt32.ofNat (256 * n) = UInt32.ofNat (b.toNat + 256 * n) := by
  have hb := b.toNat_lt
  apply UInt32.toNat_inj.1
  rw [UInt32.toNat_xor, toNat_word h, UInt8.toNat_toUInt32, toNat_word (by omega)]
  have hmod : (b.toNat ^^^ 256 * n) % 2 ^ 8 = b.toNat := by
    rw [Nat.xor_mod_two_pow, Nat.mul_mod_right, Nat.xor_zero]
    exact Nat.mod_eq_of_lt hb
  have hdiv : (b.toNat ^^^ 256 * n) / 2 ^ 8 = n := by
    rw [Nat.xor_div_two_pow, Nat.div_eq_of_lt hb, Nat.zero_xor]
    exact Nat.mul_div_cancel_left n (by decide)
  omega

/-- **Up to four bytes are added at once.** -/
theorem foldl_crcByte {s : Bytes} (h : s.length ≤ 4) (r : UInt32) :
    s.foldl crcByte r = crcBit^[8 * s.length] (r ^^^ UInt32.ofNat (ofLittleEndian s)) := by
  induction s generalizing r with
  | nil => exact (UInt32.xor_zero).symm
  | cons b s ih =>
    rw [List.length_cons] at h
    have hlt : ofLittleEndian s < 256 ^ 3 :=
      (ofLittleEndian_lt s).trans_le (Nat.pow_le_pow_right (by decide) (by omega))
    -- the bytes behind the first wait above it, and come down while it is divided out
    have hdown : UInt32.ofNat (ofLittleEndian s) =
        crcBit^[8] (UInt32.ofNat (256 * ofLittleEndian s)) := by
      apply UInt32.toNat_inj.1
      rw [toNat_word (by omega),
        toNat_iterate_crcBit 8 (ofLittleEndian s) _ (toNat_word (by omega))]
    rw [List.foldl_cons, ih (by omega), crcByte_eq, hdown, ← iterate_crcBit_xor,
      ← Function.iterate_add_apply, UInt32.xor_assoc, toUInt32_xor b (by omega), ofLittleEndian,
      List.length_cons, Nat.mul_succ]

/-- **The checksum tells bytes in a burst apart**, wherever they stand. -/
theorem crc32_burst (before after : Bytes) {s t : Bytes} (hlength : s.length = t.length)
    (hshort : s.length ≤ 4) (h : crc32 (before ++ s ++ after) = crc32 (before ++ t ++ after)) :
    s = t := by
  unfold crc32 at h
  rw [UInt32.xor_left_inj] at h
  simp only [List.foldl_append] at h
  have h := foldl_crcByte_injective after h
  generalize before.foldl crcByte 0xFFFFFFFF = r at h
  rw [foldl_crcByte hshort, foldl_crcByte (hlength ▸ hshort), ← hlength] at h
  have h := (UInt32.xor_right_inj r).1 (crcBit_injective.iterate _ h)
  have hlt : ∀ u : Bytes, u.length ≤ 4 → ofLittleEndian u < 2 ^ 32 := fun u hu =>
    (ofLittleEndian_lt u).trans_le (Nat.pow_le_pow_right (n := 256) (by decide) hu)
  have h := congrArg UInt32.toNat h
  rw [toNat_word (hlt s hshort), toNat_word (hlt t (hlength ▸ hshort))] at h
  exact ofLittleEndian_injective hlength h

/-! ### Responses -/

theorem trimChars_surrounded {before after s : List Char} (hbefore : ∀ c ∈ before, isBlank c = true)
    (hafter : ∀ c ∈ after, isBlank c = true) :
    trimChars (before ++ s ++ after) = trimChars s := by
  have hback : trimChars (s ++ after) = trimChars s := by
    induction after using List.reverseRecOn with
    | nil => rw [List.append_nil]
    | append_singleton after c ih =>
      rw [← List.append_assoc, trimChars_concat (hafter c (by simp))]
      exact ih fun d hd => hafter d (List.mem_append_left _ hd)
  rw [List.append_assoc]
  induction before with
  | nil => exact hback
  | cons c before ih =>
    rw [List.forall_mem_cons] at hbefore
    rw [List.cons_append, trimChars_cons hbefore.1]
    exact ih hbefore.2

/-- No blanks are around a number. -/
theorem trimChars_toString (n : Nat) : trimChars (toString n).toList = (toString n).toList := by
  have hblank : ∀ c ∈ (toString n).toList, isBlank c = false := by
    intro c hc
    have hdigit := isDigit_of_mem_toString hc
    rw [Char.isDigit_iff_toNat] at hdigit
    have hcodes : ∀ n < 58, 48 ≤ n → isBlank (Char.ofNat n) = false := by decide
    have hc := hcodes c.toNat (Nat.lt_succ_of_le hdigit.2) hdigit.1
    rwa [Char.ofNat_toNat] at hc
  exact trimChars_eq_self_iff.2
    ⟨fun c hc => hblank c (List.mem_of_mem_head? hc),
      fun c hc => hblank c (List.mem_of_getLast? hc)⟩

/-- **A checksum is compared as a number**, whatever blanks are around its digits. -/
theorem checkChecksum_of_header {headers : Headers} {before after : String}
    (hbefore : ∀ c ∈ before.toList, isBlank c = true)
    (hafter : ∀ c ∈ after.toList, isBlank c = true) {n : Nat}
    (h : headers.get? checksumHeader = some (.ofString (before ++ toString n ++ after)))
    (body : Bytes) :
    checkChecksum headers body = if (crc32 body).toNat = n then .ok () else
      .error (.checksum (before ++ toString n ++ after) (crc32 body).toNat) := by
  have htrim : trim (before ++ toString n ++ after) = toString n := by
    rw [trim, String.toList_append, String.toList_append, trimChars_surrounded hbefore hafter,
      trimChars_toString, String.ofList_toList]
  unfold checkChecksum
  rw [h]
  simp only [Text.replaced_ofString, htrim]
  by_cases hn : (crc32 body).toNat = n
  · rw [if_pos (congrArg toString hn), if_pos hn]
  · -- digits that are the same spell the same number
    have hdigits : toString (crc32 body).toNat ≠ toString n :=
      fun hs => hn (toDigits_injective (String.ofList_injective hs))
    rw [if_neg hdigits, if_neg hn]

/-- Bodies that are the same but for four bytes in a row have one checksum only if they are the
same. -/
theorem crc32_eq_of_window {sent received : Bytes} (hlength : received.length = sent.length)
    {i : Nat} (hfront : received.take i = sent.take i)
    (hback : received.drop (i + 4) = sent.drop (i + 4)) (h : crc32 received = crc32 sent) :
    received = sent := by
  have hsplit : ∀ s : Bytes, s = s.take i ++ (s.drop i).take 4 ++ s.drop (i + 4) := by
    intro s
    rw [List.append_assoc, ← List.drop_drop, List.take_append_drop, List.take_append_drop]
  have hwindow : (received.drop i).take 4 = (sent.drop i).take 4 := by
    rw [hsplit received, hsplit sent, hfront, hback] at h
    refine crc32_burst _ _ ?_ ?_ h
    · rw [List.length_take, List.length_take, List.length_drop, List.length_drop, hlength]
    · exact List.length_take_le 4 _
  rw [hsplit received, hsplit sent, hfront, hback, hwindow]

namespace Dialect

/-- **A damaged response is refused before it is read.** A response has the checksum of the body
that was sent, in decimal between any blanks. If the body that is received has the same length but
differs from it, all within four bytes in a row, the checksum is refused, in the same way for any
encoding, operation and reader of a result. The body that was sent is read as if there were no
checksum. -/
theorem damaged_reply_refused {sent received : Bytes} (hlength : received.length = sent.length)
    (hne : received ≠ sent) {i : Nat} (hfront : received.take i = sent.take i)
    (hback : received.drop (i + 4) = sent.drop (i + 4)) {before after : String}
    (hbefore : ∀ c ∈ before.toList, isBlank c = true)
    (hafter : ∀ c ∈ after.toList, isBlank c = true) (status : Int) {headers : Headers}
    (hheader : headers.get? checksumHeader =
      some (.ofString (before ++ toString (crc32 sent).toNat ++ after))) :
    (∃ records, ∀ (d : Dialect) (shape : ResponseShape) (reader : Option ResultReader),
      (d.readResult shape reader ⟨status, headers, received⟩).run =
        ⟨.error (.checksum (before ++ toString (crc32 sent).toNat ++ after)
          (crc32 received).toNat), records⟩) ∧
    checkChecksum headers sent = .ok () ∧
    ∀ (d : Dialect) (shape : ResponseShape) (read : ResultReader),
      (d.readResult shape (some read) ⟨status, headers, sent⟩).run.result.map
          ServiceResult.result =
        d.readContent shape sent >>= fun content =>
          read ⟨content, ⟨status, headers, sent⟩, d.encoding⟩ := by
  -- the check comes first, so neither the parser nor the reader sees a damaged body
  have hcheck := checkChecksum_of_header hbefore hafter hheader
  have hsent : checkChecksum headers sent = .ok () := by rw [hcheck, if_pos rfl]
  have hreceived := hcheck received
  rw [if_neg fun h => hne (crc32_eq_of_window hlength hfront hback (UInt32.toNat_inj.1 h))]
    at hreceived
  refine ⟨⟨[.debug .handlers ("Received successful response: " ++ toString status ++
    ", request id: " ++ (ServiceError.shown (headers.get? requestIdHeader)).replaced)],
    fun d shape reader => ?_⟩, hsent, fun d shape read => ?_⟩
  · unfold readResult
    simp only [hreceived]
    rfl
  · rw [result_readResult]
    simp only [hsent]
    rfl

/-- Four bytes that are overwritten between two that are not are found. -/
theorem damaged_reply_refused_overwritten :
    (∃ records, ∀ (d : Dialect) (shape : ResponseShape) (reader : Option ResultReader),
      (d.readResult shape reader
          ⟨200, [("X-Amz-Crc32", " 2180413220\t")], [1, 9, 9, 9, 9, 6]⟩).run =
        ⟨.error (.checksum " 2180413220\t" 1039563278), records⟩) ∧
    checkChecksum [("X-Amz-Crc32", " 2180413220\t")] [1, 2, 3, 4, 5, 6] = .ok () := by
  have hsent : crc32 [1, 2, 3, 4, 5, 6] = 2180413220 := by decide +kernel
  have hreceived : crc32 [1, 9, 9, 9, 9, 6] = 1039563278 := by decide +kernel
  have hheader : Headers.get? checksumHeader [("X-Amz-Crc32", " 2180413220\t")] =
      some (.ofString (" " ++ toString (crc32 [1, 2, 3, 4, 5, 6]).toNat ++ "\t")) := by
    rw [hsent]
    decide
  obtain ⟨⟨records, hrefused⟩, hpasses, -⟩ :=
    @damaged_reply_refused [1, 2, 3, 4, 5, 6] [1, 9, 9, 9, 9, 6] rfl (by decide) 1 rfl rfl " " "\t"
      (List.forall_mem_singleton.2 (by decide)) (List.forall_mem_singleton.2 (by decide)) 200 _
      hheader
  rw [hsent, hreceived] at hrefused
  exact ⟨⟨records, hrefused⟩, hpasses⟩

end Dialect

end ServiceClient
