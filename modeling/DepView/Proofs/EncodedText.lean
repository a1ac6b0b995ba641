import DepView.Text.Percent
import Mathlib.Tactic.SplitIfs

/-!
Encodings that lose nothing. UTF-8 is read back character by character, and a percent-encoded
text is read back as the UTF-8 of the text as long as a percent sign is never safe.
-/

namespace DepView.Text

/-! UTF-8. -/

namespace Utf8

theorem toNat_toUInt8 {n : Nat} (h : n < 256) : n.toUInt8.toNat = n := by
  simp [Nat.toUInt8, Nat.mod_eq_of_lt h]

theorem continue?_cons {more low high value n : Nat} (hn : n < 256) (hlow : low ≤ n)
    (hhigh : n ≤ high) (rest : Bytes) :
    continue? (more + 1) low high value (n.toUInt8 :: rest) =
      continue? more 0x80 0xbf (value * 0x40 + (n - 0x80)) rest := by
  rw [continue?, toNat_toUInt8 hn, if_pos (by simp [hlow, hhigh])]

/-! A first byte, and what it tells of the bytes behind it. -/

theorem lead?_one {k : Nat} (h : k < 0x80) : lead? k.toUInt8 = some ⟨0, 0x80, 0xbf, k⟩ := by
  unfold lead?
  rw [toNat_toUInt8 (by omega)]
  exact if_pos h

theorem lead?_two {k : Nat} (hlow : 2 ≤ k) (hhigh : k < 0x20) :
    lead? (0xc0 + k).toUInt8 = some ⟨1, 0x80, 0xbf, k⟩ := by
  unfold lead?
  rw [toNat_toUInt8 (by omega)]
  dsimp only
  rw [if_neg (by omega), if_neg (by omega), if_pos (by omega), Nat.add_sub_cancel_left]

theorem lead?_three {k : Nat} (h : k < 0x10) :
    lead? (0xe0 + k).toUInt8 =
      some ⟨2, if k = 0 then 0xa0 else 0x80, if k = 13 then 0x9f else 0xbf, k⟩ := by
  have hfirst : (0xe0 + k == 0xe0) = decide (k = 0) := by
    rw [Bool.eq_iff_iff, beq_iff_eq, decide_eq_true_eq]
    omega
  have hlast : (0xe0 + k == 0xed) = decide (k = 13) := by
    rw [Bool.eq_iff_iff, beq_iff_eq, decide_eq_true_eq]
    omega
  unfold lead?
  rw [toNat_toUInt8 (by omega)]
  dsimp only
  rw [if_neg (by omega), if_neg (by omega), if_neg (by omega), if_pos (by omega),
    Nat.add_sub_cancel_left, hfirst, hlast]
  simp only [decide_eq_true_eq]

theorem lead?_four {k : Nat} (h : k < 5) :
    lead? (0xf0 + k).toUInt8 =
      some ⟨3, if k = 0 then 0x90 else 0x80, if k = 4 then 0x8f else 0xbf, k⟩ := by
  have hfirst : (0xf0 + k == 0xf0) = decide (k = 0) := by
    rw [Bool.eq_iff_iff, beq_iff_eq, decide_eq_true_eq]
    omega
  have hlast : (0xf0 + k == 0xf4) = decide (k = 4) := by
    rw [Bool.eq_iff_iff, beq_iff_eq, decide_eq_true_eq]
    omega
  unfold lead?
  rw [toNat_toUInt8 (by omega)]
  dsimp only
  rw [if_neg (by omega), if_neg (by omega), if_neg (by omega), if_neg (by omega),
    if_pos (by omega), Nat.add_sub_cancel_left, hfirst, hlast]
  simp only [decide_eq_true_eq]

theorem step_of_lead {b : UInt8} {more low high bits : Nat}
    (h : lead? b = some ⟨more, low, high, bits⟩) (rest : Bytes) :
    step b rest = continue? more low high bits rest := by
  rw [step, h]

/-- The bytes of a character are one step of reading, whatever follows them. -/
theorem step_encodeChar (c : Char) (rest : Bytes) :
    ∃ b tail, encodeChar c = b :: tail ∧ step b (tail ++ rest) = (some c, rest) := by
  have hvalid : c.toNat < 0xd800 ∨ 0xdfff < c.toNat ∧ c.toNat < 0x110000 := c.valid
  have hback : ∀ n, n = c.toNat → Char.ofNat n = c := by
    rintro n rfl
    exact Char.ofNat_toNat c
  unfold encodeChar
  dsimp only
  generalize c.toNat = n at hvalid hback
  -- The bounds of the second byte leave out what a shorter form, half of a pair or a code beyond
  -- the last one would need.
  split_ifs with h1 h2 h3
  · refine ⟨_, _, rfl, ?_⟩
    rw [step_of_lead (lead?_one h1), continue?, hback n rfl]
    rfl
  · refine ⟨_, _, rfl, ?_⟩
    rw [step_of_lead (lead?_two (by omega) (by omega)), List.cons_append, List.nil_append,
      continue?_cons (by omega) (by omega) (by omega), continue?, hback _ (by omega)]
  · refine ⟨_, _, rfl, ?_⟩
    rw [step_of_lead (lead?_three (by omega)), List.cons_append, List.cons_append, List.nil_append,
      continue?_cons (by omega) (by split <;> omega) (by split <;> omega),
      continue?_cons (by omega) (by omega) (by omega), continue?, hback _ (by omega)]
  · refine ⟨_, _, rfl, ?_⟩
    rw [step_of_lead (lead?_four (by omega)), List.cons_append, List.cons_append,
      List.cons_append, List.nil_append,
      continue?_cons (by omega) (by split <;> omega) (by split <;> omega),
      continue?_cons (by omega) (by omega) (by omega),
      continue?_cons (by omega) (by omega) (by omega), continue?, hback _ (by omega)]

theorem pieces_encode (text : Text) : pieces (encode text) = text.map some := by
  induction text with
  | nil => rw [encode, List.flatMap_nil, pieces, List.map_nil]
  | cons c text ih =>
    obtain ⟨b, tail, hbytes, hstep⟩ := step_encodeChar c (encode text)
    have hencode : encode (c :: text) = b :: (tail ++ encode text) := by
      rw [encode, List.flatMap_cons, hbytes]
      rfl
    rw [hencode, pieces, hstep, ih, List.map_cons]

/-- A text is read back from its UTF-8 bytes. -/
theorem decode?_encode (text : Text) : decode? (encode text) = some text := by
  unfold decode?
  rw [pieces_encode]
  induction text with
  | nil => rfl
  | cons c text ih => simp [ih]

theorem decodeLossy_encode (text : Text) : decodeLossy (encode text) = text := by
  rw [decodeLossy, pieces_encode, List.map_map]
  exact List.map_id text

end Utf8

/-! Percent signs. -/

namespace Percent

theorem hexValue?_hexDigit : ∀ n < 16, hexValue? (hexDigit n) = some n := by
  decide

theorem decode_encodeByte (b : UInt8) (rest : Text) :
    decode (encodeByte b ++ rest) = b :: decode rest := by
  have hb : b.toNat < 256 := b.toNat_lt
  have hvalue : 16 * (b.toNat / 16) + b.toNat % 16 = b.toNat := by omega
  simp only [encodeByte, List.cons_append, List.nil_append, decode,
    hexValue?_hexDigit (b.toNat / 16) (by omega), hexValue?_hexDigit (b.toNat % 16) (by omega),
    hvalue]
  simp

theorem decode_cons {c : Char} (hc : c ≠ '%') (rest : Text) :
    decode (c :: rest) = Utf8.encodeChar c ++ decode rest := by
  rw [decode]
  rintro a b tail rfl
  exact absurd rfl hc

/-- Without percent signs there is nothing to decode. -/
theorem decode_append_of_notMem {text : Text} (h : '%' ∉ text) (rest : Text) :
    decode (text ++ rest) = Utf8.encode text ++ decode rest := by
  induction text with
  | nil => rfl
  | cons c text ih =>
    rw [List.mem_cons, not_or] at h
    rw [List.cons_append, decode_cons (Ne.symm h.1), ih h.2]
    exact (List.append_assoc ..).symm

theorem decode_of_notMem {text : Text} (h : '%' ∉ text) : decode text = Utf8.encode text := by
  simpa [decode] using decode_append_of_notMem h []

theorem decode_encodeBytes (bytes : Bytes) (rest : Text) :
    decode (bytes.flatMap encodeByte ++ rest) = bytes ++ decode rest := by
  induction bytes with
  | nil => rfl
  | cons b bytes ih =>
    rw [List.flatMap_cons, List.append_assoc, decode_encodeByte, ih, List.cons_append]

theorem encode_cons (isSafe : Char → Bool) (c : Char) (text : Text) :
    encode isSafe (c :: text) =
      (if isSafe c then [c] else (Utf8.encodeChar c).flatMap encodeByte) ++ encode isSafe text :=
  List.flatMap_cons

/-- An encoded text is read back, whatever follows it. -/
theorem decode_encode_append {isSafe : Char → Bool} (hpercent : isSafe '%' = false)
    (text rest : Text) : decode (encode isSafe text ++ rest) = Utf8.encode text ++ decode rest := by
  induction text with
  | nil => rfl
  | cons c text ih =>
    rw [encode_cons, Utf8.encode, List.flatMap_cons, List.append_assoc, List.append_assoc]
    split
    · rename_i hsafe
      have hc : c ≠ '%' := by
        rintro rfl
        rw [hpercent] at hsafe
        cases hsafe
      rw [List.singleton_append, decode_cons hc, ih]
      rfl
    · rw [decode_encodeBytes, ih]
      rfl

end Percent

end DepView.Text
