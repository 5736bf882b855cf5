import TableCodegen.Hex
import TableCodegen.Proofs.Places

/-!
# What hexadecimal strings stand for

Reading goes over the bytes of the UTF-8 form, and writing gives small letters. Each tells the
other: a text stands for some bytes when its small letters are what is written for them. Every other
text has an odd number of bytes or a byte that is no digit, and then the leftmost such byte is the
one that is reported.

`Decoding` says this of a text, and `decode_eq_iff` that reading has no other outcome. So texts that
differ in the case of letters alone stand for the same bytes (`decode_of_toLower_eq`).
-/

namespace TableCodegen
namespace Hex

open Text

/-- A byte that is one of `0` to `9`, `A` to `F` or `a` to `f`. -/
def IsDigit (b : UInt8) : Prop :=
  0x30 ≤ b ∧ b ≤ 0x39 ∨ 0x41 ≤ b ∧ b ≤ 0x46 ∨ 0x61 ≤ b ∧ b ≤ 0x66

/-- What a text stands for, or why it stands for nothing. -/
inductive Decoding (t : Text) : Except Error Bytes → Prop where
  /-- An odd number of bytes comes before everything else. -/
  | oddLength (hodd : (utf8 t).length % 2 = 1) : Decoding t (.error .oddLength)
  /-- The leftmost byte that is no digit, with its index. -/
  | invalidByte {front behind : Bytes} {b : UInt8} (heven : (utf8 t).length % 2 = 0)
      (hbytes : utf8 t = front ++ b :: behind) (hfront : ∀ d ∈ front, IsDigit d)
      (hbad : ¬ IsDigit b) : Decoding t (.error (.invalidByte b front.length))
  | bytes {bytes : Bytes} (hlower : t.map Char.toLower = encode bytes) : Decoding t (.ok bytes)

/-! ### Digits -/

/-- A byte outside the three ranges of digits has no value. The tests that the reader makes in turn
are those ranges. -/
theorem digitValue?_eq_none {b : UInt8} (h : ¬ IsDigit b) : digitValue? b = none := by
  obtain ⟨hdecimal, hrest⟩ := not_or.1 h
  obtain ⟨hcapital, hsmall⟩ := not_or.1 hrest
  simp [digitValue?, hdecimal, hcapital, hsmall]

/-- Every digit has a value, and it fits in half a byte. So a pair of digits always makes up one
byte. -/
theorem exists_digitValue? {b : UInt8} (h : IsDigit b) :
    ∃ n < 16, digitValue? b = some (UInt8.ofNat n) := by
  have hall : ∀ m < 256, IsDigit (UInt8.ofNat m) →
      ∃ n < 16, digitValue? (UInt8.ofNat m) = some (UInt8.ofNat n) := by
    unfold IsDigit
    decide +kernel
  simpa using hall b.toNat b.toNat_lt (by simpa using h)

/-- Among the ASCII characters the digits are those that have a digit for their small letter. -/
theorem digitValue?_ascii : ∀ m < 128, ∀ n < 16,
    digitValue? (UInt8.ofNat m) = some (UInt8.ofNat n) ↔ (Char.ofNat m).toLower = digit n := by
  decide +kernel

/-- A digit that is written is an ASCII character, so what is written is one byte for each digit. -/
theorem toNat_digit_lt : ∀ n < 16, (digit n).toNat < 128 := by decide

/-- The bytes of a character outside ASCII are no digits, so the first of them is reported and never
a later one. -/
theorem not_isDigit_of_le {b : UInt8} (h : 0x80 ≤ b.toNat) : ¬ IsDigit b := by
  unfold IsDigit
  simp only [UInt8.le_iff_toNat_le]
  simp
  omega

/-- A character is one byte below 128, or its first byte is no digit. -/
theorem utf8EncodeChar_cases (c : Char) :
    (c.toNat < 128 ∧ String.utf8EncodeChar c = [UInt8.ofNat c.toNat]) ∨
      ∃ b bytes, String.utf8EncodeChar c = b :: bytes ∧ ¬ IsDigit b := by
  obtain hascii | hhigh := utf8EncodeChar_ascii_or_high c
  · exact .inl hascii
  · obtain ⟨b, bytes, hbytes⟩ := List.exists_cons_of_ne_nil (String.utf8EncodeChar_ne_nil (c := c))
    exact .inr ⟨b, bytes, hbytes, not_isDigit_of_le (hhigh b (hbytes ▸ List.mem_cons_self))⟩

/-- The byte of a character that has a digit for its small letter. -/
theorem utf8EncodeChar_of_toLower {c : Char} {n : Nat} (hn : n < 16) (h : c.toLower = digit n) :
    ∃ b, String.utf8EncodeChar c = [b] ∧ digitValue? b = some (UInt8.ofNat n) := by
  have hascii : c.toNat < 128 := by
    refine Nat.lt_of_not_le fun hlarge => ?_
    have hself : c.toLower = c := by
      refine dif_neg fun hcapital => ?_
      have hle : c.toNat ≤ 90 := UInt32.le_iff_toNat_le.1 hcapital.2
      omega
    have hdigit := toNat_digit_lt n hn
    rw [← h, hself] at hdigit
    omega
  refine ⟨UInt8.ofNat c.toNat, if_pos (Nat.le_of_lt_succ hascii), ?_⟩
  rw [digitValue?_ascii _ hascii n hn, Char.ofNat_toNat, h]

/-- The small letter of a character whose bytes are digits. -/
theorem toLower_of_isDigit {c : Char} (h : ∀ b ∈ String.utf8EncodeChar c, IsDigit b) :
    ∃ n < 16, c.toLower = digit n := by
  obtain ⟨hascii, hbytes⟩ | ⟨b, bytes, hbytes, hbad⟩ := utf8EncodeChar_cases c
  · obtain ⟨n, hn, hvalue⟩ := exists_digitValue? (h _ (hbytes ▸ List.mem_singleton_self _))
    rw [digitValue?_ascii _ hascii n hn, Char.ofNat_toNat] at hvalue
    exact ⟨n, hn, hvalue⟩
  · exact absurd (h b (hbytes ▸ List.mem_cons_self)) hbad

/-! ### Pairs of digits -/

/-- What is written for a byte has only digits in it. -/
theorem not_mem_encodeByte {c : Char} (h : ∀ n < 16, digit n ≠ c) (b : UInt8) :
    c ∉ encodeByte b := by
  have hb := b.toNat_lt
  have hhigh := h (b.toNat / 16) (by omega)
  have hlow := h (b.toNat % 16) (by omega)
  simp [encodeByte, hhigh.symm, hlow.symm]

/-- A byte is written as two digits, the upper half of it first. -/
theorem encode_cons (b : UInt8) (bytes : Bytes) :
    encode (b :: bytes) = digit (b.toNat / 16) :: digit (b.toNat % 16) :: encode bytes := rfl

/-- Two digits make the byte that they are written for. -/
theorem ofNat_mul_add (b : UInt8) :
    UInt8.ofNat (b.toNat / 16) * 16 + UInt8.ofNat (b.toNat % 16) = b := by
  have hb := b.toNat_lt
  rw [← UInt8.toNat_inj]
  simp
  omega

/-- **What is written for bytes is read back,** in small letters or not. The induction is on the
bytes, with the index at which the reader would report a bad digit. -/
theorem decodePairs_of_toLower {bytes : Bytes} :
    ∀ {t : Text} (index : Nat), t.map Char.toLower = encode bytes →
      (utf8 t).length % 2 = 0 ∧ decodePairs index (utf8 t) = .ok bytes := by
  induction bytes with
  | nil =>
    intro t index h
    obtain rfl := List.map_eq_nil_iff.1 h
    exact ⟨rfl, rfl⟩
  | cons b bytes ih =>
    intro t index h
    have hb := b.toNat_lt
    rw [encode_cons] at h
    obtain ⟨high, t, rfl, hhigh, h⟩ := List.map_eq_cons_iff.1 h
    obtain ⟨low, t, rfl, hlow, h⟩ := List.map_eq_cons_iff.1 h
    obtain ⟨highByte, hhigh, hvalue⟩ := utf8EncodeChar_of_toLower (by omega) hhigh
    obtain ⟨lowByte, hlow, hvalue'⟩ := utf8EncodeChar_of_toLower (by omega) hlow
    obtain ⟨heven, hrest⟩ := ih (index + 2) h
    rw [utf8_cons, utf8_cons, hhigh, hlow]
    refine ⟨by simp only [List.length_append, List.length_singleton]; omega, ?_⟩
    simp only [List.singleton_append, decodePairs, hvalue, hvalue', hrest, ofNat_mul_add]
    rfl

/-- A text of digits is, in small letters, what is written for some bytes. -/
theorem exists_encode_eq : ∀ {t : Text}, (∀ b ∈ utf8 t, IsDigit b) → t.length % 2 = 0 →
    ∃ bytes, t.map Char.toLower = encode bytes
  | [], _, _ => ⟨[], rfl⟩
  | [_], _, heven => by simp at heven
  | high :: low :: t, h, heven => by
    rw [utf8_cons, utf8_cons] at h
    simp only [List.mem_append, or_imp, forall_and] at h
    obtain ⟨m, hm, hhigh⟩ := toLower_of_isDigit h.1
    obtain ⟨n, hn, hlow⟩ := toLower_of_isDigit h.2.1
    rw [List.length_cons, List.length_cons] at heven
    obtain ⟨bytes, hrest⟩ := exists_encode_eq h.2.2 (by omega)
    refine ⟨UInt8.ofNat (m * 16 + n) :: bytes, ?_⟩
    have hbyte : (UInt8.ofNat (m * 16 + n)).toNat = m * 16 + n := UInt8.toNat_ofNat_of_lt' (by
      show _ < 256
      omega)
    rw [encode_cons, hbyte, List.map_cons, List.map_cons, hhigh, hlow, hrest]
    congr 3 <;> omega

/-- **The leftmost byte that is no digit is reported,** whether it is the first or the second of its
pair. -/
theorem decodePairs_of_bad {b : UInt8} (hbad : ¬ IsDigit b) :
    ∀ {front behind : Bytes} (index : Nat), (∀ d ∈ front, IsDigit d) →
      (front ++ b :: behind).length % 2 = 0 →
      decodePairs index (front ++ b :: behind) = .error (.invalidByte b (index + front.length))
  | [], [], _, _, heven => by simp at heven
  | [], low :: behind, index, _, _ => by
    simp only [List.nil_append, decodePairs, digitValue?_eq_none hbad]
    rfl
  | [high], behind, index, hfront, _ => by
    obtain ⟨n, -, hhigh⟩ := exists_digitValue? (hfront high List.mem_cons_self)
    simp only [List.singleton_append, decodePairs, hhigh, digitValue?_eq_none hbad]
    rfl
  | high :: low :: front, behind, index, hfront, heven => by
    obtain ⟨hhigh, hlow, hfront⟩ := by simpa only [List.forall_mem_cons] using hfront
    obtain ⟨m, -, hhigh⟩ := exists_digitValue? hhigh
    obtain ⟨n, -, hlow⟩ := exists_digitValue? hlow
    have hrest : (front ++ b :: behind).length % 2 = 0 := by
      simp only [List.cons_append, List.length_cons] at heven
      omega
    simp only [List.cons_append, decodePairs, hhigh, hlow,
      decodePairs_of_bad hbad (index + 2) hfront hrest]
    simp [Except.map]
    omega

/-- A text whose bytes are digits has one byte for each character. -/
theorem length_utf8_of_digits {t : Text} (h : ∀ b ∈ utf8 t, IsDigit b) :
    (utf8 t).length = t.length := by
  induction t with
  | nil => rfl
  | cons c cs ih =>
    rw [utf8_cons] at h ⊢
    simp only [List.mem_append, or_imp, forall_and] at h
    obtain ⟨-, hbytes⟩ | ⟨b, bytes, hbytes, hbad⟩ := utf8EncodeChar_cases c
    · rw [hbytes, List.length_append, ih h.2, List.length_cons, Nat.add_comm]
      rfl
    · exact absurd (h.1 b (hbytes ▸ List.mem_cons_self)) hbad

/-- Bytes are digits up to the end, or up to the first that is none. -/
theorem digits_cases : ∀ bytes : Bytes, (∀ b ∈ bytes, IsDigit b) ∨
    ∃ front b behind, bytes = front ++ b :: behind ∧ (∀ d ∈ front, IsDigit d) ∧ ¬ IsDigit b
  | [] => .inl fun _ h => absurd h List.not_mem_nil
  | b :: bytes => by
    by_cases hb : IsDigit b
    · obtain hall | ⟨front, bad, behind, rfl, hfront, hbad⟩ := digits_cases bytes
      · exact .inl (List.forall_mem_cons.2 ⟨hb, hall⟩)
      · exact .inr ⟨b :: front, bad, behind, rfl, List.forall_mem_cons.2 ⟨hb, hfront⟩, hbad⟩
    · exact .inr ⟨[], b, bytes, rfl, fun _ h => absurd h List.not_mem_nil, hb⟩

/-! ### Reading a text -/

/-- **Reading comes to the outcome that the text has.** Each constructor of `Decoding` is one way
through the reader: the length is looked at first, and then the pairs from the left. -/
theorem Decoding.decode_eq {t : Text} {result : Except Error Bytes} (h : Decoding t result) :
    decode t = result := by
  cases h with
  | oddLength hodd => exact if_pos hodd
  | invalidByte heven hbytes hfront hbad =>
    rw [decode, if_neg (by omega), hbytes, decodePairs_of_bad hbad 0 hfront (hbytes ▸ heven),
      Nat.zero_add]
  | bytes hlower =>
    obtain ⟨heven, hpairs⟩ := decodePairs_of_toLower 0 hlower
    rw [decode, if_neg (by omega), hpairs]

/-- **Every text has an outcome.** Either its bytes are digits in pairs, or their number is odd, or
there is a leftmost byte that is no digit. -/
theorem exists_decoding (t : Text) : ∃ result, Decoding t result := by
  obtain hodd | heven : (utf8 t).length % 2 = 1 ∨ (utf8 t).length % 2 = 0 := by omega
  · exact ⟨_, .oddLength hodd⟩
  · obtain hall | ⟨front, b, behind, hbytes, hfront, hbad⟩ := digits_cases (utf8 t)
    · rw [length_utf8_of_digits hall] at heven
      obtain ⟨bytes, hlower⟩ := exists_encode_eq hall heven
      exact ⟨_, .bytes hlower⟩
    · exact ⟨_, .invalidByte heven hbytes hfront hbad⟩

/-- **Reading has the outcome that the text tells,** and no other. -/
theorem decode_eq_iff {t : Text} {result : Except Error Bytes} :
    decode t = result ↔ Decoding t result := by
  refine ⟨fun h => ?_, Decoding.decode_eq⟩
  obtain ⟨result', hresult⟩ := exists_decoding t
  rwa [← h, hresult.decode_eq]

/-- **A text is read as some bytes exactly if its small letters are what is written for them.** This
is the form in which the case of letters is seen not to matter. -/
theorem decode_eq_ok_iff {t : Text} {bytes : Bytes} :
    decode t = .ok bytes ↔ t.map Char.toLower = encode bytes := by
  rw [decode_eq_iff]
  refine ⟨fun h => ?_, .bytes⟩
  cases h with
  | bytes hlower => exact hlower

/-- **Reading fails on an odd number of bytes and on a byte that is no digit,** and on nothing
else. -/
theorem exists_error_iff (t : Text) : (∃ error, decode t = .error error) ↔
    (utf8 t).length % 2 = 1 ∨ ∃ b ∈ utf8 t, ¬ IsDigit b := by
  constructor
  · rintro ⟨error, herror⟩
    cases decode_eq_iff.1 herror with
    | oddLength hodd => exact .inl hodd
    | invalidByte heven hbytes hfront hbad => exact .inr ⟨_, by simp [hbytes], hbad⟩
  · rintro (hodd | ⟨b, hb, hbad⟩)
    · exact ⟨_, decode_eq_iff.2 (.oddLength hodd)⟩
    · obtain hodd | heven : (utf8 t).length % 2 = 1 ∨ (utf8 t).length % 2 = 0 := by omega
      · exact ⟨_, decode_eq_iff.2 (.oddLength hodd)⟩
      · obtain hall | ⟨front, d, behind, hbytes, hfront, hbad⟩ := digits_cases (utf8 t)
        · exact absurd (hall b hb) hbad
        · exact ⟨_, decode_eq_iff.2 (.invalidByte heven hbytes hfront hbad)⟩

/-- What is written is in small letters, so it is read back. -/
theorem decode_encode (bytes : Bytes) : decode (encode bytes) = .ok bytes := by
  have hsmall : ∀ n < 16, (digit n).toLower = digit n := by decide
  rw [decode_eq_ok_iff]
  induction bytes with
  | nil => rfl
  | cons b bytes ih =>
    have hb := b.toNat_lt
    rw [encode_cons, List.map_cons, List.map_cons, ih, hsmall _ (by omega), hsmall _ (by omega)]

/-- **The case of letters makes no difference.** -/
theorem decode_of_toLower_eq {t s : Text} {bytes : Bytes}
    (h : t.map Char.toLower = s.map Char.toLower) (ht : decode t = .ok bytes) :
    decode s = .ok bytes := by
  rw [decode_eq_ok_iff] at ht ⊢
  rw [← h, ht]

end Hex
end TableCodegen
