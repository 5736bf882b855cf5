import TableCodegen.Text

/-!
# Places in a text

A part of a text starts at the byte size of what stands in front of it. Cutting from there to the
end of the part gives it back. The byte size is the number of bytes of the UTF-8 form, in which the
small codes stand for nothing but themselves (`utf8EncodeChar_ascii_or_high`).
-/

namespace TableCodegen
namespace Text

@[simp] theorem utf8Size_lineFeed : '\n'.utf8Size = 1 := rfl

@[simp] theorem utf8Size_tab : '\t'.utf8Size = 1 := rfl

/-- Only the empty text takes no bytes, since every character takes one at least. -/
theorem byteSize_eq_zero {t : Text} : byteSize t = 0 ↔ t = [] := by
  cases t with
  | nil => simp
  | cons c cs =>
    have hpos : 0 < c.utf8Size := c.utf8Size_pos
    simp only [byteSize_cons, reduceCtorEq, iff_false]
    omega

/-- **Of two fronts of a text the shorter one opens the longer one,** and what is between them opens
what is left behind the shorter one. -/
theorem exists_part_of_byteSize_le {front rest front' rest' : Text}
    (h : front ++ rest = front' ++ rest') (hle : byteSize front ≤ byteSize front') :
    ∃ part, front' = front ++ part ∧ rest = part ++ rest' := by
  obtain hpart | ⟨part, hfront, hrest⟩ := List.append_eq_append_iff.1 h
  · exact hpart
  · have hnil : part = [] := by
      rw [hfront, byteSize_append] at hle
      exact byteSize_eq_zero.1 (by omega)
    subst hnil
    exact ⟨[], by simpa using hfront.symm, by simpa using hrest.symm⟩

/-- **A part is what its place cuts out.** -/
theorem slice?_append (front part behind : Text) :
    slice? (byteSize front) (byteSize front + byteSize part) (front ++ part ++ behind) =
      some part := by
  rw [slice?, if_pos (Nat.le_add_right ..), List.append_assoc, splitAtByte?_append,
    Option.bind_some, Nat.add_sub_cancel_left, splitAtByte?_append, Option.map_some]

/-- The same for a text and places that are given otherwise. -/
theorem slice?_of_eq_append {t part : Text} {start stop : Nat} (front behind : Text)
    (ht : t = front ++ part ++ behind) (hstart : start = byteSize front)
    (hstop : stop = start + byteSize part) : slice? start stop t = some part := by
  rw [hstop, hstart, ht, slice?_append]

/-- Both parts of a text cut in two give back the text, and the first one has the size that was
asked for. -/
theorem eq_append_of_splitAtByte? {n : Nat} {t : Text} {parts : Text × Text}
    (h : splitAtByte? n t = some parts) : t = parts.1 ++ parts.2 ∧ byteSize parts.1 = n := by
  fun_induction splitAtByte? n t generalizing parts with
  | case1 t =>
    cases h
    exact ⟨rfl, rfl⟩
  | case2 => cases h
  | case3 n c cs hle ih =>
    obtain ⟨behind, hbehind, rfl⟩ := Option.map_eq_some_iff.1 h
    obtain ⟨hcs, hsize⟩ := ih hbehind
    refine ⟨congrArg (c :: ·) hcs, ?_⟩
    rw [byteSize_cons, hsize]
    omega
  | case4 => cases h

/-- **What is cut out is a part,** and the places are its own. -/
theorem exists_eq_append_of_slice? {t part : Text} {start stop : Nat}
    (h : slice? start stop t = some part) :
    ∃ front behind, t = front ++ part ++ behind ∧ start = byteSize front ∧
      stop = start + byteSize part := by
  rw [slice?] at h
  split at h
  · rename_i hle
    obtain ⟨⟨front, rest⟩, hfront, hrest⟩ := Option.bind_eq_some_iff.1 h
    obtain ⟨⟨part', behind⟩, hpart, rfl⟩ := Option.map_eq_some_iff.1 hrest
    obtain ⟨ht, hstart⟩ := eq_append_of_splitAtByte? hfront
    obtain ⟨hcut, hsize⟩ := eq_append_of_splitAtByte? hpart
    refine ⟨front, behind, ?_, hstart.symm, ?_⟩
    · rw [ht, hcut, List.append_assoc]
    · rw [hsize]
      omega
  · cases h

/-! ### Bytes -/

/-- A character is one byte, its code below 128, or each of its bytes is 128 or more. -/
theorem utf8EncodeChar_ascii_or_high (c : Char) :
    (c.toNat < 128 ∧ String.utf8EncodeChar c = [UInt8.ofNat c.toNat]) ∨
      ∀ b ∈ String.utf8EncodeChar c, 128 ≤ b.toNat := by
  by_cases h : c.toNat ≤ 127
  · exact .inl ⟨Nat.lt_succ_of_le h, if_pos h⟩
  · refine .inr ?_
    unfold String.utf8EncodeChar
    simp only [show ¬ c.val.toNat ≤ 127 from h, if_false]
    split
    · simp; omega
    · split
      · simp; omega
      · simp; omega

/-- The bytes of a text are those of its first character and then those of the rest. -/
theorem utf8_cons (c : Char) (cs : Text) : utf8 (c :: cs) = String.utf8EncodeChar c ++ utf8 cs :=
  List.flatMap_cons ..

/-- The bytes of two texts in a row are those of the one and then those of the other. -/
theorem utf8_append (s t : Text) : utf8 (s ++ t) = utf8 s ++ utf8 t := List.flatMap_append

/-- **The byte size is the number of bytes.** So places that are counted in one of the two ways are
places in the other. -/
theorem length_utf8 (t : Text) : (utf8 t).length = byteSize t := by
  induction t with
  | nil => rfl
  | cons c cs ih =>
    rw [utf8_cons, List.length_append, String.length_utf8EncodeChar, ih, byteSize_cons]

end Text
end TableCodegen
