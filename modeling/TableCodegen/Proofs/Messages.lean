import TableCodegen.Failure

/-!
# Messages are single lines

A message about a table quotes numbers and the text of a cell. The numbers are digits and the text
is escaped, so whatever the cell holds, the message has no line feed.
-/

namespace TableCodegen
namespace Text

/-- The library collects digits in front of those it has, so each character is one that was there or
the digit of a number. -/
theorem exists_digit_of_mem_toDigitsCore {base : Nat} {c : Char} :
    ∀ {fuel n : Nat} {behind : Text}, c ∈ Nat.toDigitsCore base fuel n behind →
      c ∈ behind ∨ ∃ d, c = Nat.digitChar d
  | 0, _, _, h => .inl h
  | fuel + 1, n, behind, h => by
    rw [Nat.toDigitsCore] at h
    have hcons : c ∈ Nat.digitChar (n % base) :: behind → c ∈ behind ∨ ∃ d, c = Nat.digitChar d :=
      fun hc => (List.mem_cons.1 hc).symm.imp_right fun hdigit => ⟨_, hdigit⟩
    split at h
    · exact hcons h
    · obtain h | h := exists_digit_of_mem_toDigitsCore h
      · exact hcons h
      · exact .inr h

/-- Digits, in whatever base, are no line feeds. -/
theorem lineFeed_notMem_toDigits (base n : Nat) : '\n' ∉ Nat.toDigits base n := by
  intro h
  obtain h | ⟨d, hd⟩ := exists_digit_of_mem_toDigitsCore h
  · exact List.not_mem_nil h
  · exact Nat.digitChar_ne '\n' (by decide) hd.symm

/-- A number in a message is written without line feeds. -/
theorem lineFeed_notMem_decimal (n : Nat) : '\n' ∉ decimal n := lineFeed_notMem_toDigits 10 n

/-- An escaped character is written without line feeds: a line feed itself is an escape, and no
escape holds one. -/
theorem lineFeed_notMem_escapeChar {quote : Char} (hquote : quote ≠ '\n') (c : Char) :
    '\n' ∉ escapeChar quote c := by
  by_cases hc : c = '\n'
  · subst hc
    simp [escapeChar]
  · have hquoted : '\n' ∉ ['\\', quote] := by simp [Ne.symm hquote]
    have hself : '\n' ∉ [c] := by simpa using Ne.symm hc
    have hhex := lineFeed_notMem_toDigits 16 c.toNat
    unfold escapeChar
    repeat' split
    all_goals first | exact hquoted | exact hself | simp [hhex]

/-- **An escaped text is a single line.** -/
theorem lineFeed_notMem_escaped (t : Text) : '\n' ∉ escaped t := by
  simp only [escaped, List.cons_append, List.mem_cons, List.mem_append, List.mem_flatMap,
    List.not_mem_nil, or_false, not_or, not_exists, not_and]
  exact ⟨by decide, fun c _ => lineFeed_notMem_escapeChar (by decide) c, by decide⟩

end Text

/-- **The message about a row is a single line.** -/
theorem Table.Cause.lineFeed_notMem_message (cause : Table.Cause) : '\n' ∉ cause.message := by
  cases cause with
  | missingColumn column found =>
    have hfound := Text.lineFeed_notMem_decimal found
    have hcolumn := Text.lineFeed_notMem_decimal (column + 1)
    unfold message
    simp [hfound, hcolumn]
  | invalidTypeCode cell =>
    have hcell := Text.lineFeed_notMem_escaped cell
    unfold message
    simp [hcell]

end TableCodegen
