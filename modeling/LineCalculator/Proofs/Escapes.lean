import LineCalculator.Proofs.DigitRuns
import LineCalculator.Text.Escape

/-!
# Reading escaped characters

The text that shows a quoted character is read back as that character.  It ends by itself: a
character that is shown alone is never a backslash, a backslash is followed by one letter or mark,
and the braced form ends at its brace.  So whatever stands behind a quoted character is left over,
and the same reading serves both places in which characters are quoted
(`unescape?_escape_append`).

All characters that a quoted character is shown with are visible, and none of them breaks a line
(`isHidden_of_mem_escape`).
-/

namespace LineCalculator.Text

/-! Hexadecimal digits. -/

/-- The number that a hexadecimal digit in lower case stands for. -/
def hexadecimalValue (digit : Char) : Nat :=
  if digit.isDigit then digit.toNat - '0'.toNat else digit.toNat - 'a'.toNat + 10

/-- The number that some hexadecimal digits denote. -/
def codePoint (digits : List Char) : Nat :=
  digits.foldl (fun value digit => 16 * value + hexadecimalValue digit) 0

theorem hexadecimalValue_digitChar : ∀ n < 16, hexadecimalValue n.digitChar = n := by
  decide

/-- Written in base sixteen, a number consists of the characters of sixteen digits. -/
theorem exists_digitChar_of_mem {n : Nat} {c : Char} (hmem : c ∈ Nat.toDigits 16 n) :
    ∃ digit < 16, c = digit.digitChar := by
  induction n using Nat.strongRecOn with
  | _ n ih =>
      rcases Nat.lt_or_ge n 16 with hlt | hge
      · rw [Nat.toDigits_of_lt_base hlt, List.mem_singleton] at hmem
        exact ⟨n, hlt, hmem⟩
      · rw [Nat.toDigits_of_base_le (by decide) hge, List.mem_append, List.mem_singleton] at hmem
        rcases hmem with hfront | rfl
        · exact ih (n / 16) (by omega) hfront
        · exact ⟨n % 16, Nat.mod_lt n (by decide), rfl⟩

/-- A number is read back from its hexadecimal digits. -/
theorem codePoint_toDigits (n : Nat) : codePoint (Nat.toDigits 16 n) = n := by
  induction n using Nat.strongRecOn with
  | _ n ih =>
      have hdigit := hexadecimalValue_digitChar (n % 16) (Nat.mod_lt n (by decide))
      rcases Nat.lt_or_ge n 16 with hlt | hge
      · rw [Nat.mod_eq_of_lt hlt] at hdigit
        rw [Nat.toDigits_of_lt_base hlt, codePoint, List.foldl_cons, hdigit, List.foldl_nil]
        omega
      · have hfront := ih (n / 16) (by omega)
        rw [codePoint] at hfront ⊢
        rw [Nat.toDigits_of_base_le (by decide) hge, List.foldl_append, hfront, List.foldl_cons,
          hdigit, List.foldl_nil]
        omega

/-! Reading. -/

/-- The character that a letter or a mark behind a backslash shows. -/
def ofEscapeLetter : Char → Char
  | '0' => '\x00'
  | 't' => '\t'
  | 'n' => '\n'
  | 'r' => '\r'
  | mark => mark

/-- Read what shows one character where it is quoted, and give the text behind it as well. -/
def unescape? : List Char → Option (Char × List Char)
  | '\\' :: 'u' :: '\x7b' :: text =>
      let digits := text.takeWhile (· ≠ '\x7d')
      some (.ofNat (codePoint digits), text.drop (digits.length + 1))
  | '\\' :: letter :: rest => some (ofEscapeLetter letter, rest)
  | '\\' :: [] => none
  | c :: rest => some (c, rest)
  | [] => none

theorem unescape?_letter {letter : Char} (hletter : letter ≠ 'u') (rest : List Char) :
    unescape? ('\\' :: letter :: rest) = some (ofEscapeLetter letter, rest) := by
  rw [unescape?]
  intro text heq
  exact absurd heq hletter

theorem unescape?_of_ne {c : Char} (hc : c ≠ '\\') (rest : List Char) :
    unescape? (c :: rest) = some (c, rest) := by
  rw [unescape?] <;> simp [hc]

/-- The braced form ends at the first closing brace, since no digit is one. -/
theorem unescape?_codePointForm (c : Char) (rest : List Char) :
    unescape? (codePointForm c ++ rest) = some (c, rest) := by
  have hdigits : ∀ d ∈ Nat.toDigits 16 c.toNat, (decide (d ≠ '\x7d')) = true := by
    intro d hd
    obtain ⟨digit, -, rfl⟩ := exists_digitChar_of_mem hd
    exact decide_eq_true (Nat.digitChar_ne '\x7d' rfl)
  have htake : (Nat.toDigits 16 c.toNat ++ '\x7d' :: rest).takeWhile (· ≠ '\x7d') =
      Nat.toDigits 16 c.toNat := takeWhile_append_of_stop hdigits (by simp)
  have hform : codePointForm c ++ rest =
      '\\' :: 'u' :: '\x7b' :: (Nat.toDigits 16 c.toNat ++ '\x7d' :: rest) := by
    simp [codePointForm]
  rw [hform, unescape?, htake, codePoint_toDigits, Char.ofNat_toNat, List.drop_append,
    List.drop_of_length_le] <;> simp

/-- A letter behind a backslash stands for the control character that it is written for. -/
theorem ofEscapeLetter_of_eq_some {c letter : Char} (hletter : escapeLetter? c = some letter) :
    ofEscapeLetter letter = c ∧ letter ≠ 'u' ∧ isHidden letter = false := by
  unfold escapeLetter? at hletter
  split at hletter <;> cases hletter <;>
    exact ⟨rfl, by decide, isHidden_eq_false_of_printable (by decide) (by decide)⟩

/-- A mark behind a backslash stands for itself. -/
theorem ofEscapeLetter_of_mem_marked {place : Place} {c : Char} (hmarked : c ∈ place.marked) :
    ofEscapeLetter c = c ∧ c ≠ 'u' ∧ isHidden c = false := by
  have hmark : c = '\\' ∨ c = '\'' ∨ c = '"' := by
    cases place <;> simp only [Place.marked, List.mem_cons, List.not_mem_nil, or_false] at hmarked
    · exact hmarked.imp_right .inl
    · exact hmarked
  rcases hmark with rfl | rfl | rfl <;>
    exact ⟨rfl, by decide, isHidden_eq_false_of_printable (by decide) (by decide)⟩

/-- The backslash is marked in both places. -/
theorem backslash_mem_marked (place : Place) : '\\' ∈ place.marked := by
  cases place <;> decide

/-- What shows a quoted character is read back as that character, whatever stands behind it. -/
theorem unescape?_escape_append (place : Place) (c : Char) (rest : List Char) :
    unescape? (escape place c ++ rest) = some (c, rest) := by
  rw [escape]
  split
  · next letter hletter =>
      obtain ⟨hshown, hne, -⟩ := ofEscapeLetter_of_eq_some hletter
      rw [List.cons_append, List.singleton_append, unescape?_letter hne, hshown]
  · split
    · next hmarked =>
        obtain ⟨hshown, hne, -⟩ := ofEscapeLetter_of_mem_marked hmarked
        rw [List.cons_append, List.singleton_append, unescape?_letter hne, hshown]
    · next hplain =>
        split
        · exact unescape?_codePointForm c rest
        · apply unescape?_of_ne
          rintro rfl
          exact hplain (backslash_mem_marked place)

/-! The characters of an escape. -/

/-- A text of printable ASCII characters can be seen. -/
theorem isHidden_of_mem_printable {text : List Char} {c : Char}
    (htext : (text.all fun c => 0x20 ≤ c.toNat && c.toNat < 0x7f) = true) (hmem : c ∈ text) :
    isHidden c = false := by
  have hc := List.all_eq_true.1 htext c hmem
  simp only [Bool.and_eq_true, decide_eq_true_eq] at hc
  exact isHidden_eq_false_of_printable hc.1 hc.2

/-- A digit can be seen. -/
theorem isHidden_of_isDigit {c : Char} (hdigit : c.isDigit = true) : isHidden c = false := by
  obtain ⟨hzero, hnine⟩ := Char.isDigit_iff_toNat.1 hdigit
  apply isHidden_eq_false_of_printable
  · exact Nat.le_trans (by decide) hzero
  · exact Nat.lt_of_le_of_lt hnine (by decide)

theorem isHidden_digitChar : ∀ n < 16, isHidden n.digitChar = false := by
  intro n hn
  apply isHidden_eq_false_of_printable <;> revert n <;> decide

/-- The braced form can be seen. -/
theorem isHidden_of_mem_codePointForm {c d : Char} (hmem : d ∈ codePointForm c) :
    isHidden d = false := by
  rw [codePointForm, List.mem_append, List.mem_append] at hmem
  rcases hmem with (hopening | hdigit) | hclosing
  · exact isHidden_of_mem_printable (by decide) hopening
  · obtain ⟨n, hn, rfl⟩ := exists_digitChar_of_mem hdigit
    exact isHidden_digitChar n hn
  · exact isHidden_of_mem_printable (by decide) hclosing

/-- A letter or a mark that can be seen is so behind a backslash as well. -/
theorem isHidden_of_mem_backslash {letter d : Char} (hletter : isHidden letter = false)
    (hmem : d ∈ ['\\', letter]) : isHidden d = false := by
  simp only [List.mem_cons, List.not_mem_nil, or_false] at hmem
  rcases hmem with rfl | rfl
  · exact isHidden_eq_false_of_printable (by decide) (by decide)
  · exact hletter

/-- What shows a quoted character can be seen. -/
theorem isHidden_of_mem_escape {place : Place} {c d : Char} (hmem : d ∈ escape place c) :
    isHidden d = false := by
  rw [escape] at hmem
  split at hmem
  · next letter hletter =>
      obtain ⟨-, -, hvisible⟩ := ofEscapeLetter_of_eq_some hletter
      exact isHidden_of_mem_backslash hvisible hmem
  · split at hmem
    · next hmarked =>
        obtain ⟨-, -, hvisible⟩ := ofEscapeLetter_of_mem_marked hmarked
        exact isHidden_of_mem_backslash hvisible hmem
    · split at hmem
      · exact isHidden_of_mem_codePointForm hmem
      · next hvisible =>
          obtain rfl := List.mem_singleton.1 hmem
          simpa using hvisible

end LineCalculator.Text
