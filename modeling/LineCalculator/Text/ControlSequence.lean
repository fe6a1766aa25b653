/-!
# Control sequences

A text that comes from outside can hold control sequences, which a terminal would
obey instead of showing.  The *legible* part of a text is what is left without them
and without single control characters other than the four that lay out text.

A sequence begins with the escape character, which also breaks off any sequence
before it; the cancel and the substitute character break one off without beginning
another.  The character behind the escape tells the kinds of sequences apart, and
each kind has its own end.  No kind but the three in which a terminal goes on laying
out text shows anything.  Layout inside one of those three interrupts it: the text
behind is legible up to the next character that is not, and there the sequence goes
on where it was left.
-/

namespace LineCalculator.Text

/-- The part of a control sequence in which a place of a text lies. -/
inductive SequencePart where
  /-- In no sequence. -/
  | outside
  /-- Right behind an escape character. -/
  | escape
  /-- Behind an escape character and some intermediate ones. -/
  | escapeIntermediate
  /-- In a sequence of parameters that its final character ends. -/
  | control
  /-- In a command to the surrounding system, which the bell ends. -/
  | command
  /-- At the head of a string for a device. -/
  | deviceEntry
  /-- In the parameters at the head of a string for a device. -/
  | deviceParameters
  /-- Behind the parameters at the head of a string for a device. -/
  | deviceIntermediate
  /-- In a string that nobody reads. -/
  | string
  deriving DecidableEq

/-- The character that begins a sequence. -/
def escapeChar : Char := '\x1b'

/-- The characters that break off a sequence. -/
def breaks : List Char := ['\x18', '\x1a']

/-- The control characters that lay out text. -/
def layout : List Char := ['\t', '\n', '\x0c', '\r']

/-- Decide whether the code point of a character lies between two code points. -/
def between (first last : Nat) (c : Char) : Bool := first ≤ c.toNat && c.toNat ≤ last

namespace SequencePart

/-- Decide whether a character is legible in a part of a sequence. -/
def shows : SequencePart → Char → Bool
  | outside, c => layout.contains c || (0x20 ≤ c.toNat && c.toNat ≠ 0x7f)
  | escape, c => layout.contains c
  | escapeIntermediate, c => layout.contains c
  | control, c => layout.contains c
  | _, _ => false

/-- The part of a sequence behind a character that is not legible in it.  A string is
over where the encoding of a character holds the byte that terminates strings. -/
def next : SequencePart → Char → SequencePart
  | outside, _ => outside
  | escape, '[' => control
  | escape, ']' => command
  | escape, 'P' => deviceEntry
  | escape, 'X' => string
  | escape, '^' => string
  | escape, '_' => string
  | escape, c =>
      if between 0x20 0x2f c then escapeIntermediate
      else if between 0x30 0x7e c then outside
      else escape
  | escapeIntermediate, c => if between 0x30 0x7e c then outside else escapeIntermediate
  | control, c => if between 0x40 0x7e c then outside else control
  | command, c => if c = '\x07' then outside else command
  | deviceEntry, c =>
      if between 0x20 0x2f c then deviceIntermediate
      else if between 0x30 0x3f c then deviceParameters
      else if between 0x40 0x7e c then string
      else deviceEntry
  | deviceParameters, c =>
      if between 0x20 0x2f c then deviceIntermediate
      else if between 0x3c 0x7e c then string
      else deviceParameters
  | deviceIntermediate, c => if between 0x30 0x7e c then string else deviceIntermediate
  | string, c => if (String.utf8EncodeChar c).contains 0x9c then outside else string

end SequencePart

/-- The legible characters of a text that begins in some part of a sequence, which
layout may have interrupted. -/
def legibleFrom (part : SequencePart) (interrupted : Bool) : List Char → List Char
  | [] => []
  | c :: cs =>
      if c = escapeChar then legibleFrom .escape false cs
      else if c ∈ breaks then legibleFrom .outside false cs
      else if (if interrupted then .outside else part).shows c then
        -- A character beyond ASCII ends the interrupted sequence for good.
        c :: legibleFrom (if c.toNat < 0x80 then part else .outside) true cs
      else legibleFrom (part.next c) false cs

/-- The legible part of a text. -/
def legible (text : String) : String := String.ofList (legibleFrom .outside false text.toList)

/-- No control sequence begins in what is legible. -/
theorem escapeChar_not_mem_legibleFrom (part : SequencePart) (interrupted : Bool)
    (text : List Char) : escapeChar ∉ legibleFrom part interrupted text := by
  induction text generalizing part interrupted with
  | nil => simp [legibleFrom]
  | cons c cs ih =>
      by_cases hescape : c = escapeChar
      · simpa only [legibleFrom, hescape, if_true] using ih _ _
      by_cases hbreak : c ∈ breaks
      · simpa only [legibleFrom, hescape, hbreak, if_true, if_false] using ih _ _
      by_cases hshows : (if interrupted then SequencePart.outside else part).shows c = true
      · simp only [legibleFrom, hescape, hbreak, hshows, if_true, if_false, List.mem_cons, not_or]
        exact ⟨Ne.symm hescape, ih _ _⟩
      · simpa only [legibleFrom, hescape, hbreak, hshows, Bool.false_eq_true, if_false] using ih _ _

/-- A text of characters that are legible outside sequences is kept as it is. -/
theorem legibleFrom_eq_self (interrupted : Bool) {text : List Char}
    (hshown : ∀ c ∈ text, SequencePart.outside.shows c = true) :
    legibleFrom .outside interrupted text = text := by
  induction text generalizing interrupted with
  | nil => rfl
  | cons c cs ih =>
      have hc := hshown c (by simp)
      have hcs := ih true fun d hd => hshown d (by simp [hd])
      have hescape : c ≠ escapeChar := by
        rintro rfl
        exact absurd hc (by decide)
      have hbreak : c ∉ breaks := by
        intro hmem
        simp only [breaks, List.mem_cons, List.not_mem_nil, or_false] at hmem
        rcases hmem with rfl | rfl <;> exact absurd hc (by decide)
      simp [legibleFrom, hescape, hbreak, hc, hcs]

end LineCalculator.Text
