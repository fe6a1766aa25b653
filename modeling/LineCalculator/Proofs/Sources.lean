import LineCalculator.Console.Session
import Mathlib.Data.List.Forall2
import Mathlib.Data.List.TakeWhile

/-!
# Sources of a line

A session takes its line from the arguments or from the input, and answers it alike.  What comes
from the input is a list of bytes, of which only the first line counts: its line feed and one
carriage return right before it are dropped, everything else belongs to the line, and the bytes
behind it need not even be text.

The bytes of a character other than the line feed never hold a line feed, so the first one in the
input is the end of the line (`toNat_of_mem_utf8EncodeChar`).

Main statement: `respond_of_supplies`.
-/

namespace LineCalculator.Console

/-! The first line of the input. -/

/-- The bytes of a text. -/
def bytes (text : String) : List UInt8 := text.toByteArray.data.toList

/-- The bytes of a text are those of its characters. -/
theorem bytes_eq_flatMap (text : String) :
    bytes text = text.toList.flatMap String.utf8EncodeChar := by
  rw [bytes, ← String.utf8Encode_toList, List.utf8Encode, List.toList_data_toByteArray]

/-- A byte below one hundred and twenty-eight stands for the character with its number. -/
theorem toNat_of_mem_utf8EncodeChar {c : Char} {byte : UInt8}
    (hmem : byte ∈ String.utf8EncodeChar c) (hbyte : byte.toNat < 128) :
    c.toNat = byte.toNat := by
  have hval : c.toNat = c.val.toNat := rfl
  simp only [String.utf8EncodeChar] at hmem
  split at hmem
  · obtain rfl := List.mem_singleton.1 hmem
    rw [UInt8.toNat_ofNat']
    omega
  · -- All bytes of a longer character are larger.
    split at hmem
    · simp only [List.mem_cons, List.not_mem_nil, or_false] at hmem
      rcases hmem with rfl | rfl <;> rw [UInt8.toNat_ofNat'] at hbyte <;> omega
    · split at hmem
      · simp only [List.mem_cons, List.not_mem_nil, or_false] at hmem
        rcases hmem with rfl | rfl | rfl <;> rw [UInt8.toNat_ofNat'] at hbyte <;> omega
      · simp only [List.mem_cons, List.not_mem_nil, or_false] at hmem
        rcases hmem with rfl | rfl | rfl | rfl <;> rw [UInt8.toNat_ofNat'] at hbyte <;> omega

/-- A text without a line feed has no byte that ends a line. -/
theorem lineFeed_not_mem_bytes {text : String} (htext : '\n' ∉ text.toList) :
    lineFeed ∉ bytes text := by
  intro hmem
  rw [bytes_eq_flatMap] at hmem
  obtain ⟨c, hc, hbyte⟩ := List.mem_flatMap.1 hmem
  have hnumber := toNat_of_mem_utf8EncodeChar hbyte (by decide)
  obtain rfl : c = '\n' := Char.toNat_inj.1 hnumber
  exact htext hc

/-- The bytes of a text end with a carriage return only if the text does. -/
theorem getLast?_bytes_ne {text : String} (htext : text.toList.getLast? ≠ some '\r') :
    (bytes text).getLast? ≠ some carriageReturn := by
  rw [bytes_eq_flatMap]
  rcases List.eq_nil_or_concat text.toList with hnil | ⟨front, last, hconcat⟩
  · simp [hnil]
  · rw [hconcat, List.concat_eq_append] at htext ⊢
    rw [List.flatMap_append, List.flatMap_singleton,
      List.getLast?_append_of_ne_nil _ String.utf8EncodeChar_ne_nil]
    intro hlast
    have hnumber := toNat_of_mem_utf8EncodeChar (List.mem_of_getLast? hlast) (by decide)
    obtain rfl : last = '\r' := Char.toNat_inj.1 hnumber
    exact htext List.getLast?_concat

/-- The input supplies a line: the line is ended by a line feed behind a carriage return, by a
line feed alone, or by the end of the input.  Behind a line feed any bytes can follow. -/
inductive Supplies (line : String) : List UInt8 → Prop
  | returned (rest : List UInt8) :
      Supplies line (bytes line ++ carriageReturn :: lineFeed :: rest)
  | fed (hlast : line.toList.getLast? ≠ some '\r') (rest : List UInt8) :
      Supplies line (bytes line ++ lineFeed :: rest)
  | ended : Supplies line (bytes line)

/-- The text in front of a line feed. -/
theorem takeWhile_ne_lineFeed {text : List UInt8} (htext : lineFeed ∉ text) (rest : List UInt8) :
    (text ++ lineFeed :: rest).takeWhile (· ≠ lineFeed) = text := by
  rw [List.takeWhile_append_of_pos]
  · simp
  · intro byte hbyte
    simpa using ne_of_mem_of_not_mem hbyte htext

/-- The bytes of the first line are those of the line that is supplied. -/
theorem Supplies.lineBytes_eq {line : String} {input : List UInt8} (hinput : Supplies line input)
    (hline : '\n' ∉ line.toList) : lineBytes input = bytes line := by
  have hbytes := lineFeed_not_mem_bytes hline
  unfold lineBytes
  cases hinput with
  | returned rest =>
      have hbody : lineFeed ∉ bytes line ++ [carriageReturn] := by
        rw [List.mem_append, List.mem_singleton]
        rintro (hmem | hreturn)
        · exact hbytes hmem
        · exact absurd hreturn (by decide)
      have hfront := takeWhile_ne_lineFeed hbody rest
      rw [List.append_assoc, List.singleton_append] at hfront
      rw [hfront, if_pos ⟨by simp, List.getLast?_concat⟩, List.dropLast_concat]
  | fed hlast rest =>
      rw [takeWhile_ne_lineFeed hbytes, if_neg]
      rintro ⟨-, hreturn⟩
      exact getLast?_bytes_ne hlast hreturn
  | ended =>
      have hall : (bytes line).takeWhile (· ≠ lineFeed) = bytes line := by
        refine List.takeWhile_eq_self_iff.2 fun byte hbyte => ?_
        simpa using ne_of_mem_of_not_mem hbyte hbytes
      rw [hall, if_neg]
      rintro ⟨hlt, -⟩
      exact absurd hlt (Nat.lt_irrefl _)

theorem fromUTF8?_bytes (line : String) : String.fromUTF8? ⟨(bytes line).toArray⟩ = some line := by
  have hwhole : (⟨(bytes line).toArray⟩ : ByteArray) = line.toByteArray := rfl
  rw [hwhole, String.fromUTF8?, dif_pos line.isValidUTF8]
  rfl

/-- The line that is supplied is the first line of the input. -/
theorem Supplies.inputLine?_eq {line : String} {input : List UInt8}
    (hinput : Supplies line input) (hline : '\n' ∉ line.toList) :
    inputLine? input = some line := by
  rw [inputLine?, hinput.lineBytes_eq hline, fromUTF8?_bytes]

/-! Flags among the arguments. -/

/-- The arguments that raise a flag. -/
inductive Flag.WrittenAs : Flag → String → Prop
  | name (flag : Flag) : flag.WrittenAs ("--" ++ flag.name)
  | letter : WrittenAs .quiet "-q"

/-- Some arguments raise some flags, in this order and each of them once, and none of these asks
for information instead of a session. -/
structure Raises (texts : List String) (flags : List Flag) : Prop where
  written : List.Forall₂ Flag.WrittenAs flags texts
  nodup : flags.Nodup
  help_not_mem : .help ∉ flags
  version_not_mem : .version ∉ flags

namespace Arguments

/-- An argument that is written for a flag raises it, and reading goes on behind it. -/
theorem read_cons {flag : Flag} {text : String} (hwritten : flag.WrittenAs text)
    (more : List String) (arguments : Arguments) :
    read (text :: more) arguments = (arguments.raise flag).bind (read more) := by
  cases hwritten with
  | name => cases flag <;> rfl
  | letter =>
      have hread : read ("-q" :: more) arguments =
          (['q'].foldlM readLetter arguments).bind (read more) := by rfl
      have hletter : ['q'].foldlM readLetter arguments = arguments.raise .quiet :=
        bind_pure (arguments.readLetter 'q')
      rw [hread, hletter]

theorem raise_of_not_mem {flag : Flag} {arguments : Arguments} (hhelp : flag ≠ .help)
    (hversion : flag ≠ .version) (hnew : flag ∉ arguments.flags) :
    arguments.raise flag = .ok { arguments with flags := flag :: arguments.flags } := by
  have hhas : arguments.has flag = false := by simpa [has] using hnew
  cases flag <;> simp_all [raise]

/-- Arguments that raise flags are read one by one. -/
theorem read_append {flags : List Flag} {texts : List String}
    (hwritten : List.Forall₂ Flag.WrittenAs flags texts) (hnodup : flags.Nodup)
    (hhelp : .help ∉ flags) (hversion : .version ∉ flags) (arguments : Arguments)
    (hnew : ∀ flag ∈ flags, flag ∉ arguments.flags) (more : List String) :
    read (texts ++ more) arguments =
      read more { arguments with flags := flags.reverse ++ arguments.flags } := by
  induction hwritten generalizing arguments with
  | nil => rfl
  | @cons flag text flags texts hflag _ ih =>
      obtain ⟨hfresh, hnodup⟩ := List.nodup_cons.1 hnodup
      rw [List.mem_cons, not_or] at hhelp hversion
      have hraised := raise_of_not_mem (Ne.symm hhelp.1) (Ne.symm hversion.1)
        (hnew flag List.mem_cons_self)
      rw [List.cons_append, read_cons hflag, hraised]
      show read (texts ++ more) _ = _
      rw [ih hnodup hhelp.2 hversion.2]
      · rw [List.reverse_cons, List.append_assoc, List.singleton_append]
      · intro other hother
        rw [List.mem_cons, not_or]
        exact ⟨ne_of_mem_of_not_mem hother hfresh, hnew other (List.mem_cons_of_mem _ hother)⟩

end Arguments

theorem Raises.parse_append {texts : List String} {flags : List Flag}
    (htexts : Raises texts flags) (more : List String) :
    Arguments.parse (texts ++ more) = Arguments.read more ⟨flags.reverse, none⟩ := by
  rw [Arguments.parse, Arguments.read_append htexts.written htexts.nodup htexts.help_not_mem
    htexts.version_not_mem .empty (fun _ _ => List.not_mem_nil)]
  simp only [Arguments.empty, List.append_nil]

/-! One session. -/

namespace Session

/-- The session that some flags settle. -/
def raised (surroundings : Surroundings) (flags : List Flag) (expression? : Option String) :
    Session where
  arguments := ⟨flags.reverse, expression?⟩
  coloured := !decide (.noColor ∈ flags) && (surroundings.noColor?.getD "").isEmpty
  filter := .parse (surroundings.logFilter?.getD "")

/-- The banner and the request for an expression, in colour or without. -/
def announcement (coloured : Bool) : String :=
  String.join (banner.map fun text => paint coloured .banner text ++ "\n") ++ request

variable {surroundings : Surroundings} {texts : List String} {flags : List Flag}

theorem has_raised (flag : Flag) (expression? : Option String) :
    (raised surroundings flags expression?).arguments.has flag = decide (flag ∈ flags) := by
  simp [raised, Arguments.has]

theorem ofArguments_of_parse {expression? : Option String}
    (hparse : Arguments.parse texts = .ok ⟨flags.reverse, expression?⟩) :
    ofArguments surroundings texts = .ok (raised surroundings flags expression?) := by
  have hhas : (raised surroundings flags expression?).arguments.has .noColor =
      decide (.noColor ∈ flags) := has_raised .noColor expression?
  rw [ofArguments, hparse, raised, ← hhas]
  rfl

/-- A session without an expression. -/
theorem ofArguments_of_raises (htexts : Raises texts flags) :
    ofArguments surroundings texts = .ok (raised surroundings flags none) := by
  have hparse := htexts.parse_append []
  rw [List.append_nil] at hparse
  exact ofArguments_of_parse hparse

/-- A session whose expression stands behind a bare pair of dashes. -/
theorem ofArguments_append_of_raises (htexts : Raises texts flags) (line : String) :
    ofArguments surroundings (texts ++ ["--", line]) =
      .ok (raised surroundings flags (some line)) :=
  ofArguments_of_parse (htexts.parse_append ["--", line])

/-- The answer to a line rests on two of the flags, the colour and the log filter. -/
theorem answer_congr {session other : Session} (hcoloured : session.coloured = other.coloured)
    (hfilter : session.filter = other.filter)
    (hstrict : session.arguments.has .strict = other.arguments.has .strict)
    (htokens : session.arguments.has .tokens = other.arguments.has .tokens) (line : String) :
    session.answer line = other.answer line := by
  have hmode : session.mode = other.mode := by rw [mode, mode, hstrict]
  simp only [answer, success, failure, log, hcoloured, hfilter, hmode, htokens]

/-- Whether a session is quiet and where its line comes from do not matter to the answer. -/
theorem answer_raised {flags' : List Flag}
    (hsame : ∀ flag ≠ Flag.quiet, (flag ∈ flags ↔ flag ∈ flags'))
    (expression? expression?' : Option String) (line : String) :
    (raised surroundings flags expression?).answer line =
      (raised surroundings flags' expression?').answer line := by
  have hhas (flag : Flag) (hflag : flag ≠ .quiet) :
      (raised surroundings flags expression?).arguments.has flag =
        (raised surroundings flags' expression?').arguments.has flag := by
    rw [has_raised, has_raised]
    exact decide_eq_decide.2 (hsame flag hflag)
  have hcoloured : (raised surroundings flags expression?).coloured =
      (raised surroundings flags' expression?').coloured := by
    simp only [raised, hsame .noColor (by decide)]
  exact answer_congr hcoloured rfl (hhas .strict (by decide)) (hhas .tokens (by decide)) line

theorem greeting_raised (expression? : Option String) :
    (raised surroundings flags expression?).greeting =
      if .quiet ∈ flags then "" else
        announcement (raised surroundings flags expression?).coloured := by
  simp only [greeting, has_raised, decide_eq_true_eq, announcement]

end Session

/-- A line from the input is answered like one that stands among the arguments.  A session that
is not quiet prints its announcement first. -/
theorem respond_of_supplies (surroundings : Surroundings) {texts texts' : List String}
    {flags flags' : List Flag} (htexts : Raises texts flags) (htexts' : Raises texts' flags')
    (hsame : ∀ flag ≠ Flag.quiet, (flag ∈ flags ↔ flag ∈ flags')) {line : String}
    (hline : '\n' ∉ line.toList) {input : List UInt8} (hinput : Supplies line input)
    (unread : List UInt8) :
    let asked := respond surroundings texts input
    let named := respond surroundings (texts' ++ ["--", line]) unread
    let coloured := !decide (.noColor ∈ flags) && (surroundings.noColor?.getD "").isEmpty
    (.quiet ∈ flags → asked = named) ∧
      (.quiet ∉ flags →
        asked = { named with printed := Session.announcement coloured ++ named.printed }) := by
  intro asked named coloured
  have hnamed : named = (Session.raised surroundings flags none).answer line := by
    have hanswer : named = (Session.raised surroundings flags' (some line)).answer line := by
      simp only [named, respond, Session.ofArguments_append_of_raises htexts']
      rfl
    rw [hanswer]
    exact Session.answer_raised (fun flag hflag => (hsame flag hflag).symm) _ _ line
  have hasked : asked = { named with
      printed := (Session.raised surroundings flags none).greeting ++ named.printed } := by
    rw [hnamed]
    simp only [asked, respond, Session.ofArguments_of_raises htexts, Session.answerInput,
      hinput.inputLine?_eq hline]
    rfl
  rw [hasked, Session.greeting_raised]
  refine ⟨fun hquiet => ?_, fun hloud => ?_⟩
  · rw [if_pos hquiet, String.empty_append]
  · rw [if_neg hloud]
    rfl

/-- A line that is not plain text, before bytes that are no text at all. -/
theorem respond_of_supplies_tokens :
    respond ⟨none, some "trace"⟩ ["--tokens", "-q"] [55, 32, 195, 169, 13, 10, 255] =
      respond ⟨none, some "trace"⟩ ["--tokens", "--", "7 é"] [] :=
  have htexts : Raises ["--tokens", "-q"] [.tokens, .quiet] :=
    ⟨.cons (.name .tokens) (.cons .letter .nil), by decide, by decide, by decide⟩
  have htexts' : Raises ["--tokens"] [.tokens] :=
    ⟨.cons (.name .tokens) .nil, by decide, by decide, by decide⟩
  have hsame : ∀ flag ≠ Flag.quiet, (flag ∈ [Flag.tokens, .quiet] ↔ flag ∈ [Flag.tokens]) := by
    intro flag
    cases flag <;> decide
  have hinput : Supplies "7 é" [55, 32, 195, 169, 13, 10, 255] := Supplies.returned [255]
  (respond_of_supplies _ htexts htexts' hsame (by decide) hinput []).1 (by decide)

end LineCalculator.Console
