import LineCalculator.Event
import LineCalculator.Text.Blank

/-!
# Log filter

A filter says which events are shown.  It is written as directives between commas:
a verbosity for every topic, a topic that is shown in full, or a topic and its
verbosity with an equals sign between them.  A directive speaks for every topic that
begins with its own; of several the longest decides, of equally long ones the last.
Directives of another form say nothing.  Without directives only errors are shown.
-/

namespace LineCalculator

/-- The verbosity with a name, in letters of either case. -/
def Verbosity.ofName? (name : String) : Option Verbosity :=
  [off, error, warn, info, debug, trace].find? fun verbosity => verbosity.name = name.toUpper

namespace Console

/-- A verbosity for the topics that begin in one way. -/
structure Directive where
  topic : String
  limit : Verbosity
  deriving DecidableEq

/-- The directives of a filter in the order in which they are written. -/
abbrev LogFilter := List Directive

/-- A text without the blanks at both of its ends. -/
def trimmed (text : String) : String :=
  let rest := text.toList.dropWhile Text.isBlank
  String.ofList (rest.reverse.dropWhile Text.isBlank).reverse

/-- Read one directive, if it has one of the known forms. -/
def Directive.parse? (text : String) : Option Directive :=
  match text.splitOn "=" with
  | [word] =>
      match Verbosity.ofName? word with
      | some limit => some ⟨"", limit⟩
      | none => if word = "" then none else some ⟨word, .trace⟩
  | [topic, word] =>
      if trimmed word = "" then some ⟨topic, .trace⟩
      else (Verbosity.ofName? (trimmed word)).map fun limit => ⟨topic, limit⟩
  | _ => none

namespace LogFilter

/-- Read a filter. -/
def parse (text : String) : LogFilter :=
  match (text.splitOn ",").filterMap fun part => Directive.parse? (trimmed part) with
  | [] => [⟨"", .error⟩]
  | directives => directives

/-- The verbosity that a filter grants a topic. -/
def limit (filter : LogFilter) (topic : String) : Verbosity :=
  let speaking := filter.filter fun directive => directive.topic.isPrefixOf topic
  let strongest := speaking.foldl
    (fun best directive =>
      if best.topic.length ≤ directive.topic.length then directive else best)
    ⟨"", .off⟩
  strongest.limit

/-- Decide whether a filter shows an event. -/
def shows (filter : LogFilter) (event : Event) : Bool :=
  event.verbosity.rank ≤ (filter.limit event.topic).rank

end LogFilter

/-- The line that logs an event. -/
def logLine (event : Event) : String :=
  "[" ++ event.verbosity.name ++ " " ++ event.topic ++ "] " ++ event.message ++ "\n"

end Console

end LineCalculator
