/-!
# Arguments

The command line holds flags, each at most once, and at most one expression.  It is
read from left to right, and the first flag that asks for information or the first
misuse ends the reading, whatever follows.

A flag has a long name behind two dashes, and some have a letter; letters can be
bundled behind one dash.  A single dash and the empty text are expressions, and
behind a bare pair of dashes everything is one.
-/

namespace LineCalculator.Console

/-- The flags of the command line. -/
inductive Flag where
  | strict
  | tokens
  | noColor
  | quiet
  | help
  | version
  deriving DecidableEq

namespace Flag

/-- The long name of a flag, without its dashes. -/
def name : Flag → String
  | strict => "strict"
  | tokens => "tokens"
  | noColor => "no-color"
  | quiet => "quiet"
  | help => "help"
  | version => "version"

/-- The flag with a long name. -/
def ofName? (name : List Char) : Option Flag :=
  [strict, tokens, noColor, quiet, help, version].find? fun flag => flag.name.toList = name

/-- The flag with a letter. -/
def ofLetter? : Char → Option Flag
  | 'q' => some quiet
  | 'h' => some help
  | 'V' => some version
  | _ => none

end Flag

/-- What a command line asks for: the flags that it raises and its expression. -/
structure Arguments where
  flags : List Flag
  expression? : Option String
  deriving DecidableEq

/-- The reasons to stop reading a command line. -/
inductive Stop where
  | help
  | version
  | unexpectedArgument (text : String)
  | repeatedFlag (flag : Flag)
  | unexpectedValue (value : String) (flag : Flag)
  deriving DecidableEq

namespace Arguments

/-- The command line without arguments. -/
def empty : Arguments := ⟨[], none⟩

/-- Decide whether a flag is raised. -/
def has (arguments : Arguments) (flag : Flag) : Bool := arguments.flags.contains flag

/-- Raise a flag, or stop at one that asks for information or is raised already. -/
def raise (arguments : Arguments) (flag : Flag) : Except Stop Arguments :=
  match flag with
  | .help => .error .help
  | .version => .error .version
  | _ =>
      if arguments.has flag then .error (.repeatedFlag flag)
      else .ok { arguments with flags := flag :: arguments.flags }

/-- Take a text as the expression. -/
def place (arguments : Arguments) (text : String) : Except Stop Arguments :=
  match arguments.expression? with
  | none => .ok { arguments with expression? := some text }
  | some _ => .error (.unexpectedArgument text)

/-- Read what stands behind two dashes: a long name, which takes no value. -/
def readLong (arguments : Arguments) (body : List Char) : Except Stop Arguments :=
  let name := body.takeWhile (· ≠ '=')
  match Flag.ofName? name with
  | none => .error (.unexpectedArgument ("--" ++ String.ofList name))
  | some flag =>
      match body.dropWhile (· ≠ '=') with
      | [] => arguments.raise flag
      | _ :: value => .error (.unexpectedValue (String.ofList value) flag)

/-- Read one letter behind a single dash. -/
def readLetter (arguments : Arguments) (letter : Char) : Except Stop Arguments :=
  match Flag.ofLetter? letter with
  | none => .error (.unexpectedArgument (String.ofList ['-', letter]))
  | some flag => arguments.raise flag

/-- Read the arguments from left to right. -/
def read : List String → Arguments → Except Stop Arguments
  | [], arguments => .ok arguments
  | text :: more, arguments =>
      match text.toList with
      -- A bare pair of dashes: no flag is looked for any more.
      | ['-', '-'] => more.foldlM place arguments
      | '-' :: '-' :: body => (arguments.readLong body).bind (read more)
      | '-' :: letter :: letters =>
          ((letter :: letters).foldlM readLetter arguments).bind (read more)
      | _ => (arguments.place text).bind (read more)

/-- What the arguments of a command line ask for. -/
def parse (texts : List String) : Except Stop Arguments := read texts empty

end Arguments

/-- The lines that answer a request for help. -/
def helpLines : List String := [
  "A calculator for one line of integer arithmetic with `+ - * /`",
  "",
  "Usage: minicalc [OPTIONS] [EXPRESSION]",
  "",
  "Arguments:",
  "  [EXPRESSION]  Expression to evaluate; read from stdin when omitted",
  "",
  "Options:",
  "      --strict    Reject anything left over after a complete expression",
  "      --tokens    Print the tokens of the expression instead of evaluating it",
  "      --no-color  Disable colored output",
  "  -q, --quiet     Do not print the banner and prompt",
  "  -h, --help      Print help",
  "  -V, --version   Print version"]

/-- The text that answers a request for help. -/
def helpText : String := String.join (helpLines.map (· ++ "\n"))

/-- The text that answers a request for the version. -/
def versionText : String := "minicalc 0.1.0\n"

end LineCalculator.Console
