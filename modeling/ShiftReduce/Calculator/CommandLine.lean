import ShiftReduce.Calculator.Evaluator

/-!
# The command line of the calculator

The arguments of the program and what it prints. Diagnostics go to the error stream, each with the
lines of the input it is about; then the counts, if they were asked for; then either the results to
the output stream or a report of the error and its causes.
-/

namespace ShiftReduce.Calculator.CommandLine

/-- The settings that the arguments of the program make: where the input is, the three lexer options
that can be chosen, the discard count, and whether the counts are printed. Reference: `Args`. -/
structure Arguments where
  input : Option String := none
  flex : Bool := false
  backtrack : Bool := false
  ranges : Bool := false
  discardCount : Nat := 3
  stats : Bool := false
deriving Repr, DecidableEq

/-- Why arguments are refused. The program ends with exit code 2 and reads no input then. Reference:
the usage errors of `Args::parse`. -/
inductive ArgumentFault
  | unexpected (argument : String)
  | missingValue (option : String)
  | invalidCount (value : String)
  | repeated (option : String)
deriving Repr, DecidableEq

/-- The first line of the message about refused arguments; the usage text that follows it is left
out. Reference: the usage errors of `Args::parse`. -/
def ArgumentFault.message : ArgumentFault → String
  | .unexpected argument => s!"error: unexpected argument '{argument}' found"
  | .missingValue option => s!"error: a value is required for '{option}' but none was supplied"
  | .invalidCount value => s!"error: invalid value '{value}' for '--discard-count <DISCARD_COUNT>'"
  | .repeated option => s!"error: the argument '{option}' cannot be used multiple times"

/-- The bound of counts, 2 to the power of 64: a count is read as a machine word. Reference: the
type of `Args::discard_count`. -/
def countLimit : Nat := 18446744073709551616

/-- Reads a count: an optional plus sign and at least one decimal digit, below `countLimit`.
Reference: the value of `Args::discard_count`. -/
def readCount (value : String) : Except ArgumentFault Nat :=
  let digits := match value.toList with
    | '+' :: digits => digits
    | digits => digits
  if digits.isEmpty || !digits.all Char.isDigit then .error (.invalidCount value)
  else
    let count := digits.foldl (fun n c => n * 10 + (c.toNat - '0'.toNat)) 0
    if count < countLimit then .ok count else .error (.invalidCount value)

/-- The options that an argument can name. Reference: the fields of `Args`. -/
inductive Setting
  | flex
  | backtrack
  | ranges
  | stats
  | input
  | discardCount
deriving Repr, DecidableEq

namespace Setting

/-- The long names of the options, written behind two hyphens. Reference: the fields of `Args`. -/
def names : List (String × Setting) :=
  [("flex", .flex), ("backtrack", .backtrack), ("ranges", .ranges), ("stats", .stats),
   ("input", .input), ("discard-count", .discardCount)]

/-- Whether an option takes a value; the other ones are flags. Reference: the types of the fields of
`Args`. -/
def takesValue : Setting → Bool
  | .input | .discardCount => true
  | _ => false

/-- The option that an argument names, and the value that it brings along behind an equals sign or,
for the short form, directly. Reference: `Args::parse`. -/
def read? (argument : String) : Option (Setting × Option String) :=
  match argument.toList with
  | '-' :: '-' :: long =>
    let name := String.ofList (long.takeWhile (· != '='))
    (names.lookup name).map fun setting =>
      (setting, (long.dropWhile (· != '=')).tail?.map String.ofList)
  | '-' :: 'i' :: '=' :: value => some (.input, some (String.ofList value))
  | ['-', 'i'] => some (.input, none)
  | '-' :: 'i' :: value => some (.input, some (String.ofList value))
  | _ => none

end Setting

/-- Whether an argument can be the value of the option before it: it does not look like an option
itself. Reference: `Args::parse`. -/
def isValue (argument : String) : Bool := argument = "-" || argument.toList.head? != some '-'

namespace Arguments

/-- The arguments with a flag set; an option that takes a value changes nothing here. Reference: the
flags of `Args`. -/
def switch (arguments : Arguments) : Setting → Arguments
  | .flex => { arguments with flex := true }
  | .backtrack => { arguments with backtrack := true }
  | .ranges => { arguments with ranges := true }
  | .stats => { arguments with stats := true }
  | _ => arguments

/-- The arguments with the value of an option. An empty path counts as a missing value. Reference:
`Args::input` and `Args::discard_count`. -/
def assign (arguments : Arguments) (option value : String) : Setting → Except ArgumentFault Arguments
  | .input =>
    if value.isEmpty then .error (.missingValue option) else .ok { arguments with input := some value }
  | .discardCount => (readCount value).map fun n => { arguments with discardCount := n }
  | _ => .error (.unexpected option)

/-- Reads arguments behind those that set `given`. Every option stands once at most, and nothing
follows two hyphens. Reference: `Args::parse`. -/
def readFrom (arguments : Arguments) (given : List Setting) :
    List String → Except ArgumentFault Arguments
  | [] => .ok arguments
  | "--" :: rest =>
    match rest with
    | [] => .ok arguments
    | extra :: _ => .error (.unexpected extra)
  | argument :: rest =>
    match Setting.read? argument with
    | none => .error (.unexpected argument)
    | some (setting, value) =>
      if setting ∈ given then .error (.repeated argument)
      else
        match setting.takesValue, value, rest with
        | false, none, rest => (arguments.switch setting).readFrom (setting :: given) rest
        | _, some value, rest => do
          (← arguments.assign argument value setting).readFrom (setting :: given) rest
        | true, none, value :: rest =>
          if isValue value then do
            (← arguments.assign argument value setting).readFrom (setting :: given) rest
          else .error (.missingValue argument)
        | true, none, [] => .error (.missingValue argument)

/-- Reads the arguments of the program, from the defaults on. Reference: `Args::parse`. -/
def read (arguments : List String) : Except ArgumentFault Arguments := readFrom {} [] arguments

end Arguments

/-- What the program prints on its two streams, and the exit code that it ends with. -/
structure Printed where
  code : Nat := 0
  output : String := ""
  errors : String := ""
deriving Repr, DecidableEq

/-- A text with every line behind an indentation; the first line may have one of its own. -/
def indent (first more text : String) : String :=
  first ++ ("\n" ++ more).intercalate (text.splitOn "\n")

/-- The report of an error and its causes, as the program ends with it. One cause is indented,
several are numbered. Reference: the error that `main` returns. -/
def report (message : String) : List String → String
  | [] => s!"Error: {message}\n"
  | [cause] => s!"Error: {message}\n\nCaused by:\n" ++ indent "    " "    " cause ++ "\n"
  | causes =>
    let numbered := causes.zipIdx.map fun (cause, number) =>
      indent (Excerpt.padLeft 5 (toString number) ++ ": ") "       " cause
    s!"Error: {message}\n\nCaused by:\n" ++ "\n".intercalate numbered ++ "\n"

/-- The messages of a parse error and of the causes behind it, outermost first: only an error of an
action has causes. Reference: the `source` of `ParseError::Action`. -/
def causesOf (error : ParseError Value Fault) : List String :=
  error.message Fault.message ::
    match error with
    | .action _ fault => fault.message :: fault.causes
    | _ => []

/-- The counts of a parser as printed with the option for counts. Reference: `ParserStats` in
`main`. -/
def displayParserStats (s : ParserStats) : String :=
  s!"ParserStats \x7b tokens: {s.tokens}, shifts: {s.shifts}, reductions: {s.reductions}, " ++
    s!"errors: {s.errors}, recoveries: {s.recoveries}, discarded: {s.discarded} \x7d\n"

/-- The counts of a lexer as printed with the option for counts. Reference: `LexerStats` in `main`.
-/
def displayLexerStats (s : LexerStats) : String :=
  s!"LexerStats \x7b matches: {s.matched}, rejects: {s.rejects}, unputs: {s.unputs}, " ++
    s!"tokens: {s.tokens} \x7d\n"

/-- The result of a line as printed: its number, or the word `error` for a line that was skipped.
Reference: the last loop of `main`. -/
def displayLine : Option Int → String
  | some n => s!"{n}\n"
  | none => "error\n"

/-- Why an input cannot be read: what the system says of the path, or a stream that is not text.
Reference: `read_input`. -/
inductive ReadFault
  | missing
  | denied
  | directory
  | tooLong
  | notText
  | other (text : String)
deriving Repr, DecidableEq

namespace ReadFault

/-- What keeps an input from being read, as the report names it below `cannotRead`. Reference: the
causes in `read_input`. -/
def message : ReadFault → String
  | .missing => "No such file or directory (os error 2)"
  | .denied => "Permission denied (os error 13)"
  | .directory => "Is a directory (os error 21)"
  | .tooLong => "File name too long (os error 36)"
  | .notText => "stream did not contain valid UTF-8"
  | .other text => text

/-- Why a path at which there is no file cannot be read: it leads nowhere but to a directory, a name in it
is too long, or the first name in it is missing. The path is not empty, since `Arguments.assign` refuses
an empty value. -/
def ofPath (path : String) : ReadFault :=
  if 4096 ≤ path.utf8ByteSize then .tooLong
  else
    match (path.splitOn "/").find? (· ∉ ["", ".", ".."]) with
    | none => .directory
    | some name => if 255 < name.utf8ByteSize then .tooLong else .missing

end ReadFault

/-- What the program prints where its input, a file or standard input, cannot be read. Reference:
the contexts in `read_input`. -/
def cannotRead (path : Option String) (fault : ReadFault) : Printed :=
  let message := match path with
    | some path => s!"can't open {Text.quote path}"
    | none => "can't read standard input"
  { code := 1, errors := report message [fault.message] }

/-- What the program prints for refused arguments; nothing is parsed then. Reference: the usage
errors of `Args::parse`. -/
def refused (fault : ArgumentFault) : Printed := { code := 2, errors := fault.message ++ "\n" }

/-- What the program prints for an input: the diagnostics with their excerpts, the counts if they
were asked for, then the results or the report of the error. Reference: `main`. -/
def run (arguments : Arguments) (input : String) : Printed :=
  let options : Options :=
    { lexer :=
        { longestMatch := arguments.flex, backtrack := arguments.backtrack, ranges := arguments.ranges }
      discardCount := arguments.discardCount }
  match Calculator.new options with
  | .error fault =>
    { code := 1, errors := report "can't create parser" [(Fault.grammar fault).message, fault.message] }
  | .ok calculator =>
    let (outcome, calculator) := calculator.parse input {}
    let diagnostics := String.join <| calculator.context.diagnostics.map fun diagnostic =>
      s!"{diagnostic.message}\n{calculator.excerpt diagnostic.location}\n\n"
    let stats :=
      if arguments.stats then
        displayParserStats calculator.config.session.stats ++
          displayLexerStats calculator.config.lexer.stats
      else ""
    let errors := diagnostics ++ stats
    match outcome with
    | .value lines => { output := String.join (lines.map displayLine), errors }
    | .failed error => { code := 1, errors := errors ++ report "parsing error" (causesOf error) }
    | .exhausted => { code := 1, errors := errors ++ report "parsing error" [] }

end ShiftReduce.Calculator.CommandLine
