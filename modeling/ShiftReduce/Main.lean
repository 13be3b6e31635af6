import ShiftReduce.Calculator.CommandLine

/-!
# The calculator program

Reads the input from a file or from standard input and prints what `CommandLine.run` says.
-/

namespace ShiftReduce.Calculator.CommandLine

/-- Reads a whole stream, portion by portion. Reference: `read_input`. -/
partial def readAll (stream : IO.FS.Stream) (read : ByteArray) : IO ByteArray := do
  let chunk ← stream.read 65536
  if chunk.isEmpty then return read else readAll stream (read ++ chunk)

/-- The bytes of an input: a file's, or those of standard input. Reference: `read_input`. -/
def readBytes : Option String → IO ByteArray
  | some path => IO.FS.readBinFile path
  | none => do readAll (← IO.getStdin) .empty

/-- The fault that a failure of the system amounts to. Reference: `read_input`. -/
def faultOf : IO.Error → ReadFault
  | .noFileOrDirectory path .. => .ofPath path
  | .permissionDenied .. => .denied
  | .inappropriateType .. => .directory
  | .invalidArgument _ 36 _ => .tooLong
  | failure => .other (toString failure)

/-- Prints what there is to print, errors first, and gives the exit code. -/
def print (printed : Printed) : IO UInt32 := do
  IO.eprint printed.errors
  IO.print printed.output
  return printed.code.toUInt32

/-- Runs the program: reads its arguments, then its input, and prints what `CommandLine.run` makes
of them. Reference: `main`. -/
def execute (args : List String) : IO UInt32 := do
  match Arguments.read args with
  | .error fault => print (refused fault)
  | .ok arguments =>
    match ← (readBytes arguments.input).toBaseIO with
    | .error failure => print (cannotRead arguments.input (faultOf failure))
    | .ok bytes =>
      match String.fromUTF8? bytes with
      | some text => print (run arguments text)
      | none => print (cannotRead arguments.input .notText)

end ShiftReduce.Calculator.CommandLine

/-- The calculator program. -/
def main (args : List String) : IO UInt32 := ShiftReduce.Calculator.CommandLine.execute args
