import Std.Time.DateTime.Timestamp
import TemplateQuery.Command

/-! The command line: reads the arguments, the settings and the input, and prints the answer. -/

set_option autoImplicit false

namespace TemplateQuery

def usage : String :=
  "usage: template-query [-v | -q] [--no-color] [--config FILE] COMMAND\n\n" ++
  "commands:\n" ++
  "  compile [FILE] [--shape select|ask|construct] [--no-union] [--base IRI]\n" ++
  "  prepare [FILE] [--system-id IRI] [-p NAME=VALUE]...\n" ++
  "  origins [FILE]\n" ++
  "  help\n"

namespace Command

def Refusal.message : Refusal → String
  | .help | .noArguments => usage
  | .version => "template-query 0.1.0\n"
  | .missingCommand => "error: a command is required\n\n" ++ usage
  | .unknownCommand => "error: unrecognized command\n\n" ++ usage
  | .unknownArgument => "error: unexpected argument\n\n" ++ usage
  | .invalidValue => "error: invalid or missing value\n\n" ++ usage
  | .unwantedValue => "error: unexpected value\n\n" ++ usage
  | .conflict => "error: arguments cannot be used together\n\n" ++ usage

/-- Help and the version are answers when they were asked for. -/
def Refusal.isAnswer : Refusal → Bool
  | .help | .version => true
  | _ => false

end Command

def failureReason : IO.Error → String
  | .noFileOrDirectory _ _ _ => "No such file or directory (os error 2)"
  | e => toString e

def readSource (file : Option String) : IO (Except String String) := do
  try
    match file with
    | some name => return .ok (← IO.FS.readFile name)
    | none =>
      let input ← IO.getStdin
      if ← input.isTty then return .error "no input provided\n  help: pass a file or pipe via stdin"
      else return .ok (← input.readToEnd)
  catch e => return .error (failureReason e)

def currentTime : IO (Option DateTime) := do
  let stamp ← Std.Time.Timestamp.now
  return DateTime.ofEpoch? stamp.toNanosecondsSinceUnixEpoch.val

def serve (i : Invocation) : IO UInt32 := do
  let config ← i.config.mapM fun name => readSource (some name)
  let input ← readSource i.file
  let read (file : Option String) := if file = i.file then input else config.getD input
  let seed ← IO.rand 0 (2 ^ (62 : Nat))
  match ← currentTime with
  | none => return 1
  | some now =>
    match i.run read now seed with
    | .ok text =>
      (← IO.getStdout).putStr text
      return 0
    | .error e =>
      (← IO.getStderr).putStrLn ("error: " ++ e.message)
      return UInt32.ofNat e.exitCode

end TemplateQuery

open TemplateQuery in
def main (arguments : List String) : IO UInt32 := do
  match Invocation.ofArguments arguments with
  | .ok i => serve i
  | .error refusal =>
    let out ← if refusal.isAnswer then IO.getStdout else IO.getStderr
    out.putStr refusal.message
    return if refusal.isAnswer then 0 else 2
