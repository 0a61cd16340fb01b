import FilterLexicon.CommandLine
import FilterLexicon.LogFilter

/-!
The program: it looks at the path of its settings, runs, and writes what it leaves to its output
streams. A variable of its environment holds the directives that say which events are told.
-/

namespace FilterLexicon.CommandLine

/-- What the operating system says about an error, with the number of the error. -/
def reasonOf : IO.Error → String
  | .alreadyExists _ code details | .interrupted _ code details | .noFileOrDirectory _ code details
  | .invalidArgument _ code details | .permissionDenied _ code details
  | .resourceExhausted _ code details | .inappropriateType _ code details
  | .noSuchThing _ code details | .otherError code details | .resourceBusy code details
  | .resourceVanished code details | .unsupportedOperation code details
  | .hardwareFault code details | .unsatisfiedConstraints code details
  | .illegalOperation code details | .protocolError code details | .timeExpired code details =>
    s!"{details} (os error {code})"
  | .unexpectedEof => "unexpected end of file"
  | .userError reason => reason

/-- What is found at a path of the file system. What cannot be reached is missing, whatever stands in
the way. -/
def nodeAt (path : String) : IO Node := do
  match ← (IO.FS.realPath path).toBaseIO with
  | .error _ => return .missing
  | .ok _ =>
    match ← (IO.FS.readBinFile path).toBaseIO with
    | .ok bytes => return .file bytes
    | .error (.inappropriateType ..) => return .directory
    | .error error => return .unreadable (reasonOf error)

end FilterLexicon.CommandLine

open FilterLexicon CommandLine in
def main (args : List String) : IO UInt32 := do
  let path := settingsPath args
  let directives := Directive.parseAll ((← IO.getEnv "RUST_LOG").getD "")
  let output := runWith Pattern.accepts (Directive.tell directives) path (← nodeAt path)
  (← IO.getStderr).putStr output.stderr
  (← IO.getStdout).putStr output.stdout
  return output.exit.toUInt32
