import Questionnaire.Command.Run
import Std.Time.DateTime.Timestamp

/-
  The program: its arguments, its files, its clock and what it
  prints.  The log that it may keep beside is left out.
-/

------------------------------------------------------------
-- Files of the Machine
------------------------------------------------------------

namespace Questionnaire

/- The error that the machine reports of a file. -/
def FileError.ofMachine : IO.Error → FileError
  | .alreadyExists .. => .alreadyExists
  | .inappropriateType .. => .isFolder
  | .resourceExhausted .. => .notFolder
  | .invalidArgument .. => .nameTooLong
  | _ => .notFound

/- The outcome of an action on the files of the machine. -/
def attempt
    {α : Type}
    (action : IO α) : IO (Except FileError α) := do
  match ← action.toBaseIO with
  | .ok result => return .ok result
  | .error error => return .error (.ofMachine error)

instance : FileAccess IO where
  readText path := attempt (IO.FS.readFile path)
  writeText path text := attempt (IO.FS.writeFile path text)
  pathExists path := do
    return (← attempt (IO.FS.realPath path)).isOk
  makeFolders path := attempt (IO.FS.createDirAll path)

end Questionnaire

------------------------------------------------------------
-- The Program
------------------------------------------------------------

/- Run the request of the arguments; the result is the exit code. -/
def main
    (arguments : List String) : IO UInt32 := do
  match Questionnaire.Request.ofWords arguments with
  | .refused => return 2
  | .help => return 0
  | .version =>
      IO.println "funnel-cli 0.3.0"
      return 0
  | .run command =>
      let now ← Std.Time.Timestamp.now
      let surroundings : Questionnaire.Surroundings := {
        outputRoot := ← IO.getEnv "FUNNEL_OUTPUT_DIR"
        now := {
          seconds := now.toSecondsSinceUnixEpoch.val
          nanoseconds :=
            (now.toNanosecondsSinceUnixEpoch.val
              % 1000000000).toNat } }
      match ← (command.run surroundings).run with
      | .ok text =>
          IO.print text
          return 0
      | .error failure =>
          IO.eprintln ("Error: " ++ failure.report)
          return 1
