import Questionnaire.Command.Arguments
import Questionnaire.Command.Files
import Questionnaire.Document.Page
import Questionnaire.Form.Schema
import Questionnaire.Form.Starter
import Questionnaire.Session.Walk

/-
  Running the commands of the program.

  Key definitions include:
    * `Failure`
    * `Failure.report`
    * `Surroundings`
    * `Command.run`

  A command has all it needs before it writes, so that a failed
  one has written nothing.
-/

------------------------------------------------------------
-- Failures
------------------------------------------------------------

namespace Questionnaire

/- Why a command failed. -/
inductive Failure where
  | formFile (path : String) (error : FileError)
  | file (error : FileError)
  | form (error : FormError)
  | answers (refusal : Json.Refusal)
  | starter (error : StarterError)
  | walk (error : WalkError)
  | noOutputRoot
  | exportExists (path : String)
  deriving DecidableEq

/- The report of a refused text. -/
def Json.Refusal.report
    (refusal : Json.Refusal) : String :=
  let place := refusal.place.getD ⟨0, 0⟩
  "Error(" ++ Text.quoted refusal.cause.message
    ++ ", line: " ++ toString place.line
    ++ ", column: " ++ toString place.column ++ ")"

/- Named fields in a report. -/
def reportFields
    (name : String)
    (fields : List (String × String)) : String :=
  name ++ " \x7b "
    ++ ", ".intercalate
        (fields.map (fun (field, text) => field ++ ": " ++ text))
    ++ " \x7d"

/- The report of an error in a form. -/
def FormError.report : FormError → String
  | .unknownKind unknown =>
      reportFields "UnknownQuestionKind" [
        ("question_id", Text.quoted unknown.question),
        ("kind", Text.quoted unknown.kind)]
  | .blankQuestionId position =>
      reportFields "EmptyQuestionId" [("position", toString position)]
  | .repeatedQuestionId id =>
      "DuplicateQuestionId(" ++ Text.quoted id ++ ")"
  | .repeatedOptionId questionId optionId =>
      reportFields "DuplicateOptionId" [
        ("question_id", Text.quoted questionId),
        ("option_id", Text.quoted optionId)]
  | .blankField field =>
      "MissingIdentityField(" ++ Text.quoted field.name ++ ")"
  | .badSlug slug => "InvalidSlug(" ++ Text.quoted slug ++ ")"
  | .badColor field value =>
      reportFields "InvalidColor" [
        ("field", Text.quoted field.name),
        ("value", Text.quoted value)]
  | .unreadable refusal => "Parse(" ++ refusal.report ++ ")"

/- The report of an error with a file. -/
def FileError.report
    (error : FileError) : String :=
  reportFields "Os" [
    ("code", toString error.code), ("kind", error.name),
    ("message", Text.quoted error.message)]

namespace Failure

/- The report of a failure. -/
def report : Failure → String
  | .formFile path error =>
      Text.quoted ("failed to read " ++ path ++ ": " ++ error.message
        ++ " (os error " ++ toString error.code ++ ")")
  | .file error => error.report
  | .form error => error.report
  | .answers refusal => refusal.report
  | .starter error => Text.quoted error.message
  | .walk error => Text.quoted error.message
  | .noOutputRoot => Text.quoted "output directory cannot be empty"
  | .exportExists path =>
      Text.quoted ("export " ++ path
        ++ " already exists; rerun with --force to overwrite")

end Failure

end Questionnaire

------------------------------------------------------------
-- Reading the Answers
------------------------------------------------------------

namespace Questionnaire

/- Read answers: an object whose values are strings. -/
def Reader.answers : Reader Answers := do
  match ← peek with
  | none => failNext .endInValue
  | some '\x7b' =>
      skip
      loop
        (fun (sofar : Bool × Answers) => do
          match ← nextKey sofar.1 with
          | none => return .inr sofar.2
          | some id =>
              colon
              return .inl
                (false, sofar.2.insert id (← text "a string")))
        (true, .empty)
  | some _ => refuse "a map"

/- The answers that a text spells. -/
def Answers.parse
    (source : String) : Except Json.Refusal Answers :=
  Reader.answers.finish source

end Questionnaire

------------------------------------------------------------
-- Steps of Commands
------------------------------------------------------------

namespace Questionnaire

/- What a command is told beside its options. -/
structure Surroundings where
  outputRoot : Option String
  now : Instant

/- The path of a name in a folder. -/
def joinPath
    (folder name : String) : String :=
  if folder.endsWith "/" then
    folder ++ name
  else
    folder ++ "/" ++ name

/- The path of the file that holds the page of a form. -/
def Form.pagePath
    (form : Form)
    (root : String) : String :=
  joinPath root form.fileName

/- The folder for pages: the one asked for, or the usual one. -/
def outputRootOf
    (asked usual : Option String) : Except Failure String :=
  let root := (asked <|> usual).getD "."
  if root.isEmpty then .error .noOutputRoot else .ok root

/- What is printed of an audit without errors. -/
def auditText
    (form : Form)
    (warnings : List Warning) : String :=
  "Definition '" ++ form.company.slug ++ "' is valid ("
    ++ toString form.questions.length ++ " questions, "
    ++ toString form.criteria.rules.length ++ " rules)\n"
    ++ (if warnings.isEmpty then
          ""
        else
          "Warnings:\n" ++ String.join
            (warnings.map
              (fun warning => "  " ++ warning.message ++ "\n")))

section

variable {m : Type → Type} [Monad m] [FileAccess m]
variable {α ε : Type}

/- Go on with a result, or fail for the given reason. -/
def orFail
    (failure : ε → Failure)
    (result : Except ε α) : ExceptT Failure m α :=
  ExceptT.mk (pure (result.mapError failure))

/- Go on with the result of an access to files, or fail. -/
def accessOrFail
    (failure : FileError → Failure)
    (access : m (Except FileError α)) : ExceptT Failure m α :=
  ExceptT.mk (do return (← access).mapError failure)

/- The form in a file. -/
def loadForm
    (path : String) : ExceptT Failure m Form := do
  let text ← accessOrFail (.formFile path) (FileAccess.readText path)
  orFail .form (Form.read text)

/- Write a text into a file, or else print it. -/
def emit
    (text : String)
    (path : Option String) : ExceptT Failure m String := do
  match path with
  | some path =>
      accessOrFail .file (FileAccess.writeText path text)
      return ""
  | none => return text

end

end Questionnaire

------------------------------------------------------------
-- Commands
------------------------------------------------------------

namespace Questionnaire

variable {m : Type → Type} [Monad m] [FileAccess m]

/- Put the page of a form into the folder for pages. -/
def publishForm
    (form : Form)
    (root : String)
    (force : Bool) : ExceptT Failure m String := do
  let path := form.pagePath root
  if (← ExceptT.lift (FileAccess.pathExists path)) && !force then
    throw (.exportExists path)
  let page ← orFail .form (form.page {})
  accessOrFail .file (FileAccess.makeFolders root)
  accessOrFail .file (FileAccess.writeText path page)
  return "Exported funnel to " ++ path ++ "\n"

/- Walk through the plan of a form with the answers in a file. -/
def walkWith
    (form : Form)
    (answersPath : String)
    (now : Instant)
    (decline : Bool) : ExceptT Failure m String := do
  let text ← accessOrFail .file (FileAccess.readText answersPath)
  let answers ← orFail .answers (Answers.parse text)
  let _ ← orFail .form form.audit
  let report ←
    orFail .walk ((Plan.ofForm form {}).walk now answers decline)
  return report.toJson.pretty ++ "\n"

/- Run a command, and give the text that it prints. -/
def Command.run
    (surroundings : Surroundings)
    (command : Command) : ExceptT Failure m String := do
  match command with
  | .start company out =>
      let form ← orFail .starter (Form.starter company)
      emit form.fileText out
  | .audit path =>
      let form ← loadForm path
      let warnings ← orFail .form form.audit
      return auditText form warnings
  | .page path output =>
      let form ← loadForm path
      let page ← orFail .form (form.page {})
      emit page output
  | .publish path out force =>
      let form ← loadForm path
      let root ← orFail id (outputRootOf out surroundings.outputRoot)
      publishForm form root force
  | .schema => return Form.schemaText
  | .walk path answersPath decline =>
      let form ← loadForm path
      walkWith form answersPath surroundings.now decline

end Questionnaire
