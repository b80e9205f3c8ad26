/-
  The words of a command line, and the request that they make.

  Key definitions include:
    * `Command`
    * `Request`
    * `OptionSpec`
    * `readOptions`
    * `Request.ofWords`

  What is said of the words, as help or on refusing them, is left
  out: all requests of one kind have the same exit code.
-/

------------------------------------------------------------
-- Commands
------------------------------------------------------------

namespace Questionnaire

/- What the program is asked to do. -/
inductive Command where
  | start (company : String) (out : Option String)
  | audit (form : String)
  | page (form : String) (output : Option String)
  | publish (form : String) (out : Option String) (force : Bool)
  | schema
  | walk (form : String) (answers : String) (decline : Bool)
  deriving DecidableEq, Repr

/- What a command line asks for; a bad one is refused. -/
inductive Request where
  | run (command : Command)
  | version
  | help
  | refused
  deriving DecidableEq, Repr

end Questionnaire

------------------------------------------------------------
-- Options
------------------------------------------------------------

namespace Questionnaire

/- An option: a flag, or a text that may be allowed to be empty. -/
inductive OptionKind where
  | flag
  | text (mayBeEmpty : Bool)
  deriving DecidableEq, Repr

/- The options of a command by their names. -/
abbrev OptionSpec : Type :=
  List (String × OptionKind)

/- The options that were given, with their texts. -/
abbrev GivenOptions : Type :=
  List (String × String)

/- Add an option that is given for the first time. -/
def giveOption
    (spec : OptionSpec)
    (given : GivenOptions)
    (name text : String) : Except Request GivenOptions :=
  if (given.lookup name).isSome then
    .error .refused
  else if text.isEmpty && spec.lookup name == some (.text false) then
    .error .refused
  else
    .ok ((name, text) :: given)

/- The name of a long option, and the text after its sign. -/
def splitOption
    (word : List Char) : String × Option String :=
  let name := String.ofList (word.takeWhile (fun c => c != '='))
  match word.dropWhile (fun c => c != '=') with
  | _ :: text => (name, some (String.ofList text))
  | [] => (name, none)

/- Whether a word is taken for an option, not for a text. -/
def looksLikeOption
    (word : String) : Bool :=
  word.startsWith "-" && word != "-"

/-
  Read the options of a command from left to right.  A request
  for help ends the reading; a word that is no option, and an
  option that is unknown or repeated or lacks its text, are
  refused.
-/
def readOptions
    (spec : OptionSpec) : GivenOptions → List String →
    Except Request GivenOptions
  | given, [] => .ok given
  | given, word :: words =>
      match word.toList with
      | ['-', '-'] =>
          if words.isEmpty then .ok given else .error .refused
      | '-' :: '-' :: rest =>
          match splitOption rest with
          | ("help", none) => .error .help
          | (name, text) =>
              match spec.lookup name, text with
              | none, _ => .error .refused
              | some .flag, some _ => .error .refused
              | some .flag, none => do
                  readOptions spec
                    (← giveOption spec given name "") words
              | some (.text _), some text => do
                  readOptions spec
                    (← giveOption spec given name text) words
              | some (.text _), none =>
                  match words with
                  | [] => .error .refused
                  | text :: words =>
                      if looksLikeOption text then
                        .error .refused
                      else do
                        readOptions spec
                          (← giveOption spec given name text) words
      | '-' :: 'h' :: _ => .error .help
      | _ => .error .refused

end Questionnaire

------------------------------------------------------------
-- Requests
------------------------------------------------------------

namespace Questionnaire

/- The command of some options, if none is missing. -/
def commandOf
    (name : String)
    (given : GivenOptions) : Option Command :=
  let text? (option : String) := given.lookup option
  let isGiven (option : String) := (given.lookup option).isSome
  match name with
  | "init" => return .start (← text? "company") (text? "out")
  | "check" => return .audit (← text? "form")
  | "compile" => return .page (← text? "form") (text? "output")
  | "export" =>
      return .publish (← text? "form") (text? "out") (isGiven "force")
  | "schema" => return .schema
  | "simulate" =>
      return .walk (← text? "form") (← text? "answers")
        (isGiven "decline")
  | _ => none

/- The options of each command. -/
def commandOptions : List (String × OptionSpec) := [
  ("init", [("company", .text true), ("out", .text false)]),
  ("check", [("form", .text false)]),
  ("compile", [("form", .text false), ("output", .text false)]),
  ("export",
    [("form", .text false), ("out", .text false), ("force", .flag)]),
  ("schema", []),
  ("simulate",
    [("form", .text false), ("answers", .text false),
      ("decline", .flag)])]

/- What the words after `help` ask for. -/
def helpRequest : List String → Request
  | [] => .help
  | [name] =>
      if name == "help" || (commandOptions.lookup name).isSome then
        .help
      else
        .refused
  | _ => .refused

/- What the words of a command line ask for. -/
def Request.ofWords : List String → Request
  | [] => .refused
  | word :: words =>
      match commandOptions.lookup word with
      | some spec =>
          match readOptions spec [] words with
          | .error request => request
          | .ok given =>
              match commandOf word given with
              | some command => .run command
              | none => .refused
      | none =>
          if word == "help" then
            helpRequest words
          else if word == "--help" || word.startsWith "-h" then
            .help
          else if word == "--version" || word.startsWith "-V" then
            .version
          else
            .refused

end Questionnaire
