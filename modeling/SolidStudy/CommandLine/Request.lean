import SolidStudy.Settings
import SolidStudy.Study

/-! The arguments of the program: a command, a model, and settings. Settings that concern the whole
program stand before or after the command, the format of the report after it. -/
namespace SolidStudy

inductive Action where
  | inventory
  | run
  deriving DecidableEq, Repr

def Action.named? : String → Option Action
  | "inventory" => some .inventory
  | "run" => some .run
  | _ => none

inductive Format where
  | text
  | json
  deriving DecidableEq, Repr

def Format.named? : String → Option Format
  | "text" => some .text
  | "json" => some .json
  | _ => none

structure Request where
  action : Action
  /-- The file of the model. -/
  model : String
  format : Format
  /-- The file of the settings, which need not exist. -/
  settingsFile : String
  deriving DecidableEq, Repr

namespace Request

def target (request : Request) (settings : Settings) : Progress :=
  match request.action with
  | .inventory => .inventoryDone
  | .run => if settings.extractObjects then .solidsDone else .inventoryDone

def showsLog (request : Request) : Bool := request.action = .run

inductive Setting where
  | settingsFile
  | format
  | verbose
  deriving DecidableEq, Repr

def Setting.named? : String → Option Setting
  | "config" => some .settingsFile
  | "format" => some .format
  | "verbose" => some .verbose
  | _ => none

def Setting.ofLetter? : Char → Option Setting
  | 'c' => some .settingsFile
  | 'f' => some .format
  | 'v' => some .verbose
  | _ => none

/-- Verbosity is the one setting that has no value. -/
def Setting.takesValue (setting : Setting) : Bool := setting ≠ .verbose

inductive Word where
  | plain
  /-- Two hyphens, after which every argument is plain. -/
  | stop
  /-- Settings with the values that are written together with them. -/
  | settings (settings : List (Setting × Option String))
  | unknown
  deriving DecidableEq, Repr

/-- The settings of some letters in one argument. What follows a letter that takes a value is its
value, with or without an equals sign. -/
def readLetters : List Char → Option (List (Setting × Option String))
  | [] => some []
  | letter :: rest => do
    let setting ← Setting.ofLetter? letter
    if setting.takesValue then
      match rest with
      | [] => return [(setting, none)]
      | '=' :: value => return [(setting, some (String.ofList value))]
      | value => return [(setting, some (String.ofList value))]
    else return (setting, none) :: (← readLetters rest)

/-- The setting of a name, whose value may follow an equals sign. -/
def readName (s : List Char) : Option (Setting × Option String) := do
  let setting ← Setting.named? (String.ofList (s.takeWhile (· ≠ '=')))
  match s.dropWhile (· ≠ '=') with
  | [] => return (setting, none)
  | _ :: value => return (setting, some (String.ofList value))

/-- A single hyphen is a plain word. -/
def Word.ofArgument (arg : String) : Word :=
  match arg.toList with
  | ['-', '-'] => .stop
  | '-' :: '-' :: name => (readName name).elim .unknown fun setting => .settings [setting]
  | '-' :: letter :: letters => (readLetters (letter :: letters)).elim .unknown .settings
  | _ => .plain

structure Given where
  settingsFile : Option String
  format : Option Format
  verbose : Bool
  deriving DecidableEq, Repr

namespace Given

def nothing : Given := ⟨none, none, false⟩

/-- A setting with its value. None is made twice on one side of the command. More words are shown
to a verbose user, but none of them belong to the answer. -/
def set (given : Given) : Setting → Option String → Option Given
  | .settingsFile, some path =>
    if given.settingsFile.isSome ∨ path = "" then none
    else some { given with settingsFile := some path }
  | .format, some name =>
    if given.format.isSome then none
    else do return { given with format := some (← Format.named? name) }
  | .verbose, none => if given.verbose then none else some { given with verbose := true }
  | _, _ => none

/-- All settings of one argument, and the last one apart if its value is still to come. -/
def setAll (given : Given) : List (Setting × Option String) → Option (Given × Option Setting)
  | [] => some (given, none)
  | (setting, value) :: rest =>
    if setting.takesValue ∧ value.isNone then some (given, some setting)
    else do (← given.set setting value).setAll rest

end Given

/-- The settings up to the next argument that is plain or ends the settings. -/
def readSettings (given : Given) : List String → Option (Given × List String)
  | [] => some (given, [])
  | arg :: rest =>
    match Word.ofArgument arg with
    | .plain | .stop => some (given, arg :: rest)
    | .unknown => none
    | .settings settings => do
      match ← given.setAll settings, rest with
      | (given, none), rest => readSettings given rest
      | (given, some setting), value :: rest =>
        if Word.ofArgument value = .plain then readSettings (← given.set setting value) rest
        else none
      | (_, some _), [] => none

/-- The arguments after the command: a model among settings, and nothing else. -/
def readModel (args : List String) : Option (Given × String) := do
  match ← readSettings .nothing args with
  | (given, ["--", model]) => return (given, model)
  | (_, []) | (_, "--" :: _) => none
  | (given, model :: rest) =>
    match ← readSettings given rest with
    | (given, []) | (given, ["--"]) => return (given, model)
    | _ => none

/-- The request that the arguments make, if they make one. The settings file may be named on both
sides of the command, and is then the one after it. -/
def ofArguments (args : List String) : Option Request := do
  match ← readSettings .nothing args with
  | (_, []) => none
  | (before, command :: rest) =>
    let action ← Action.named? command
    let (after, model) ← readModel rest
    if before.format.isSome ∨ model = "" then none
    else return {
      action := action
      model := model
      format := after.format.getD .text
      settingsFile := (after.settingsFile <|> before.settingsFile).getD "os2cx.json" }

end Request

end SolidStudy
