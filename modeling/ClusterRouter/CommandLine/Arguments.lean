/-!
# Arguments of a command

A command has options, and either commands below it or words of its own. Arguments are read from
left to right; the first that does not fit decides what is refused. Behind `--` all arguments are
words. A value that is an argument of its own is looked at only when its command has something
behind it: one in front of the command below waits until that is complete.
-/

namespace ClusterRouter.CommandLine

/-- Why no command can be run. -/
inductive Refusal where
  | usage
  | help
  | version
deriving DecidableEq

structure OptionForm where
  long : String
  short : Option Char := none
  /-- The values that the option may have. An option without values is a flag. -/
  accepts : Option (String → Bool) := none

inductive Form where
  | mk (options : List OptionForm) (least most : Nat) (commands : List (String × Form))

namespace Form

def options : Form → List OptionForm
  | .mk options _ _ _ => options

/-- How many words the command has at least. -/
def least : Form → Nat
  | .mk _ least _ _ => least

def most : Form → Nat
  | .mk _ _ most _ => most

def commands : Form → List (String × Form)
  | .mk _ _ _ commands => commands

end Form

/-- What was given to one command. -/
structure Level where
  command : String
  options : List (String × String) := []
  words : List String := []

namespace Level

def option? (level : Level) (name : String) : Option String := level.options.lookup name

def flag (level : Level) (name : String) : Bool := (level.option? name).isSome

/-- Adds an option, which may be given once. -/
def give (level : Level) (option : OptionForm) (value : String) : Except Refusal Level :=
  if level.flag option.long || !option.accepts.all fun accepts => accepts value then .error .usage
  else .ok { level with options := level.options ++ [(option.long, value)] }

def takeWord (level : Level) (form : Form) (word : String) : Except Refusal Level :=
  if level.words.length < form.most then .ok { level with words := level.words ++ [word] }
  else .error .usage

end Level

/-- All arguments behind this one are words. -/
def endOfOptions : String := "--"

/-- Any other argument by its first characters. -/
inductive Argument where
  | long (name : String) (value : Option String)
  | short (letters : List Char)
  | plain

def Argument.ofText (text : String) : Argument :=
  match text.toList with
  | '-' :: '-' :: rest =>
    let value := match rest.dropWhile (· ≠ '=') with
      | _ :: value => some (String.ofList value)
      | [] => none
    .long (String.ofList (rest.takeWhile (· ≠ '='))) value
  | '-' :: c :: rest => .short (c :: rest)
  | _ => .plain

/-- A text that can be the value of the option in front of it. -/
def isValue (text : String) : Bool :=
  match Argument.ofText text with
  | .plain => true
  | _ => false

/-- A value that waits to be looked at, with its option. -/
abbrev Held := Option (OptionForm × String)

def Level.giveHeld (level : Level) : Held → Except Refusal Level
  | none => .ok level
  | some (option, value) => level.give option value

/-- A level that is complete but for the value of the last option, if that is awaited. -/
abbrev Awaiting := Level × Option OptionForm

def versionOption : OptionForm := { long := "version", short := some 'V' }

def helpOption : OptionForm := { long := "help", short := some 'h' }

/-- Options that are answered at once. -/
def answeredAtOnce (form : OptionForm) : Option Refusal :=
  if form.long = "help" then some .help
  else if form.long = "version" then some .version
  else none

def takeFlag (level : Level) (option : OptionForm) : Except Refusal Level :=
  match answeredAtOnce option with
  | some refusal => .error refusal
  | none => level.give option ""

def takeLong (form : Form) (level : Level) (name : String) (value : Option String) :
    Except Refusal Awaiting :=
  match form.options.find? fun option => option.long = name with
  | none => .error .usage
  | some option =>
    match option.accepts, value with
    | none, none => (takeFlag level option).map (·, none)
    | none, some _ => .error .usage
    | some _, some value => (level.give option value).map (·, none)
    | some _, none => .ok (level, some option)

/-- Several letters in one argument. What follows the letter of an option with values is its value,
behind an equals sign or not. -/
def takeShort (form : Form) : Level → List Char → Except Refusal Awaiting
  | level, [] => .ok (level, none)
  | level, letter :: rest =>
    match form.options.find? fun option => option.short = some letter with
    | none => .error .usage
    | some option =>
      if option.accepts.isNone then
        (takeFlag level option).bind fun level => takeShort form level rest
      else
        match rest with
        | [] => .ok (level, some option)
        | '=' :: value => (level.give option (String.ofList value)).map (·, none)
        | value => (level.give option (String.ofList value)).map (·, none)

def takeWords (form : Form) (level : Level) (words : List String) : Except Refusal Level :=
  words.foldlM (fun level word => level.takeWord form word) level

/-- A level is complete when it has its words and the command below it. -/
def complete (form : Form) (level : Level) : Except Refusal (List Level) :=
  if level.words.length < form.least || !form.commands.isEmpty then .error .usage else .ok [level]

def helpName : String := "help"

/-- Help is asked for a command by the names that lead to it. Where there are commands, help is one
of them and has none below it. -/
def helpFor : Form → List String → Refusal
  | _, [] => .help
  | form, name :: rest =>
    match form.commands.lookup name with
    | some inner => helpFor inner rest
    | none =>
      if name = helpName && !form.commands.isEmpty && rest.isEmpty then .help else .usage

/-- What an argument that starts no command adds to a level. -/
def takeArgument (form : Form) (level : Level) (argument : String) : Except Refusal Awaiting :=
  match Argument.ofText argument with
  | .long name value => takeLong form level name value
  | .short letters => takeShort form level letters
  | .plain => (level.takeWord form argument).map (·, none)

/-- The levels of commands that arguments give. -/
def scan : Form → Level → Held → List String → Except Refusal (List Level)
  | form, level, held, [] => (level.giveHeld held).bind (complete form)
  | form, level, held, argument :: rest =>
    match form.commands.lookup argument with
    | some inner => do
      let below ← scan inner { command := argument } none rest
      pure ((← level.giveHeld held) :: below)
    | none =>
      if argument = helpName && !form.commands.isEmpty then .error (helpFor form rest)
      else
        match level.giveHeld held with
        | .error refusal => .error refusal
        | .ok level =>
          if argument = endOfOptions then (takeWords form level rest).bind (complete form)
          else
            match takeArgument form level argument, rest with
            | .error refusal, _ => .error refusal
            | .ok (level, none), rest => scan form level none rest
            | .ok (_, some _), [] => .error .usage
            | .ok (level, some option), value :: rest =>
              if isValue value then scan form level (some (option, value)) rest
              else .error .usage

end ClusterRouter.CommandLine
