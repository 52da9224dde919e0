import Courier.Text.Pieces

/-! # Command line options

A word list is read against the options of one level of commands. An option's value may stand in the
same word or be the next word; a value in the next word is looked at only when something valid follows
or the words end. The first word that names a command of the level below ends the reading.
-/

namespace Courier.Cli

/-- Why the words of a command line are not carried out. -/
inductive UsageFault where
  | invalidValue
  | unknownArgument
  | valueValidation
  | argumentConflict
  | missingRequiredArgument
  | invalidSubcommand
  | missingSubcommand
  | tooManyValues
  /-- Help was asked for. -/
  | displayHelp
  /-- The version was asked for. -/
  | displayVersion
  /-- No word was given where a command is needed. -/
  | displayHelpOnMissing
deriving DecidableEq, Repr

/-- A short name for each cause. -/
def UsageFault.label : UsageFault → String
  | .invalidValue => "InvalidValue"
  | .unknownArgument => "UnknownArgument"
  | .valueValidation => "ValueValidation"
  | .argumentConflict => "ArgumentConflict"
  | .missingRequiredArgument => "MissingRequiredArgument"
  | .invalidSubcommand => "InvalidSubcommand"
  | .missingSubcommand => "MissingSubcommand"
  | .tooManyValues => "TooManyValues"
  | .displayHelp => "DisplayHelp"
  | .displayVersion => "DisplayVersion"
  | .displayHelpOnMissing => "DisplayHelpOnMissingArgumentOrSubcommand"

/-- What an option does. -/
inductive OptionAction where
  /-- It is there or not. -/
  | flag
  /-- It has one value, and stands at most once. -/
  | single (check : String → Option UsageFault)
  /-- It has values with commas between them, and may stand again. -/
  | many (check : String → Option UsageFault)
  | help
  | version

namespace OptionAction

def takesValue : OptionAction → Bool
  | single _ | many _ => true
  | flag | help | version => false

end OptionAction

structure OptionSpec where
  name : String
  short : Option Char := none
  action : OptionAction

/-- What may stand at one level of commands. -/
structure Level where
  options : List OptionSpec
  /-- The number of words that may stand on their own. -/
  positionals : Nat := 0
  commands : List String := []

/-- What has been read at one level. -/
structure Reading where
  /-- The options that were given, with their values. -/
  given : List (String × List String) := []
  words : List String := []
  /-- The last option whose value has not been looked at. -/
  pending : Option (OptionSpec × List String) := none
  /-- Whether the next word is the value of the pending option. -/
  awaiting : Bool := false
  /-- Whether all words stand on their own from here on. -/
  trailing : Bool := false

namespace Reading

def has (reading : Reading) (name : String) : Bool :=
  reading.given.any fun (other, _) => other == name

def values (reading : Reading) (name : String) : List String :=
  (reading.given.filter fun (other, _) => other == name).flatMap (·.2)

/-- The value of an option that stands at most once. -/
def value? (reading : Reading) (name : String) : Option String :=
  (reading.values name).head?

def add (reading : Reading) (name : String) (values : List String) : Reading :=
  { reading with given := reading.given ++ [(name, values)] }

/-- Takes an option with the values that stand with it. -/
def take (reading : Reading) (option : OptionSpec) (values : List String) :
    Except UsageFault Reading :=
  match option.action with
  | .help => .error .displayHelp
  | .version => .error .displayVersion
  | .flag =>
    if reading.has option.name then .error .argumentConflict
    else .ok (reading.add option.name [])
  | .single check =>
    match values with
    | [] => .error .invalidValue
    | value :: _ =>
      if reading.has option.name then .error .argumentConflict
      else
        match check value with
        | some fault => .error fault
        | none => .ok (reading.add option.name [value])
  | .many check =>
    match values with
    | [] => .error .invalidValue
    | value :: _ =>
      let parts := Text.cut ',' value
      match parts.findSome? check with
      | some fault => .error fault
      | none => .ok (reading.add option.name parts)

/-- Looks at the value of the pending option. -/
def resolve (reading : Reading) : Except UsageFault Reading :=
  match reading.pending with
  | none => .ok reading
  | some (option, values) =>
    { reading with pending := none, awaiting := false }.take option values

/-- Takes an option after the one that is pending. -/
def takeNext (reading : Reading) (option : OptionSpec) (values : List String) :
    Except UsageFault Reading :=
  match reading.resolve with
  | .error fault => .error fault
  | .ok reading => reading.take option values

/-- Lets an option wait for the next word as its value. -/
def await (reading : Reading) (option : OptionSpec) : Except UsageFault Reading :=
  match reading.resolve with
  | .error fault => .error fault
  | .ok reading => .ok { reading with pending := some (option, []), awaiting := true }

/-- Reads a word that begins with two hyphens. -/
def readLong (level : Level) (reading : Reading) (body : List Char) : Except UsageFault Reading :=
  let name := String.ofList (body.takeWhile (· != '='))
  match level.options.find? fun option => option.name == name, body.dropWhile (· != '=') with
  | none, _ => .error .unknownArgument
  | some option, [] =>
    if option.action.takesValue then reading.await option else reading.takeNext option []
  | some option, _ :: value =>
    if option.action.takesValue then reading.takeNext option [String.ofList value]
    else .error .tooManyValues

/-- Reads the letters after one hyphen: options without a value, or one with the rest as its value. -/
def readShort (level : Level) : Reading → List Char → Except UsageFault Reading
  | reading, [] => .ok reading
  | reading, letter :: rest =>
    match level.options.find? fun option => option.short == some letter with
    | none => .error .unknownArgument
    | some option =>
      if option.action.takesValue then
        match rest with
        | [] => reading.await option
        | '=' :: value => reading.takeNext option [String.ofList value]
        | value => reading.takeNext option [String.ofList value]
      else
        match reading.takeNext option [] with
        | .error fault => .error fault
        | .ok reading => readShort level reading rest

/-- Reads a word that stands on its own. -/
def readWord (level : Level) (reading : Reading) (word : String) : Except UsageFault Reading :=
  if reading.words.length < level.positionals then
    match reading.resolve with
    | .error fault => .error fault
    | .ok reading => .ok { reading with words := reading.words ++ [word] }
  else if level.commands.isEmpty || (reading.trailing && level.commands.contains word) then
    .error .unknownArgument
  else .error .invalidSubcommand

/-- Reads one word that names no command. -/
def readOne (level : Level) (reading : Reading) (word : String) : Except UsageFault Reading :=
  if reading.trailing then reading.readWord level word
  else
    match word.toList with
    | ['-', '-'] => .ok { reading with trailing := true }
    | '-' :: '-' :: body => reading.readLong level body
    | '-' :: letter :: letters => reading.readShort level (letter :: letters)
    | _ =>
      match reading.awaiting, reading.pending with
      | true, some (option, values) =>
        .ok { reading with pending := some (option, values ++ [word]), awaiting := false }
      | _, _ => reading.readWord level word

/-- Reads words up to the name of a command, which is returned with the words after it. -/
def readAll (level : Level) : Reading → List String →
    Except UsageFault (Reading × Option (String × List String))
  | reading, [] => .ok (reading, none)
  | reading, word :: rest =>
    if !reading.trailing && !reading.awaiting && level.commands.contains word then
      .ok (reading, some (word, rest))
    else
      match reading.readOne level word with
      | .error fault => .error fault
      | .ok reading => readAll level reading rest

end Reading

end Courier.Cli
