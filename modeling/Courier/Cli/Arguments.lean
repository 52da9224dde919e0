import Courier.Access
import Courier.Cli.Options
import Courier.Cli.Output
import Courier.Port
import Courier.Text.Decimal

/-! # Arguments

The commands of the program and their options. `Invocation.parse` reads the words of a command line
into what is to be done.
-/

namespace Courier.Cli

inductive LogFormat where
  | text
  | json
deriving DecidableEq, Repr

namespace LogFormat

def all : List LogFormat := [text, json]

def word : LogFormat → String
  | text => "text"
  | json => "json"

/-- The name of the alternative itself. -/
def label : LogFormat → String
  | text => "Text"
  | json => "Json"

def ofWord? (word : String) : Option LogFormat :=
  all.find? fun format => format.word == word

end LogFormat

inductive LogLevel where
  | off
  | error
  | warn
  | info
  | debug
  | trace
deriving DecidableEq, Repr

namespace LogLevel

def all : List LogLevel := [off, error, warn, info, debug, trace]

def word : LogLevel → String
  | off => "off"
  | error => "error"
  | warn => "warn"
  | info => "info"
  | debug => "debug"
  | trace => "trace"

/-- The name of the alternative itself. -/
def label : LogLevel → String
  | off => "Off"
  | error => "Error"
  | warn => "Warn"
  | info => "Info"
  | debug => "Debug"
  | trace => "Trace"

def ofWord? (word : String) : Option LogLevel :=
  all.find? fun level => level.word == word

end LogLevel

structure SendArguments where
  port : String
  kind : Frame.Kind := .log
  peer : String := "main"
  answerId : Option UInt64 := none
  data : Option String := none
  file : Option String := none
  timeout : Option String := none
deriving DecidableEq

structure ListenArguments where
  queue : String
  workers : Nat := 2
  capacity : Nat := 262144
  access : Access := .standard
  kinds : Option (List Frame.Kind) := none
  routeCommands : Bool := false
  count : Option Nat := none
deriving DecidableEq

inductive Command where
  | send (arguments : SendArguments)
  | listen (arguments : ListenArguments)
  | version (extended : Bool)
deriving DecidableEq

/-- A command with what holds for all commands. -/
structure Invocation where
  command : Command
  format : Option Format := none
  logFormat : LogFormat := .text
  logLevel : LogLevel := .info
deriving DecidableEq

namespace Arguments

/-- The numbers that options take. -/
def largestNumber : Nat := 18446744073709551615

def anyText (_value : String) : Option UsageFault := none

def nonEmpty (value : String) : Option UsageFault :=
  if value.isEmpty then some .invalidValue else none

/-- Accepts the words that stand for something. -/
def oneOf {α : Type} (ofWord? : String → Option α) (value : String) : Option UsageFault :=
  if (ofWord? value).isSome then none else some .invalidValue

def isNumber (value : String) : Option UsageFault :=
  match Text.readDecimal largestNumber value with
  | .ok _ => none
  | .error _ => some .valueValidation

def help : OptionSpec := { name := "help", short := some 'h', action := .help }

/-- The options of every level. -/
def shared : List OptionSpec :=
  [ help,
    { name := "format", action := .single (oneOf Format.ofWord?) },
    { name := "log-format", action := .single (oneOf LogFormat.ofWord?) },
    { name := "log-level", action := .single (oneOf LogLevel.ofWord?) } ]

def commandNames : List String := ["send", "listen", "version", "help"]

def rootLevel : Level where
  options := { name := "version", short := some 'V', action := .version } :: shared
  commands := commandNames

def sendLevel : Level where
  options := shared ++
    [ { name := "kind", short := some 'k', action := .single (oneOf Frame.Kind.ofWord?) },
      { name := "peer", action := .single anyText },
      { name := "answer-id", action := .single isNumber },
      { name := "data", action := .single anyText },
      { name := "file", action := .single nonEmpty },
      { name := "timeout", action := .single anyText } ]
  positionals := 1

def listenLevel : Level where
  options := shared ++
    [ { name := "workers", action := .single isNumber },
      { name := "capacity", action := .single isNumber },
      { name := "level", action := .single (oneOf Access.ofWord?) },
      { name := "kinds", action := .many (oneOf Frame.Kind.ofWord?) },
      { name := "route-commands", action := .flag },
      { name := "count", action := .single isNumber } ]
  positionals := 1

def versionLevel : Level where
  options := shared ++ [{ name := "extended", action := .flag }]

/-- The number given for an option. -/
def number? (reading : Reading) (name : String) : Option Nat :=
  (reading.value? name).bind fun value => (Text.readDecimal largestNumber value).toOption

/-- Reads all words of a level that has no commands below it. -/
def readLeaf (level : Level) (words : List String) : Except UsageFault Reading :=
  match Reading.readAll level {} words with
  | .error fault => .error fault
  | .ok (reading, _) => reading.resolve

/-- Reads the arguments of `send`; a port from the environment stands in for one that is not given. -/
def readSend (environmentPort : Option String) (words : List String) :
    Except UsageFault (Command × Reading) :=
  match readLeaf sendLevel words with
  | .error fault => .error fault
  | .ok reading =>
    if reading.has "data" && reading.has "file" then .error .argumentConflict
    else
      match reading.words.head? <|> environmentPort with
      | none => .error .missingRequiredArgument
      | some port => .ok (.send
          { port
            kind := ((reading.value? "kind").bind Frame.Kind.ofWord?).getD .log
            peer := (reading.value? "peer").getD "main"
            answerId := (number? reading "answer-id").map UInt64.ofNat
            data := reading.value? "data"
            file := reading.value? "file"
            timeout := reading.value? "timeout" }, reading)

def readListen (words : List String) : Except UsageFault (Command × Reading) :=
  match readLeaf listenLevel words with
  | .error fault => .error fault
  | .ok reading =>
    match reading.words.head? with
    | none => .error .missingRequiredArgument
    | some queue => .ok (.listen
        { queue
          workers := (number? reading "workers").getD 2
          capacity := (number? reading "capacity").getD 262144
          access := ((reading.value? "level").bind Access.ofWord?).getD .standard
          kinds :=
            if reading.has "kinds" then some ((reading.values "kinds").filterMap Frame.Kind.ofWord?)
            else none
          routeCommands := reading.has "route-commands"
          count := number? reading "count" }, reading)

def readVersion (words : List String) : Except UsageFault (Command × Reading) :=
  match readLeaf versionLevel words with
  | .error fault => .error fault
  | .ok reading => .ok (.version (reading.has "extended"), reading)

/-- What `help` is asked about: nothing more, or one command. -/
def readHelp : List String → UsageFault
  | [] => .displayHelp
  | [word] => if commandNames.contains word then .displayHelp else .invalidSubcommand
  | _ => .invalidSubcommand

def readCommand (environmentPort : Option String) (name : String) (words : List String) :
    Except UsageFault (Command × Reading) :=
  if name = "send" then readSend environmentPort words
  else if name = "listen" then readListen words
  else if name = "version" then readVersion words
  else .error (readHelp words)

/-- The value of an option of every level: the one given nearest to the command counts. -/
def sharedValue? (inner outer : Reading) (name : String) : Option String :=
  inner.value? name <|> outer.value? name

end Arguments

open Arguments in
/-- Reads the words after the name of the program. -/
def Invocation.parse (environmentPort : Option String) (words : List String) :
    Except UsageFault Invocation :=
  match Reading.readAll rootLevel {} words with
  | .error fault => .error fault
  | .ok (outer, none) =>
    match outer.resolve with
    | .error fault => .error fault
    | .ok outer =>
      .error (if outer.given.isEmpty then .displayHelpOnMissing else .missingSubcommand)
  | .ok (outer, some (name, words)) =>
    match readCommand environmentPort name words with
    | .error fault => .error fault
    | .ok (command, inner) =>
      match outer.resolve with
      | .error fault => .error fault
      | .ok outer => .ok
        { command
          format := (sharedValue? inner outer "format").bind Format.ofWord?
          logFormat := ((sharedValue? inner outer "log-format").bind LogFormat.ofWord?).getD .text
          logLevel := ((sharedValue? inner outer "log-level").bind LogLevel.ofWord?).getD .info }

namespace Invocation

/-- The path of the file that holds the payload. -/
def payloadPath? (invocation : Invocation) : Option String :=
  match invocation.command with
  | .send arguments => arguments.file
  | _ => none

/-- The path of the file that frames are appended to. -/
def targetPath? (invocation : Invocation) : Option String :=
  match invocation.command with
  | .send arguments =>
    match Port.parse arguments.port with
    | .ok port => if port.backend? = some .file then some port.address else none
    | .error _ => none
  | _ => none

/-- Whether messages are waited for. -/
def listens (invocation : Invocation) : Bool :=
  match invocation.command with
  | .listen _ => true
  | _ => false

end Invocation

end Courier.Cli
