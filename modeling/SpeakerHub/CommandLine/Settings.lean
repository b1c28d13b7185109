import SpeakerHub.CommandLine.Options
import SpeakerHub.Text.Numeral

/-! # The options of the server

* **`Settings`** — what the command line says.
* **`Settings.ofArguments`** — reads it.
* **`Places`** — the files and directories the server uses. -/

namespace SpeakerHub

open CommandLine

/-- How much is logged. -/
inductive LogLevel where
  /-- Nothing. -/
  | off
  /-- Errors. -/
  | error
  /-- Also warnings. -/
  | warn
  /-- Also what happens. -/
  | info
  /-- Also details. -/
  | debug
  /-- Everything. -/
  | trace
  deriving DecidableEq

namespace LogLevel

/-- All levels. -/
def all : List LogLevel :=
  [off, error, warn, info, debug, trace]

/-- The name of a level. -/
def name : LogLevel → String
  | off => "OFF"
  | error => "ERROR"
  | warn => "WARN"
  | info => "INFO"
  | debug => "DEBUG"
  | trace => "TRACE"

/-- The level with a name, in any case. -/
def ofText? (text : String) : Option LogLevel :=
  all.find? fun level => level.name.toList == text.toList.map Char.toUpper

end LogLevel

/-- What a command line says. -/
structure Settings where
  /-- Only the help is wanted. -/
  showHelp : Bool
  /-- The server stays in the foreground. -/
  foreground : Bool
  /-- The log file. -/
  log : Option String
  /-- The file with the number of the process. -/
  pid : Option String
  /-- The configuration file. -/
  config : Option String
  /-- The directory of the records. -/
  data : Option String
  /-- The port. -/
  port : Option Nat
  /-- How much is logged. -/
  logLevel : Option LogLevel

namespace Settings

/-- The options of the server. -/
def specs : List Spec :=
  [{ short := some 'c', long := "config", value := some "FILE",
     description := "set the configuration file" },
    { short := some 'p', long := "port", value := some "PORT",
      description := "set homeport to run on a custom port" },
    { short := none, long := "data", value := some "DIRECTORY",
      description := "set the directory holding account and device records" },
    { short := none, long := "log", value := some "FILE",
      description := "set the path to the log file" },
    { short := none, long := "pid", value := some "FILE",
      description := "set the path to the pid file" },
    { short := none, long := "log-level", value := some "LEVEL",
      description := "set the log level to one of off, error, warn, info, debug, trace" },
    { short := some 'f', long := "foreground", value := none,
      description := "run homeport in the foreground instead of daemonizing" },
    { short := some 'h', long := "help", value := none,
      description := "print this help menu" }]

/-- The help text below a line about the program. -/
def usage (brief : String) : String :=
  CommandLine.usage specs brief

/-- Reads a command line. A port or a level that makes no sense is passed over. -/
def ofArguments (args : List String) : Except Misuse Settings := do
  let given ← CommandLine.read specs args
  let value (long : String) : Option String := (given.lookup long).join
  return {
    showHelp := given.any (·.1 == "help")
    foreground := given.any (·.1 == "foreground")
    log := value "log"
    pid := value "pid"
    config := value "config"
    data := value "data"
    port := (value "port").bind (Numeral.unsigned? UInt16.size)
    logLevel := (value "log-level").bind LogLevel.ofText? }

end Settings

/-- The files and directories that the server uses. -/
structure Places where
  /-- The configuration file. -/
  config : Option String
  /-- The directory of the records. -/
  data : String
  /-- The log file. -/
  log : Option String
  /-- The file with the number of the process. -/
  pid : String

/-- The places that follow from a command line. In the foreground there is no log file unless one is
asked for. -/
def Places.ofSettings (s : Settings) : Places :=
  { config := s.config
    data := s.data.getD "./data"
    log := s.log.or (if s.foreground then none else some "./homeport.log")
    pid := s.pid.getD "./homeport.pid" }

end SpeakerHub
