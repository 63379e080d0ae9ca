import GpuSharing.CommandLine.Options

/-!
# Commands

The commands of the program: running the daemon, and searching for devices once. The
first word names the command, and the others are its options.
-/

set_option autoImplicit false

namespace GpuSharing

inductive Command where
  | daemon (options : DaemonOptions)
  | discover (options : DiscoveryOptions) (pretty : Bool)

namespace Command

def names : List String := ["daemon", "discover", "help"]

def daemonGrammar : Grammar DaemonOptions := { settings := DaemonOptions.settings }

/-- The options of a search, and whether its result is laid out for readers. -/
def discoverGrammar : Grammar (DiscoveryOptions × Bool) :=
  { settings := DiscoveryOptions.settings.map
      (·.within (·.1) fun options both => (options, both.2))
    flags := [{ name := "pretty", raise := fun both => (both.1, true) }] }

def readDaemon (environment : String → Option String) (words : List String) :
    Except CommandLineError DaemonOptions :=
  daemonGrammar.read environment words {}

def readHelp : List String → CommandLineError
  | [] => .helpAsked
  | [name] => if names.contains name then .helpAsked else .unknownCommand
  | _ :: _ :: _ => .unknownCommand

def readOutside (first : String) (rest : List String) : CommandLineError :=
  match Word.ofText first with
  | .separator =>
      match rest with
      | [] => .commandMissing
      | name :: _ => if names.contains name then .unknownArgument else .unknownCommand
  | .long "help" value => if value.isSome then .unwantedValue else .helpAsked
  | .long "version" value => if value.isSome then .unwantedValue else .versionAsked
  | .long _ _ => .unknownArgument
  | .short 'h' => .helpAsked
  | .short 'V' => .versionAsked
  | .short _ => .unknownArgument
  | .plain _ => .unknownCommand

def read (environment : String → Option String) (words : List String) :
    Except CommandLineError Command :=
  match words with
  | [] => .error .commandMissing
  | "daemon" :: words => (readDaemon environment words).map .daemon
  | "discover" :: words =>
      (discoverGrammar.read environment words ({}, false)).map fun (options, pretty) =>
        .discover options pretty
  | "help" :: words => .error (readHelp words)
  | first :: words => .error (readOutside first words)

end Command

end GpuSharing
