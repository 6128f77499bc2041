import Foreman.Command
import Foreman.Text.Numeral

/-!
# The command line

A command and its options. The option `--config` may stand in front of the command and behind it, and
the one behind it counts; every other option belongs to its command. A value follows its option, or is
joined to it by an equals sign, and then it may begin with a hyphen. Options are read from left to right
and the first fault ends the reading, as does a request for help.
-/

namespace Foreman

/-- What a command line asks for. -/
inductive CommandLine where
  /-- Carry out a command with the configuration of a file. -/
  | command (config : Option String) (command : Command)
  /-- Print a text. -/
  | text (text : String)
  /-- The command line is not understood. -/
  | misuse
deriving DecidableEq, Repr

namespace CommandLine

/-! ### Texts -/

/-- The name of the program and its version. -/
def versionText : String := "pdca-runtime 1.0.0\n"

/-- What each command does, by its name. -/
def summaries : List (String × String) :=
  [("run", "Run the dispatcher, the queue runner and the admin API"),
   ("metrics", "Print queue metrics as JSON"),
   ("migrate", "Apply the database schema"),
   ("states", "Print the state table that would be loaded"),
   ("help", "Print this message or the help of the given subcommand(s)")]

/-- A line of a list of names and what they stand for. -/
def entry (width : Nat) (name text : String) : String :=
  "  " ++ name ++ .ofList (List.replicate (width - name.length) ' ') ++ "  " ++ text ++ "\n"

/-- The option that every command has. -/
def configEntry (width : Nat) : String :=
  entry width "    --config <CONFIG>" "TOML config file (defaults to $PDCA_CONFIG)"

/-- The help of the program. -/
def programHelp : String :=
  "Signal-driven dispatcher and PDCA task scheduler\n\n"
    ++ "Usage: pdca-runtime [OPTIONS] <COMMAND>\n\n"
    ++ "Commands:\n" ++ .join (summaries.map fun e ↦ entry 7 e.1 e.2) ++ "\n"
    ++ "Options:\n" ++ configEntry 21 ++ entry 21 "-h, --help" "Print help"
    ++ entry 21 "-V, --version" "Print version"

/-- The help of a command. -/
def commandHelp (name : String) : String :=
  let summary := ((summaries.find? fun e ↦ e.1 == name).map (·.2)).getD ""
  let lookback := "    --lookback-minutes <LOOKBACK_MINUTES>"
  let width := if name = "metrics" then lookback.length else 21
  summary ++ "\n\nUsage: pdca-runtime " ++ name ++ " [OPTIONS]\n\nOptions:\n" ++ configEntry width
    ++ (if name = "metrics" then entry width lookback "[default: 15]" else "")
    ++ entry width "-h, --help" "Print help"

/-- The help of the command that prints help. -/
def helpHelp : String :=
  "Print this message or the help of the given subcommand(s)\n\n"
    ++ "Usage: pdca-runtime help [COMMAND]...\n\nArguments:\n"
    ++ entry 12 "[COMMAND]..." "Print help for the subcommand(s)"

/-! ### Arguments -/

/-- An argument: an option with the value joined to it, or anything else. -/
inductive Argument where
  | option (name : String) (value : Option String)
  /-- Everything behind it is no option. -/
  | endOfOptions
  | word (text : String)

/-- What an argument is. A hyphen alone is a word. -/
def Argument.ofString (s : String) : Argument :=
  match s.toList with
  | ['-'] => .word s
  | ['-', '-'] => .endOfOptions
  | '-' :: '-' :: cs =>
    let name := cs.takeWhile (· != '=')
    match cs.drop name.length with
    | _ :: value => .option ("--" ++ .ofList name) (some (.ofList value))
    | [] => .option s none
  | '-' :: c :: rest =>
    .option (.ofList ['-', c]) (if rest.isEmpty then none else some (.ofList rest))
  | _ => .word s

/-- The value of an option, which may be joined to it or be the next argument. -/
def takeValue (joined : Option String) (rest : List String) : Option (String × List String) :=
  match joined, rest with
  | some v, _ => some (v, rest)
  | none, v :: rest =>
    match Argument.ofString v with
    | .word _ => some (v, rest)
    | _ => none
  | none, [] => none

/-- What has been read on one level: the program or one of its commands. -/
structure Options where
  config : Option String := none
  lookback : Option Nat := none

/-- How the reading of one level ends. -/
inductive Ending where
  /-- All arguments have been read; the options, and what is left at the first word. -/
  | options (o : Options) (rest : List String)
  | help
  | version
  | misuse

/-- A path is not empty. -/
def path? (s : String) : Option String :=
  if s = "" then none else some s

/-- A number of minutes. -/
def minutes? (s : String) : Option Nat :=
  ((Text.integer? s).filter fun (n : Int) ↦ 0 ≤ n && n < Machine.limit32).map Int.toNat

/-- Reads options up to the first word. `command` is the command whose level it is. -/
def readOptions (command : Option String) : (fuel : Nat) → Options → List String → Ending
  | 0, _, _ => .misuse
  | _ + 1, o, [] => .options o []
  | fuel + 1, o, arg :: rest =>
    match Argument.ofString arg with
    | .word _ => .options o (arg :: rest)
    | .endOfOptions => if rest = [] then .options o [] else .misuse
    | .option name joined =>
      if (name = "--help" && joined.isNone) || name = "-h" then .help
      else if ((name = "--version" && joined.isNone) || name = "-V") && command.isNone then .version
      else if name = "--config" && o.config.isNone then
        match (takeValue joined rest).bind fun (v, r) ↦ (path? v).map fun p ↦ (p, r) with
        | some (p, r) => readOptions command fuel { o with config := some p } r
        | none => .misuse
      else if name = "--lookback-minutes" && o.lookback.isNone && command = some "metrics" then
        match (takeValue joined rest).bind fun (v, r) ↦ (minutes? v).map fun n ↦ (n, r) with
        | some (n, r) => readOptions command fuel { o with lookback := some n } r
        | none => .misuse
      else .misuse

/-- The command of a name. -/
def commandOf? (name : String) (o : Options) : Option Command :=
  match name with
  | "run" => some .run
  | "metrics" => some (.metrics (o.lookback.getD 15))
  | "migrate" => some .migrate
  | "states" => some .states
  | _ => none

/-- The help of the commands named. -/
def readHelp : List String → CommandLine
  | [] => .text programHelp
  | ["help"] => .text helpHelp
  | [name] => if (commandOf? name {}).isSome then .text (commandHelp name) else .misuse
  | _ => .misuse

/-- Reads what stands behind the name of a command. -/
def readCommand (outer : Options) (name : String) (rest : List String) : CommandLine :=
  if (commandOf? name {}).isNone then .misuse
  else
    match readOptions (some name) (rest.length + 1) {} rest with
    | .help => .text (commandHelp name)
    | .options o [] =>
      match commandOf? name o with
      | some c => .command (o.config.or outer.config) c
      | none => .misuse
    | _ => .misuse

/-- **Reads a command line**, without the name of the program. -/
def ofArguments (args : List String) : CommandLine :=
  match readOptions none (args.length + 1) {} args with
  | .help => .text programHelp
  | .version => .text versionText
  | .misuse => .misuse
  | .options _ [] => .misuse
  | .options o (name :: rest) => if name = "help" then readHelp rest else readCommand o name rest

end CommandLine

end Foreman
