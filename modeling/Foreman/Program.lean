import Foreman.CommandLine
import Foreman.Host

/-!
# The program

A run of the program: the command line is read, then the configuration, then the command is carried out.
What can be seen of it is a **report**, the exit status and what was written to the two outputs. A failure
is reported with its causes below it.
-/

namespace Foreman

/-- What can be seen of a run. -/
structure Report where
  status : Nat
  out : String := ""
  err : String := ""
deriving DecidableEq, Repr

namespace Report

/-- The report of a success. -/
def success (out : String) : Report :=
  { status := 0, out := out }

/-- The report of a failure: the outermost text, and below it the causes. -/
def failure (f : Failure) : Report :=
  let causes := match f.chain.drop 1 with
    | [] => ""
    | [c] => s!"\n\nCaused by:\n    {c}"
    | cs => "\n\nCaused by:\n" ++ "\n".intercalate (cs.mapIdx fun i c ↦ s!"    {i}: {c}")
  { status := 1, err := s!"Error: {f.headline}{causes}\n" }

/-- The report of a command line that is not understood. -/
def misuse : Report :=
  { status := 2, err := "error: invalid command line\n\nFor more information, try '--help'.\n" }

end Report

/-- The failure that an error of the configuration is. -/
def ConfigError.toFailure (e : ConfigError) : Failure :=
  .because e.message

/-- What a run sees of its surroundings before it has a configuration. -/
structure Launch where
  files : Files
  environment : Environment
  /-- The identifier after which the worker is named unless it has a name. -/
  fresh : Uuid

namespace Program

/-- Reads the configuration of a run. -/
def config (l : Launch) (path : Option String) : Except Failure Config :=
  (Config.load? l.files l.environment l.fresh path).mapError ConfigError.toFailure

/-- Carries a command out on a host. -/
def carryOut (h : Host) (l : Launch) (path : Option String) (c : Command) : Report :=
  match config l path with
  | .error f => .failure f
  | .ok settings =>
    match (h.run (c.output l.files settings)).1 with
    | .ok out => .success out
    | .error (.error f) => .failure f
    | .error .crash => { status := 101 }

/-- **A run of the program** on a host. -/
def run (h : Host) (l : Launch) (args : List String) : Report :=
  match CommandLine.ofArguments args with
  | .text out => .success out
  | .misuse => .misuse
  | .command path c => carryOut h l path c

end Program

end Foreman
