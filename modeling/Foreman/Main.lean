import Foreman.Program
import Std.Time.DateTime.Timestamp

/-!
# The executable

The only module that touches the world. It reads the arguments, the variables that `Setting.all` names and
the files that these name, takes the time and a random number, and hands all of them to `Program.run` as
values; what comes back is a report to be printed.

**What serves is a site of its own.** The command `run` prepares its service as any other command does and
then steps it for ever: a tick of the runner, then every signal that is on the bus. Only the runner and the
handlers emit signals, so between two ticks there is nothing to wait for.

The executable has no connection to a database and none to a collaborator: a configuration that names a
database fails to connect, and a document that is posted is not answered.
-/

namespace Foreman.Executable

open Time

/-! ### What is read -/

/-- The reason that the system gives. -/
def reasonOf : IO.Error → FileError
  | .noFileOrDirectory .. => .notFound
  | .inappropriateType .. => .isDirectory
  | e => .other (toString e)

/-- The text of a file. -/
def readText (path : String) : IO (Except FileError String) := do
  if path.contains (Char.ofNat 0) then pure (.error .nulInPath)
  else
    try
      match String.fromUTF8? (← IO.FS.readBinFile path) with
      | some text => pure (.ok text)
      | none => pure (.error (.other "stream did not contain valid UTF-8"))
    catch e => pure (.error (reasonOf e))

/-- The files of these paths, as far as they can be read. -/
def readFiles (paths : List String) : IO Files := do
  let texts ← paths.mapM fun path ↦ do pure (path, ← readText path)
  pure fun path ↦ (texts.lookup path).getD (.error .notFound)

/-- The variables that set something, and the one that names the file of the configuration. -/
def readEnvironment : IO Environment := do
  let values ← ("PDCA_CONFIG" :: Setting.all.map Setting.key).mapM fun key ↦ do
    pure (key, ← IO.getEnv key)
  pure fun key ↦ (values.lookup key).join

/-- The time. -/
def readClock : IO Instant := do
  let nanos := (← Std.Time.Timestamp.now).toNanosecondsSinceUnixEpoch.val
  pure ⟨nanos / second, (nanos % second).toNat⟩

/-- A supply of identifiers that begins at a random place. -/
def readSupply : IO IdSupply := do
  let bytes ← IO.getRandomBytes 7
  pure ⟨bytes.toList.foldl (fun n b ↦ n * 256 + b.toNat) 0⟩

/-- What the program sees before it has a configuration: the file of the configuration is read first, and
then the file of the control plane that it names. -/
def readLaunch (path : Option String) : IO Launch := do
  let environment ← readEnvironment
  let fresh := (← readSupply).next
  let named := (path.or (environment "PDCA_CONFIG")).toList
  let files ← readFiles named
  match Config.load? files environment fresh path with
  | .ok c => pure ⟨← readFiles (named ++ c.stateTablePath.toList), environment, fresh⟩
  | .error _ => pure ⟨files, environment, fresh⟩

/-- A host without a database. -/
def readHost : IO Host := do
  pure { premises := ⟨{ clock := ← readClock, ids := ← readSupply }, {}⟩ }

/-! ### What is done -/

/-- Prints a report and answers its status. -/
def print (r : Report) : IO UInt32 := do
  IO.print r.out
  IO.eprint r.err
  pure r.status.toUInt32

/-- How many signals are taken between two ticks. -/
def pumpLimit : Nat := 1000000

/-- One round of a service: a tick, and the signals behind it. -/
def round (s : Service) : Work Empty Service := do
  let runner ← s.runner.tickTimes 1
  let (_, dispatcher) ← s.dispatcher.pump pumpLimit
  pure { s with runner := runner, dispatcher := dispatcher }

/-- Serves until the process ends or a round has no result. -/
partial def serve (s : Service) (site : Site) : IO UInt32 := do
  match ({ site with clock := ← readClock } : Site).run (round s) with
  | (.ok next, site) =>
    IO.sleep next.runner.config.pollIntervalMs.toUInt32
    serve next site
  | (.error _, _) => pure 101

/-- Makes everything ready to serve and serves. -/
def start (h : Host) (l : Launch) (path : Option String) : IO UInt32 :=
  match Program.config l path with
  | .error f => print (.failure f)
  | .ok c =>
    match h.run (Command.prepare l.files c) with
    | (.ok service, h) => serve service h.premises.surroundings
    | (.error (.error f), _) => print (.failure f)
    | (.error .crash, _) => pure 101

end Foreman.Executable

open Foreman in
/-- Carries out the command line. -/
def main (args : List String) : IO UInt32 := do
  let host ← Executable.readHost
  match CommandLine.ofArguments args with
  | .command path .run => Executable.start host (← Executable.readLaunch path) path
  | .command path _ => Executable.print (Program.run host (← Executable.readLaunch path) args)
  | _ => Executable.print (Program.run host (← Executable.readLaunch none) args)
