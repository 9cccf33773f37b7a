import PathSession.Program

/-!
# The program

The command line: reads the files that the arguments ask for and does what they come to.  A node
runs until its input ends.
-/

namespace PathSession

/-- The files that a command line may ask for. -/
def Invocation.fileNames (i : Invocation) : List String :=
  match i with
  | .command c =>
    ".env" :: c.confName :: (Folder.stem? c.confName).toList.flatMap fun stem =>
      ConfigFormat.all.map fun f => s!"{stem}.{f.extension}"
  | _ => []

/-- The named files, as far as they can be read. -/
def Folder.load (names : List String) : IO Folder :=
  names.foldlM
    (fun folder (name : String) => do
      try
        let text ← IO.FS.readFile name
        pure (folder ++ [(name, text)])
      catch _ => pure folder)
    []

/-- What the program is told when it is asked for help. -/
def usage : String :=
  "Usage: pcee [OPTIONS] [COMMAND]\n\n" ++
  "Commands:\n" ++
  "  print-config  print the effective configuration and exit\n" ++
  "  run           run the node in the configured role (default)\n" ++
  "  help          Print this message or the help of the given subcommand(s)\n\n" ++
  "Options:\n" ++
  "  -c, --conf <CONF>  path to config file\n" ++
  "  -v, --verbose...   log level (v: info, vv: debug, vvv: trace)\n" ++
  "      --otel         export spans over OTLP and write a rolling log file\n" ++
  "  -h, --help         Print help\n" ++
  "  -V, --version      Print version\n"

/-- Wait for the end of the input. -/
partial def waitForEnd (input : IO.FS.Stream) : IO Unit := do
  if (← input.getLine).isEmpty then pure () else waitForEnd input

/-- A node from its start to its end. -/
def NodeRun.run (r : NodeRun) : IO Unit := do
  if r.shownBanner?.isSome then
    IO.println s!"{r.bannerEntry.level.label} {NodeRun.place}: {r.bannerEntry.text}"
  waitForEnd (← IO.getStdin)

/-- Do what a command line came to; the exit code. -/
def Plan.carryOut : Plan → IO UInt32
  | .help => do IO.print usage; pure 0
  | .version => do IO.println s!"{NodeRun.place} {programVersion}"; pure 0
  | .misuse => do IO.eprint usage; pure 2
  | .print text => do IO.print text; pure 0
  | .fail fault _ => do IO.eprintln s!"Error: {fault.inspect}"; pure 1
  | .breakOff _ => do IO.eprintln "the worker pool does not fit into memory"; pure 101
  | .run r => do r.run; pure 0

end PathSession

/-- The program. -/
def main (args : List String) : IO UInt32 := do
  let invocation := PathSession.Invocation.ofArgs args
  let folder ← PathSession.Folder.load invocation.fileNames
  let filter ← IO.getEnv "RUST_LOG"
  let env : PathSession.Environment := filter.toList.map fun text => ("RUST_LOG", text)
  (PathSession.Plan.ofArgs args env folder).carryOut
