import CallAudit.CommandLine

/-!
# The program

Reads the arguments, looks at the files a configuration may stand in, and prints.
-/
namespace CallAudit.Program

/-- What stands at a path. -/
def look (path : String) : IO (Option FileSystem.Node) := do
  try
    let content ← IO.FS.readBinFile path
    return some (.file content.toList)
  catch e =>
    match e with
    | .noFileOrDirectory .. => return none
    | _ => return some .directory

/-- A file system with what stands at these paths, and directories elsewhere. -/
def gather (paths : List String) : IO FileSystem := do
  let mut fs : FileSystem := ⟨fun _ => some .directory, []⟩
  for path in paths do
    let place := Path.names path
    match ← look path with
    | some node => fs := fs.set place node
    | none =>
      let before := fs
      fs := { fs with node? := fun q => if q = place then none else before.node? q }
  return fs

/-- The variables that decide where a configuration is searched for. -/
def environment : IO (String → Option String) := do
  let home ← IO.getEnv "HOME"
  let configHome ← IO.getEnv "XDG_CONFIG_HOME"
  return fun name =>
    if name = "HOME" then home else if name = "XDG_CONFIG_HOME" then configHome else none

end CallAudit.Program

open CallAudit in
def main (args : List String) : IO UInt32 := do
  let lookup ← Program.environment
  let request := CommandLine.parse args
  let paths := match request with
    | .perform config? _ => (CommandLine.searchOf config? lookup).paths
    | _ => []
  let fs ← Program.gather paths
  let exit := request.run lookup fs
  IO.print exit.stdout
  IO.eprint exit.errorText
  return UInt32.ofNat exit.code
