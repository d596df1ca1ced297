import AgentLink.Cli.Run

/-!
# The bridge on this host

`main` runs the bridge with its arguments. It learns the files a run needs by reading them: a
path that reads is a file, one that is a directory says so, any other is missing. It takes the
inherited variables of its environment, and its own program is the one that plays agent
scripts. Then it runs the bridge, writes what the bridge printed and exits with its status
(130 when an interrupt ended it).
-/

namespace AgentLink.Cli

/-- What is at `path` on this host: a file and its bytes, a directory, or nothing. -/
def probeHost (path : String) : IO (Option Entry) := do
  try
    return some (.file (← IO.FS.readBinFile path).toList)
  catch e =>
    match e with
    | .inappropriateType _ 21 _ => return some .directory
    | _ => return none

/-- Learn the files of this host that a run of `args` needs, in at most `rounds` rounds;
`asked` are the paths already looked at. -/
def learnFiles (env : List (String × String)) (args : List String) :
    Nat → FileSystem → List String → IO FileSystem
  | 0, fs, _ => return fs
  | rounds + 1, fs, asked => do
    let fresh := (neededPaths fs env args).filter fun p => !asked.contains p
    if fresh.isEmpty then return fs
    let mut fs := fs
    for p in fresh do
      if let some e ← probeHost p then
        fs := { fs with entries := fs.entries ++ [(p, e)] }
    learnFiles env args rounds fs (asked ++ fresh)

/-- How long a run may take, in milliseconds: a day. -/
def runLimit : Nat := 24 * 60 * 60 * 1000

end AgentLink.Cli

open AgentLink AgentLink.Cli in
def main (args : List String) : IO UInt32 := do
  let cwd := (← IO.currentDir).toString
  let program := (← IO.appPath).toString
  let env ← inheritedVars.filterMapM fun k => do return (← IO.getEnv k).map fun v => (k, v)
  let files ← learnFiles env args 256 ⟨[], cwd⟩ []
  let out := runBridge ⟨files, env, [(program, .scriptAgent)]⟩ args runLimit
  IO.print out.stdout
  IO.eprint out.stderr
  return (out.status.getD 130).toUInt32
