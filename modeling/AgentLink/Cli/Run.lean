import AgentLink.Cli.Options
import AgentLink.Agent.Launch
import AgentLink.Client.Calls
import AgentLink.Config
import AgentLink.Concurrency.Scheduler

/-!
# A run of the bridge

A run loads the configuration (the working directory given on the command line replaces the
configured one, once made canonical), makes a client with the configured handshake, answers
permission requests as the configured policy says, starts the agent and makes the handshake,
opens a session, and sends one prompt: the words joined by spaces, then a link to each
attached file. Every event of the turn is printed as it comes, as text or as JSON lines; at the
end of the turn the connection is dropped.

An interrupt while the prompt runs asks the agent to cancel the turn, and the run waits for the
turn to end as usual; an interrupt before the prompt ends the bridge at once. A failure ends
the run with status 1 and `Error: ` and the failure's structural form on standard error.
-/

namespace AgentLink.Cli

open Json Concurrency

/-- How a run of the bridge ended. -/
structure Outcome where
  /-- The exit status; none when a signal ended the bridge or it was stopped. -/
  status : Option Nat
  stdout : String
  stderr : String
  deriving Inhabited

/-- What an event prints. -/
def eventText (format : OutputFormat) (e : Event) : String :=
  match format with
  | .json => e.toValue.render ++ "\n"
  | .text =>
    match e with
    | .textDelta t => t
    | .thoughtDelta _ => ""
    | .toolCall _ title _ status _ => "\n[tool] " ++ title ++ " (" ++ status.getD "pending" ++ ")\n"
    | .toolCallUpdate id (some status) _ _ _ => "[tool " ++ id ++ "] " ++ status ++ "\n"
    | .toolCallUpdate _ none _ _ _ => ""
    | .plan entries => String.join (entries.map fun entry =>
        "[plan] " ++ entry.content ++ " (" ++ entry.status.getD "pending" ++ ")\n")
    | .turnComplete reason => "\n[turn complete: " ++ reason ++ "]\n"

/-- Print the events of `sink` as they come, until no more can come; then fill `done`. -/
def printer (format : OutputFormat) (sink done : Nat) : Nat → Act Unit
  | 0 => Act.fill done (.ok .null)
  | fuel + 1 => do
    Async.waitUntil (fun m => !(m.sink sink).received.isEmpty || !(m.sink sink).sending) none
    let events ← Async.modifyGet (·.takeEvents sink)
    if events.isEmpty then Act.fill done (.ok .null)
    else
      Async.modify (·.print (String.join (events.map (eventText format))))
      printer format sink done fuel

/-- The last component of a canonical path; the path itself for the root. -/
def fileName (path : String) : String :=
  ((pathParts path).filter (· ≠ "")).getLast?.getD path

/-- The prompt: its text, then a link to each attached file, by its canonical path. -/
def buildPrompt (fs : FileSystem) (text : String) (resources : List String) :
    Except Failure (List PromptItem) := do
  let links ← resources.mapM fun path =>
    match fs.resolve path with
    | .ok p => .ok (PromptItem.resourceLink ("file://" ++ p) (fileName p))
    | .error e => .error (.config ("invalid resource " ++ path ++ ": " ++ e.text))
  return .text text :: links

/-- The configuration of a run, with the working directory of the command line. -/
def loadConfig (fs : FileSystem) (inv : Invocation) : Except Failure Config := do
  let config ← Config.load fs inv.config
  match inv.cwd with
  | none => return config
  | some dir =>
    match fs.resolve dir with
    | .ok p => return { config with session := { config.session with cwd := p } }
    | .error e => .error (.config ("invalid cwd override: " ++ e.text))

/-- The client's options under a configuration. -/
def clientOptions (config : Config) : ClientOptions :=
  ⟨config.retryPolicy, config.handshakeTimeout, "acp-bridge", "0.2.0"⟩

/-- How the configured agent is started. -/
def spawnConfig (config : Config) : SpawnConfig :=
  ⟨config.agent.command, config.agent.args, config.agent.env, config.session.cwd⟩

/-- The client's listener and permission responder are the only ones a run registers. -/
def clientHooks : Hooks where
  hear _ _ method params := Client.hear method params
  answer _ _ _ params _ := Client.answerPermission params

/-- Let interrupts be caught from now on. -/
def catchInterrupts : Act Unit :=
  Async.modify fun m => { m with interrupts := { m.interrupts with handled := true } }

/-- The conversation of a run, from the handshake to the dropped connection. -/
def converse (m : Machine) (inv : Invocation) (config : Config) : Act (Except Failure Unit) := do
  let _ ← Client.subscribeErrors
  let _ ← Client.subscribePermissions (.policy config.permissionPolicy)
  match ← Client.handshake (launch clientHooks m (spawnConfig config)) with
  | .error e => return .error e
  | .ok () =>
    match ← Client.newSession config.session.cwd config.session.mcpServers with
    | .error e => return .error e
    | .ok id =>
      let session := match id with
        | .string s => s
        | _ => ""
      let sink ← Async.modifyGet (·.addSink true)
      let printed ← Act.newCell
      Async.spawn (printer inv.output sink printed taskFuel)
      match buildPrompt m.files (" ".intercalate inv.prompt) inv.resources with
      | .error e => return .error e
      | .ok content =>
        catchInterrupts
        let turn ← Act.newCell
        Async.spawn do
          let r ← Client.prompt session content sink
          Async.modify (·.closeSink sink)
          Act.fill turn r
        Async.waitUntil (fun m => (m.cell turn).isSettled || m.interrupts.caught) none
        if !(← Async.read fun m => (m.cell turn).isSettled) then
          let _ ← Client.cancel session
        let outcome := Link.outcomeOf (← Act.awaitCell turn)
        let _ ← Act.awaitCell printed
        let _ ← Client.disconnect
        return outcome.map fun _ => ()

/-- The run as a task that ends as the call `main`. -/
def mainTask (m : Machine) (inv : Invocation) (config : Config) : Act Unit := do
  let r ← converse m inv config
  Async.modify (·.finish "main" (.returned (r.map fun _ => .null)))

/-- The end of a run that failed. -/
def failed (stdout : String) (f : Failure) : Outcome :=
  ⟨some 1, stdout, "Error: " ++ f.debugText ++ "\n"⟩

/-- Run the bridge with the arguments `args` on machine `m`, stopping it after `limit`
milliseconds. -/
def runBridge (m : Machine) (args : List String) (limit : Nat) : Outcome :=
  match readArgs args with
  | .error (.help long) => ⟨some 0, if long then longHelp else shortHelp, ""⟩
  | .error .version => ⟨some 0, versionText, ""⟩
  | .error (.usage message) => ⟨some 2, "", message⟩
  | .ok inv =>
    match loadConfig m.files inv with
    | .error f => failed "" f
    | .ok config =>
      let start := Scheduler.start (Memory.new (Client.new (clientOptions config)))
      let sched := start.launch (mainTask m inv config).toProgram
      let goal := fun (mem : Memory) => mem.hasFinished "main" || mem.interrupts.fatal
      let mem := (sched.runUntil goal limit taskFuel).1.state
      if mem.interrupts.fatal then ⟨none, mem.output, ""⟩
      else
        match mem.heard.finished.lookup "main" with
        | some (.returned (.ok _)) => ⟨some 0, mem.output, ""⟩
        | some (.returned (.error f)) => failed mem.output f
        | _ => ⟨none, mem.output, ""⟩

/-- The paths that a run with the arguments `args` looks for on `fs` and does not find there,
as far as `fs` shows what the run will look for: the configuration, the working directories,
the attached files and the agent's program. A host that knows more of its files than `fs`
holds adds these and asks again, until nothing new is asked for. -/
def neededPaths (fs : FileSystem) (env : List (String × String)) (args : List String) :
    List String :=
  match readArgs args with
  | .error _ => []
  | .ok inv =>
    let configured := match fs.read inv.config with
      | .ok bytes =>
        match (utf8Decode bytes).map Config.parse with
        | some (.ok c) =>
          let command := c.agent.command
          let program :=
            if command.contains '/' then
              match fs.resolve (inv.cwd.getD c.session.cwd) with
              | .ok dir => [(({ fs with cwd := dir } : FileSystem)).firstMissing command]
              | .error _ => []
            else
              let path := (((env.lookup "PATH").getD "").splitOn ":").filter (!·.isEmpty)
              path.map fun d => fs.firstMissing (d ++ "/" ++ command)
          [fs.firstMissing c.session.cwd] ++ program
        | _ => []
      | .error _ => []
    let direct := [inv.config] ++ inv.cwd.toList ++ inv.resources
    ((direct.map fs.firstMissing) ++ configured).filterMap id |>.eraseDups

end AgentLink.Cli
