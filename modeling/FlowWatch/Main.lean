import FlowWatch.Daemon.Program
import FlowWatch.Endpoint.Wire
import Std.Async.DNS
import Std.Async.Signal
import Std.Async.TCP

/-!
# The program

The program asks the machine for variables, files, clocks, signals and
connections, and leaves every decision to the library. The loop and the server
share one cell with the state of the loop, so that a request sees the trackers
as the last turn left them.
-/

namespace FlowWatch.Program

open FlowWatch.Daemon Std.Async Std.Net

/-- Shows texts on the standard output, each with a line end behind it. -/
def showTexts (texts : List String) : IO Unit := do
  let out ← IO.getStdout
  for text in texts do
    out.putStrLn text
  out.flush

/-- Shows what a run leaves behind, and gives its exit code. -/
def leave (o : Outcome) : IO UInt32 := do
  showTexts o.output
  let err ← IO.getStderr
  for text in o.errors do
    err.putStrLn text
  pure (UInt32.ofNat o.exit)

/-- The number by which the machine tells that a path leads to a directory. -/
def directoryCode : UInt32 := 21

/-- What there is at a path. -/
def entryAt (path : String) : IO Config.FileEntry := do
  try
    pure (.file (← IO.FS.readBinFile path))
  catch
    | .noFileOrDirectory .. => pure .missing
    | .inappropriateType _ code _ =>
      if code = directoryCode then pure .directory
      else pure (.unreachable "Not a directory (os error 20)")
    | .invalidArgument .. => pure (.unreachable "File name too long (os error 36)")
    | .permissionDenied .. => pure (.refused "Permission denied (os error 13)")
    | fault => pure (.refused (toString fault))

/-- The variables that a run looks at. -/
def variableNames : List String :=
  [Config.enabledVariable, Config.idleVariable, Config.hostVariable, Config.portVariable,
    pathVariable, Log.Filter.variableName]

/-- The machine as a run of some arguments sees it, before it listens. -/
def machineFor (a : CommandLine.Arguments) : IO Machine := do
  let values ← variableNames.filterMapM fun name => do
    pure ((← IO.getEnv name).map fun value => (name, value))
  let variableValue (name : String) := (values.find? (·.1 == name)).map Prod.snd
  let paths := a.config.toList ++ (variableValue pathVariable).toList ++ usualPlaces
  let entries ← paths.mapM fun path => do pure (path, ← entryAt path)
  let file (path : String) := ((entries.find? (·.1 == path)).map Prod.snd).getD .missing
  pure ⟨variableValue, file, fun _ => .refused "not asked yet"⟩

/-- Starts a clock that never goes back. Reading it gives the time since then. -/
def startClock : IO (IO Duration) := do
  let origin ← IO.monoNanosNow
  pure do
    let now ← IO.monoNanosNow
    pure ((Duration.ofNanos? (now - origin)).getD Duration.zero)

/-- The time of day. -/
def timeOfDay : IO Timestamp := do
  pure (Timestamp.ofSystemTime (← Std.Time.Timestamp.now).toNanosecondsSinceUnixEpoch.val)

/-- The time from one reading to a later one. -/
def timeBetween (first last : Duration) : Duration :=
  (Duration.ofNanos? (last.nanos - first.nanos)).getD Duration.zero

/-- Tries to listen on the address of some settings. -/
def tryListen (s : HealthSettings) : IO (Option TCP.Socket.Server × BindOutcome) := do
  try
    let found ← (DNS.getAddrInfo s.bindHost (toString s.bindPort)).block
    match found.toList with
    | [] => pure (none, .refused "no addresses to send data to")
    | host :: _ =>
      let address : SocketAddress := match host with
        | .v4 host => .v4 ⟨host, s.bindPort⟩
        | .v6 host => .v6 ⟨host, s.bindPort⟩
      let server ← TCP.Socket.Server.mk
      server.bind address
      server.listen 128
      pure (some server, .bound (toString (← server.getSockName)))
  catch
    | .resourceBusy .. => pure (none, .refused "Address already in use (os error 98)")
    | fault => pure (none, .refused (toString fault))

/-- The answer to the text of a request, over the shared state of the loop. -/
def answerText (clock : IO Duration) (filter : Log.Filter) (watched : List Nat)
    (cell : IO.Ref Loop) (text : String) : IO Endpoint.Response := do
  match Endpoint.Request.ofText? text with
  | none => pure Endpoint.malformed
  | some request =>
    let now ← clock
    let answered ← cell.modifyGet fun l =>
      let answered := Endpoint.answer l.pipeline.monitor now watched request
      (answered, { l with pipeline := { l.pipeline with monitor := answered.monitor } })
    showTexts (filter.texts answered.events)
    pure (request.bodiless answered.response)

/-- Answers the one request of a connection. -/
def converse (respond : String → IO Endpoint.Response) (client : TCP.Socket.Client) : IO Unit := do
  match ← (client.recv? 8192).block with
  | none => pure ()
  | some bytes =>
    let response ← match String.fromUTF8? bytes with
      | some text => respond text
      | none => pure Endpoint.malformed
    (client.send response.text.toUTF8).block
    client.shutdown.block

/-- Answers requests until told to stop. -/
partial def serve (respond : String → IO Endpoint.Response) (server : TCP.Socket.Server)
    (stopped : IO.Ref Bool) : IO Unit := do
  if ← stopped.get then pure ()
  else
    match ← server.tryAccept with
    | some client => discard <| IO.asTask (converse respond client)
    | none => IO.sleep 10
    serve respond server stopped

/-- The signals to watch, with what tells that they have arrived. -/
def watchSignals : IO (List (Log.Signal × AsyncTask Int)) := do
  let terminate ← (← Signal.Waiter.mk .sigterm false).wait
  let interrupt ← (← Signal.Waiter.mk .sigint false).wait
  pure [(.terminate, terminate), (.interrupt, interrupt)]

/-- The first of the signals that has arrived, if any. -/
def arrivedSignal (watched : List (Log.Signal × AsyncTask Int)) : IO (Option Log.Signal) := do
  pure ((← watched.filterM fun (_, task) => IO.hasFinished task).head?.map Prod.fst)

/-- The whole milliseconds that last at least as long as a duration. -/
def pauseFor (d : Duration) : UInt32 :=
  UInt32.ofNat (min ((d.nanos + 999999) / 1000000) 4294967295)

/-- Takes turns until the loop ends, with a pause after each. -/
partial def takeTurns (clock : IO Duration) (filter : Log.Filter) (limit : Nat)
    (started : Duration) (signals : List (Log.Signal × AsyncTask Int)) (cell : IO.Ref Loop) :
    IO (Loop × Ending) := do
  let reading ← clock
  let tick : Tick := ⟨← arrivedSignal signals, timeBetween started reading, ← timeOfDay, reading⟩
  let turn ← cell.modifyGet fun l =>
    let turn := l.turn limit tick
    (turn, turn.loop)
  showTexts (filter.texts turn.events)
  match turn.ending with
  | some ending => pure (turn.loop, ending)
  | none =>
    IO.sleep (pauseFor turn.loop.pipeline.unitInterval)
    takeTurns clock filter limit started signals cell

/-- Goes around the loop with the server beside it. -/
def runLoop (clock : IO Duration) (filter : Log.Filter) (limit : Nat)
    (signals : List (Log.Signal × AsyncTask Int)) (server : Option TCP.Socket.Server)
    (a : Assembly) : IO (Logged Unit) := do
  let cell ← IO.mkRef (Loop.start a.pipeline)
  let stopped ← IO.mkRef false
  let watched := (a.supervisor.server.map (·.watched)).getD []
  let serving ← match server with
    | some server =>
      let respond := answerText clock filter watched cell
      pure [← IO.asTask (serve respond server stopped) .dedicated]
    | none => pure []
  let started ← clock
  let (l, ending) ← takeTurns clock filter limit started signals cell
  stopped.set true
  for task in serving do
    discard <| IO.wait task
  pure (finish a l ending (timeBetween started (← clock)).toWord)

/-- A run with settings. The machine is asked to listen once all probes were added. -/
def runSettings (filter : Log.Filter) (m : Machine) (limit : Nat) (s : Settings) :
    IO (Except Trouble Unit) := do
  let clock ← startClock
  let signals ← watchSignals
  let equipped := equip (← clock) s
  showTexts (filter.texts equipped.events)
  match equipped.result with
  | .error trouble => pure (.error trouble)
  | .ok a =>
    let (server, outcome) ←
      if a.supervisor.triesToListen then tryListen s.healthCheck
      else pure (none, .refused "not asked")
    let started := startCheck { m with listen := fun _ => outcome } a
    showTexts (filter.texts started.events)
    match started.result with
    | .error trouble => pure (.error trouble)
    | .ok assembly =>
      let finished ← runLoop clock filter limit signals server assembly
      showTexts (filter.texts finished.events)
      pure finished.result

/-- A run whose command line asks for one. -/
def runArguments (a : CommandLine.Arguments) : IO UInt32 := do
  let m ← machineFor a
  let (filter, ignored) := Log.Filter.choose (m.variableValue Log.Filter.variableName) a.level
  let complaints := ignored.map Log.Filter.Ignored.text
  let prepared := prepare m a
  showTexts (filter.texts prepared.events)
  let result ← match prepared.result with
    | .error trouble => pure (.error trouble)
    | .ok s => runSettings filter m a.unitLimit s
  match result with
  | .error trouble => leave (trouble.outcome [] complaints)
  | .ok () => leave ⟨0, [], complaints⟩

end FlowWatch.Program

/-- Runs the program over the words of its command line. -/
def main (words : List String) : IO UInt32 :=
  match FlowWatch.CommandLine.read words with
  | .error diversion => FlowWatch.Program.leave (FlowWatch.Daemon.divert diversion)
  | .ok a => FlowWatch.Program.runArguments a
