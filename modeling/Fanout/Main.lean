import Fanout.Service

/-!
The command line of the service. Requests come on the standard input, one on a line, as a method and
a target; its end stops the service. What an event stream carries is printed when the stream ends.
-/

namespace Fanout

def Console.print (console : Console) : IO Unit := do
  let stdout ← IO.getStdout
  let stderr ← IO.getStderr
  for line in console.out do stdout.putStrLn line
  for line in console.err do stderr.putStrLn line
  stdout.flush
  stderr.flush

/-- Shows the notices that were made on the way to a value. -/
def Logged.printed {α : Type} (verbosity : Verbosity) (logged : Logged α) : IO α := do
  (Console.ofNotices verbosity logged.notices).print
  return logged.value

/-- The variables of the environment that are settings, and those that the file `.env` adds. -/
def readVariables : IO Config.Variables := do
  let mut vars := []
  for setting in Config.Setting.all do
    if let some value ← IO.getEnv setting.envName then
      vars := vars ++ [(setting.envName, value)]
  try
    return Config.Dotenv.load vars (← IO.FS.readFile ".env")
  catch _ => return vars

def Http.Response.print (response : Http.Response) : IO Unit := do
  let stdout ← IO.getStdout
  stdout.putStrLn (toString response.status)
  for (name, value) in response.headers do stdout.putStrLn (name ++ ": " ++ value)
  stdout.putStrLn ""
  stdout.write (ByteArray.mk response.body.toArray)
  unless response.body.isEmpty do stdout.putStrLn ""
  stdout.flush

/-- Prints an answer, and gives back the event stream if it is one. -/
def Http.Answer.print : Http.Answer → IO (Option Http.EventStream)
  | .plain response => do
    response.print
    return none
  | .streaming response stream => do
    response.print
    return stream
  | .queueTooLong => do
    (← IO.getStderr).putStrLn "the queue of a client cannot be that long"
    return none

partial def Service.serve (service : Service) (verbosity : Verbosity)
    (streams : List Http.EventStream) : IO (Service × List Http.EventStream) := do
  let line ← (← IO.getStdin).getLine
  if line.isEmpty then return (service, streams)
  match (line.trimAscii.toString.splitOn " ") with
  | [method, target] =>
    match service.handle method target with
    | .error fault => do
      (← IO.getStderr).putStrLn fault.text
      service.serve verbosity streams
    | .ok handled => do
      let (service, answer) ← handled.printed verbosity
      match ← answer.print with
      | some stream => service.serve verbosity (streams ++ [stream])
      | none => service.serve verbosity streams
  | _ => service.serve verbosity streams

/-- Prints what is left of an event stream. -/
def Http.EventStream.print (stream : Http.EventStream) (network : Network)
    (verbosity : Verbosity) : IO Network := do
  let (network, chunk) ← (stream.read network).printed verbosity
  (← IO.getStdout).write (ByteArray.mk chunk.text.toArray)
  return network

end Fanout

open Fanout in
def main (arguments : List String) : IO UInt32 := do
  let program := ((← IO.appPath).fileName).getD "fanout"
  let vars ← readVariables
  let finish (ending : Ending) : IO UInt32 := do
    (ending.console program vars).print
    return ending.code.toUInt32
  match Config.ofArguments arguments vars with
  | .error stop => finish (.unconfigured stop)
  | .ok config =>
    match ← (Service.start config []).printed config.verbosity with
    | .error ending => finish ending
    | .ok service => do
      let (service, streams) ← service.serve config.verbosity []
      let service ← service.stop.printed config.verbosity
      let _ ← streams.foldlM (fun network stream => stream.print network config.verbosity)
        service.network
      finish .shutDown
