import Depot.CommandLine
import Depot.Http.Server
import Depot.Startup
import Depot.Store.Memory

namespace Depot.Main

open Store

def readVariables : List String → IO (List (String × String))
  | [] => pure []
  | name :: rest => do
    let others ← readVariables rest
    match ← IO.getEnv name with
    | some value => pure ((name, value) :: others)
    | none => pure others

/-- Answers a request at its time. It tells how long each of its calls takes, if that is any time. -/
def exchange (settings : Operation.Accounts.Settings) (c : Config) (j : Json) (site : Site) :
    Json × Site :=
  let time := j.intAt "at"
  let waits := (j.intsAt "waits").map fun n => (⟨n.toNat, true⟩ : Program.Wait)
  let memory := { site.memory with clock := ⟨time * 1000000⟩ }
  let server : Http.Server := ⟨⟨settings, c.loader, time⟩, c.requestSeconds⟩
  let (r, site) := (server.receive waits (.ofJson j)).run Site.handle { site with memory := memory }
  (match r with
    | .ok d => d.toJson
    | .error e => (Http.Response.ofError e).toJson, site)

partial def serveLines (settings : Operation.Accounts.Settings) (c : Config)
    (input output : IO.FS.Stream) (site : Site) : IO Unit := do
  let line ← input.getLine
  if line.isEmpty then return
  match Json.parse? line with
  | none =>
    output.putStrLn (Http.Response.bare 400).toJson.text
    output.flush
    serveLines settings c input output site
  | some j =>
    let (answer, site) := exchange settings c j site
    output.putStrLn answer.text
    output.flush
    serveLines settings c input output site

def emptySite : Site := ⟨.empty .y2000, []⟩

def fail (why : String) : IO UInt32 := do
  IO.eprintln why
  pure 1

def serve (settings : Operation.Accounts.Settings) (c : Config) : IO UInt32 := do
  match Startup.address c with
  | .error f => fail f.text
  | .ok _ =>
    serveLines settings c (← IO.getStdin) (← IO.getStdout) emptySite
    pure 0

def seed (settings : Operation.Accounts.Settings) (c : Config) : IO UInt32 := do
  match (Startup.seed Site.handle settings c emptySite).1 with
  | .error f => fail f.text
  | .ok u =>
    IO.println (Json.ofOption User.toJson u).text
    pure 0

def runCommand (command : Command) : IO UInt32 := do
  let known ← readVariables Config.names
  match Config.ofEnvironment fun name => (known.find? (·.1 == name)).map (·.2) with
  | .error f => fail f.text
  | .ok c =>
    match c.accounts? with
    | none => fail "TOKEN_TTL_HOURS"
    | some settings =>
      match command with
      | .serve => serve settings c
      | .seed => seed settings c

end Depot.Main

def main (args : List String) : IO UInt32 := do
  match Depot.Command.read args with
  | .ok command => Depot.Main.runCommand (command.getD .serve)
  | .error r =>
    IO.println r.text
    pure r.exitCode
