import ChatHost.Cli.Run
import ChatHost.Scripted.Host
import ChatHost.Scripted.Http
import ChatHost.Scripted.Logs

/-!
A scripted terminal: files, a web, providers and tools that follow scripts, lines that are put in,
and the text that comes out.
-/

namespace ChatHost.Scripted

/-- A scripted terminal, and what has happened at it so far. The text about what goes wrong is on
the console of the logs. -/
structure Terminal where
  logs : LogWorld := {}
  web : Web := {}
  host : HostWorld := {}
  output : String := ""
  /-- Whether a host was asked for. -/
  hosted : Bool := false

namespace Terminal

/-- What a command line finds at the terminal, where some text is put in. -/
def system (homes : Path.Homes) (env : Environment) (today : Date) (input : String) :
    Cli.System Terminal where
  files := LogWorld.outlet.files.zoom logs fun w t => { t with logs := w }
  logs := LogWorld.outlet.zoom logs fun w t => { t with logs := w }
  client := Web.client.zoom web fun w t => { t with web := w }
  print text := do
    Act.modify fun t => { t with output := t.output ++ text }
    return .ok ()
  complain text := do
    Act.modify fun t => { t with logs := { t.logs with console := t.logs.console ++ text } }
    return .ok ()
  input := input
  await := return .ok ()
  environment := env
  homes := homes
  surroundings s := do
    Act.modify fun t => { t with hosted := true }
    return (HostWorld.surroundings s.policy s.serverConfig today).zoom Terminal.host
      fun w t => { t with host := w }

end Terminal

end ChatHost.Scripted
