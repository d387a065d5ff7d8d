import ChatHost.Host.Fleet
import ChatHost.Scripted.Host
import ChatHost.Scripted.Machine

/-!
A scripted outside world for a host whose providers run llamafiles on a scripted machine.
-/

namespace ChatHost.Scripted

/-- A scripted machine with the providers that run on it, and scripted tool endpoints. -/
structure ServerWorld where
  machine : MachineWorld := {}
  tools : ToolWorld := {}
  fleet : Fleet := {}
  /-- The URLs that have been checked. -/
  checked : List Url.Parts := []

namespace ServerWorld

def place : Fleet.Place ServerWorld where
  get := fleet
  set f w := { w with fleet := f }

def onMachine : Machine ServerWorld :=
  MachineWorld.onWeb.zoom machine fun m w => { w with machine := m }

def transport : Tool.Transport ServerWorld :=
  ToolWorld.transport.zoom tools fun t w => { w with tools := t }

def check (s : UrlScript) : UrlCheck ServerWorld := fun parts =>
  .ofWorld fun w => (s.answer parts, { w with checked := w.checked ++ [parts] })

def surroundings (s : Settings) (today : Date) : Surroundings ServerWorld :=
  place.surroundings onMachine Schema.validator transport (pure today) s

end ServerWorld

end ChatHost.Scripted
