import ChatHost.Host.Reachability
import ChatHost.Schema.Evaluation
import ChatHost.Scripted.Provider
import ChatHost.Scripted.Tools

/-!
A scripted outside world for a host: scripted providers and tool endpoints, and a scripted check of
model URLs.
-/

namespace ChatHost.Scripted

/-- A scripted outside world, and what has happened in it so far. -/
structure HostWorld where
  /-- The scripts of the providers by their numbers. -/
  scripts : OrderedMap Nat ProviderScript := []
  tools : ToolWorld := {}
  /-- The models for which providers have been made. -/
  models : List Model := []
  /-- The URLs that have been checked. -/
  checked : List Url.Parts := []

inductive UrlScript where
  | allow
  | deny
  | fails
  | onlyHost (host : String)

def UrlScript.answer (s : UrlScript) (parts : Url.Parts) : Except Fault Bool :=
  match s with
  | .allow => .ok true
  | .deny => .ok false
  | .fails => .error (.outside .runtime "check failed")
  | .onlyHost host => .ok (parts.hostname = some host.toList)

namespace HostWorld

def scriptOf (w : HostWorld) (number : Nat) : ProviderScript :=
  (OrderedMap.get? w.scripts number).getD {}

def provider (number : Nat) : Provider HostWorld :=
  ProviderScript.provider.zoom (scriptOf · number) fun s w =>
    { w with scripts := OrderedMap.put number s w.scripts }

def transport : Tool.Transport HostWorld :=
  ToolWorld.transport.zoom tools fun t w => { w with tools := t }

def check (s : UrlScript) : UrlCheck HostWorld := fun parts =>
  .ofWorld fun w => (s.answer parts, { w with checked := w.checked ++ [parts] })

def surroundings (policy : Model.Policy) (config : ServerConfig) (today : Date) :
    Surroundings HostWorld where
  policy := policy
  config := config
  today := pure today
  validator := Schema.validator
  transport := transport
  make _ m := .ofWorld fun w => (.ok (), { w with models := w.models ++ [m] })
  provider := provider

end HostWorld

end ChatHost.Scripted
