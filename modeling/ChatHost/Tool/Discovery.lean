import ChatHost.Tool.Endpoint
import ChatHost.Tool.Transport

/-!
Finding the tools of some endpoints. What fails is skipped; of two tools with one name the later
wins.
-/

namespace ChatHost.Tool

def discoveryLogger : String :=
  "tools.discovery"

def takeOffer {σ : Type} (endpoint : Text.Letters) (tools : Tools) (offer : Json) : Act σ Tools :=
  match Tool.ofOffer endpoint offer with
  | .error f => do
    Act.log .warning discoveryLogger s!"Skipping malformed tool from {endpoint}: {f.message}"
    return tools
  | .ok tool => do
    match OrderedMap.get? tools tool.name with
    | none => pure ()
    | some previous =>
      Act.log .debug discoveryLogger
        s!"Tool {tool.name} from {endpoint} replaces the one from {previous.endpoint}"
    return OrderedMap.put tool.name tool tools

def takeOffers {σ : Type} (endpoint : Text.Letters) : Tools → List Json → Act σ Tools
  | tools, [] => return tools
  | tools, offer :: offers => do
    let tools ← takeOffer endpoint tools offer
    takeOffers endpoint tools offers

/-- Takes the tools of one endpoint into those found so far. -/
def visit {σ : Type} (t : Transport σ) (tools : Tools) (text : Text.Letters) : Act σ Tools :=
  match endpoint? text with
  | none => do
    Act.log .warning discoveryLogger s!"Ignoring invalid tool endpoint {text.quoted}"
    return tools
  | some endpoint => do
    match ← t.withSession endpoint (t.list endpoint) with
    | .error f =>
      Act.log .warning discoveryLogger s!"Skipping tool endpoint {endpoint}: {f.message}"
      return tools
    | .ok offers =>
      let tools ← takeOffers endpoint tools offers
      Act.log .debug discoveryLogger s!"Endpoint {endpoint} exposes {offers.length} tool(s)"
      return tools

/-- Takes the tools of some endpoints into those found so far. -/
def visitAll {σ : Type} (t : Transport σ) : Tools → List Text.Letters → Act σ Tools
  | tools, [] => return tools
  | tools, text :: texts => do
    let tools ← visit t tools text
    visitAll t tools texts

def discoveredRecord (tools : Tools) (endpoints : Nat) : LogRecord :=
  ⟨.info, discoveryLogger, s!"Discovered {tools.length} tool(s) from {endpoints} endpoint(s)"⟩

def discover {σ : Type} (t : Transport σ) (endpoints : List Text.Letters) : Act σ Tools := do
  let tools ← visitAll t [] endpoints
  Act.write [discoveredRecord tools endpoints.length]
  return tools

end ChatHost.Tool
