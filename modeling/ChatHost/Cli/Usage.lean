import ChatHost.Text.Cut

/-!
The texts of the command line: how each command is used, laid out for a terminal of eighty columns.
-/

namespace ChatHost.Cli

/-- The parts of the command line that have a usage of their own. -/
inductive Form where
  | program
  | chat
  | download
  | catalog
  | settings
  deriving DecidableEq, Repr

namespace Form

def name : Form → String
  | .program => "blessnet-llm"
  | .chat => "blessnet-llm chat"
  | .download => "blessnet-llm download"
  | .catalog => "blessnet-llm catalog"
  | .settings => "blessnet-llm settings"

def lines (ls : List String) : String :=
  String.join (ls.map fun l => l ++ "\n")

def usage : Form → String
  | .program => lines [
      "usage: blessnet-llm [-h] [--debug] [--settings-path PATH] [--set KEY=VALUE]",
      "                    \x7bchat,download,catalog,settings\x7d ..."]
  | .chat => lines [
      "usage: blessnet-llm chat [-h] [--system TEXT] [--tool-endpoint URL]",
      "                         [--temperature TEMPERATURE] [--top-p TOP_P]",
      "                         [--prompt TEXT]",
      "                         model"]
  | .download => lines ["usage: blessnet-llm download [-h] model"]
  | .catalog => lines ["usage: blessnet-llm catalog [-h]"]
  | .settings => lines ["usage: blessnet-llm settings [-h]"]

def details : Form → String
  | .program => lines [
      "",
      "Run local llamafile models through the blessnet LLM driver.",
      "",
      "positional arguments:",
      "  \x7bchat,download,catalog,settings\x7d",
      "    chat                Chat with a model.",
      "    download            Download a model into the local cache.",
      "    catalog             List the known models.",
      "    settings            Print the effective driver settings.",
      "",
      "options:",
      "  -h, --help            show this help message and exit",
      "  --debug               Enable debug logging.",
      "  --settings-path PATH  Override the default ~/.blessnet/llm_driver.json path.",
      "  --set KEY=VALUE       Override a driver setting for this run (repeatable)."]
  | .chat => lines [
      "",
      "positional arguments:",
      "  model                 Catalog name (optionally with quantization) or model",
      "                        URL.",
      "",
      "options:",
      "  -h, --help            show this help message and exit",
      "  --system TEXT         System message for the session.",
      "  --tool-endpoint URL   MCP SSE endpoint to load tools from (repeatable).",
      "  --temperature TEMPERATURE",
      "  --top-p TOP_P",
      "  --prompt TEXT         Send one prompt and exit instead of reading stdin."]
  | .download => lines [
      "",
      "positional arguments:",
      "  model       Catalog name (optionally with quantization) or model URL.",
      "",
      "options:",
      "  -h, --help  show this help message and exit"]
  | .catalog | .settings => lines [
      "",
      "options:",
      "  -h, --help  show this help message and exit"]

/-- The text that is shown to someone who asks for help with a form. -/
def help (f : Form) : String :=
  f.usage ++ f.details

end Form

end ChatHost.Cli
