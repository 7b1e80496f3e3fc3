import TierCascade.Options.File
import TierCascade.Options.Reader
/-!
# Options of the agent

The agent is told what to do by a file of options, if there is one, and by the variables of its
environment, which are laid over the file. A variable speaks of an option if its name starts with
`CASCADE__`; two underscores in the rest of the name lead to an option within an option.

Everything that may go wrong does so before the agent does anything: what is there cannot be read,
or it makes no sense, or the cascade cannot be set up so.
-/

namespace TierCascade

inductive OptionFault where
  | unreadable
  | senseless
  | unusable (fault : SettingsFault)
  deriving Repr, DecidableEq

namespace OptionFault

def message : OptionFault → String
  | unreadable => "Failed to read agent configuration"
  | senseless => "Invalid agent configuration"
  | unusable _ => "Invalid pipeline configuration"

def cause : OptionFault → Option Failure
  | unusable fault => some (.settings fault)
  | unreadable | senseless => none

end OptionFault

/-- What the agent is told. Without a file of samples it reads its standard input. -/
structure AgentOptions where
  name : String
  port : Nat
  input : Option String
  output : String
  settings : Settings
  deriving Repr, DecidableEq

namespace AgentOptions

/-- The variables of an environment, by their names. -/
abbrev Environment := List (String × String)

/-- The variable that names the file of options. -/
def fileVariable : String := "CASCADE_CONFIG"

/-- The start of the names of variables that speak of options, in small letters. -/
def variableStart : List Char := "cascade__".toList

def optionPath : List Char → List Char
  | [] => []
  | '_' :: '_' :: rest => '.' :: optionPath rest
  | c :: rest => c :: optionPath rest

/-- The option that a variable speaks of. Large letters in its name count as small ones. -/
def ofVariable? (setting : String × String) : Option (String × Tree) :=
  let name := setting.1.toList.map smallLetter
  if variableStart.isPrefixOf name then
    some (String.ofList (optionPath (name.drop variableStart.length)), .ofWord setting.2)
  else none

/-- The options of an environment, in the order of the names of their variables. -/
def ofEnvironment (environment : Environment) : List (String × Tree) :=
  (environment.mergeSort fun a b => a.1 ≤ b.1).filterMap ofVariable?

/-- Reads the options of an agent. Its name is that of its host, if it has none of its own. -/
def reader (host : Option String) : Reader AgentOptions := fun t => do
  return {
    name := ← Reader.field t 0 "instance_name" Reader.text (host.getD "cascade-agent")
    port := ← Reader.field t 1 "api_port" (Reader.narrow 16) 8080
    input := ← Reader.field t 2 "input_path" (Reader.option Reader.text) none
    output := ← Reader.field t 3 "output_path" Reader.text "aggregates.jsonl"
    settings := ← Reader.field t 4 "pipeline" Reader.settings Settings.standard }

def ofTree (host : Option String) (t : Tree) : Except OptionFault AgentOptions :=
  match reader host t with
  | none => .error .senseless
  | some options =>
    match options.settings.check with
    | .ok () => .ok options
    | .error fault => .error (.unusable fault)

/-- Loads options from a file, given by its path and what it holds, and from an environment. -/
def loadFrom (file : Option (String × Option String)) (environment : Environment) :
    Except OptionFault AgentOptions :=
  let base? : Option Tree :=
    match file with
    | none => some (.table [])
    | some (path, content) => (Tree.ofFile? path content).map fun t => .layNamed (.table []) t.entries
  match base? with
  | none => .error .unreadable
  | some base => ofTree (environment.lookup "HOSTNAME") (base.layNamed (ofEnvironment environment))

/-- Loads options from the file that the environment names, if it names one, and from the
environment; `content` tells what the files hold that are there. -/
def load (content : String → Option String) (environment : Environment) :
    Except OptionFault AgentOptions :=
  loadFrom ((environment.lookup fileVariable).map fun path => (path, content path)) environment

end AgentOptions

end TierCascade
