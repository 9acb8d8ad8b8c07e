import CallAudit.Config.Search
import CallAudit.MethodName
import CallAudit.Pattern.Reader

/-!
# The command line

Two commands on a configuration: `validate` checks it, and `match` shows the rule that governs a
method. Options may stand before the command or after it; what follows `--` is no option.

* `CommandLine.parse`: what the arguments ask for.
* `CommandLine.run`: the exit code and what is printed.
-/
namespace CallAudit.CommandLine

/-- What to do with a configuration. -/
inductive Command where
  | validate
  | governing (method : String)
  deriving DecidableEq, Repr

/-- What the arguments ask for. -/
inductive Request where
  | perform (config? : Option String) (command : Command)
  | version
  | help
  /-- arguments that ask for nothing -/
  | misuse
  deriving DecidableEq, Repr

/-! ## Arguments -/

/-- Where in the arguments an option stands. -/
inductive Position where
  | beforeCommand
  | afterCommand
  deriving DecidableEq

/-- What an argument that starts with a dash comes to. -/
inductive OptionRead where
  /-- the path of the configuration if one is set so far, and the arguments after the option -/
  | taken (config? : Option String) (rest : List String)
  | stop (r : Request)

/-- Sets the path of the configuration, once and not empty. -/
def setConfig (config? : Option String) (path : String) (rest : List String) : OptionRead :=
  if path = "" ∨ config?.isSome then .stop .misuse else .taken (some path) rest

/-- Is the argument an option? A lone dash is none. -/
def isOption (arg : String) : Bool :=
  match arg.toList with
  | '-' :: _ :: _ => true
  | _ => false

/-- Takes the next argument as the path of the configuration. -/
def takeConfig (config? : Option String) : List String → OptionRead
  | [] => .stop .misuse
  | arg :: rest => if isOption arg then .stop .misuse else setConfig config? arg rest

/-- An option of two dashes: its name, and the value after `=` if there is one. -/
def readLong (p : Position) (config? : Option String) (name : String) (value? : Option String)
    (rest : List String) : OptionRead :=
  match name, value? with
  | "config", some path => setConfig config? path rest
  | "config", none => takeConfig config? rest
  | "help", none => .stop .help
  | "version", none => .stop (if p = .beforeCommand then .version else .misuse)
  | "verbose", none => if p = .beforeCommand then .taken config? rest else .stop .misuse
  | _, _ => .stop .misuse

/-- The letters of an option of one dash. -/
def readShort (p : Position) (config? : Option String) (rest : List String) : List Char → OptionRead
  | [] => .taken config? rest
  | 'c' :: [] => takeConfig config? rest
  | 'c' :: '=' :: path => setConfig config? (String.ofList path) rest
  | 'c' :: path => setConfig config? (String.ofList path) rest
  | 'h' :: _ => .stop .help
  | 'V' :: _ => .stop (if p = .beforeCommand then .version else .misuse)
  | 'v' :: letters => if p = .beforeCommand then readShort p config? rest letters else .stop .misuse
  | _ => .stop .misuse

/-- An argument that is an option. -/
def readOption (p : Position) (config? : Option String) (arg : String) (rest : List String) : OptionRead :=
  match arg.toList with
  | '-' :: '-' :: long =>
    let name := String.ofList (long.takeWhile (· != '='))
    match long.dropWhile (· != '=') with
    | _ :: value => readLong p config? name (some (String.ofList value)) rest
    | [] => readLong p config? name none rest
  | _ :: short => readShort p config? rest short
  | [] => .stop .misuse

/-- The commands, and how many operands each has. -/
def operandsOf? : String → Option Nat
  | "validate" => some 0
  | "match" => some 1
  | _ => none

/-- The request of a command with its operands. -/
def perform (config? : Option String) (command : String) (operands : List String) : Request :=
  match command, operands with
  | "validate", [] => .perform config? .validate
  | "match", [method] => .perform config? (.governing method)
  | _, _ => .misuse

/-- The arguments after a command. A path that is set here counts before one set earlier. -/
def parseOperands (command : String) (outer? : Option String) : (fuel : Nat) → (inner? : Option String) →
    (onlyOperands : Bool) → (operands : List String) → List String → Request
  | 0, _, _, _, _ => .misuse
  | _, inner?, _, operands, [] => perform (inner?.orElse (fun _ => outer?)) command operands
  | fuel + 1, inner?, onlyOperands, operands, arg :: rest =>
    if !onlyOperands && arg == "--" then parseOperands command outer? fuel inner? true operands rest
    else if !onlyOperands && isOption arg then
      match readOption .afterCommand inner? arg rest with
      | .stop r => r
      | .taken inner? rest => parseOperands command outer? fuel inner? false operands rest
    else if (operandsOf? command).any (operands.length < ·) then
      parseOperands command outer? fuel inner? onlyOperands (operands ++ [arg]) rest
    else .misuse

/-- The arguments after `help`. -/
def parseHelp : List String → Request
  | [] => .help
  | [command] => if (operandsOf? command).isSome || command == "help" then .help else .misuse
  | _ => .misuse

/-- The arguments before the command. -/
def parseOptions : (fuel : Nat) → (config? : Option String) → List String → Request
  | 0, _, _ => .misuse
  | _, _, [] => .misuse
  | fuel + 1, config?, arg :: rest =>
    if arg == "help" then parseHelp rest
    else if (operandsOf? arg).isSome then parseOperands arg config? (rest.length + 1) none false [] rest
    else if arg == "--" then .misuse
    else if isOption arg then
      match readOption .beforeCommand config? arg rest with
      | .stop r => r
      | .taken config? rest => parseOptions fuel config? rest
    else .misuse

/-- What the arguments ask for. -/
def parse (args : List String) : Request := parseOptions (args.length + 1) none args

/-! ## Commands -/

/-- The rule that governs a method, in words. -/
def governingText (c : AuditConfig) (rawMethod : String) : String :=
  let method := MethodName.parse rawMethod
  let rule := mostRelevant method.full c.rules
  if rule.isUnset then method.full ++ ": not audited (no matching rule)\n"
  else method.full ++ ": selector '" ++ rule.selector ++ "', directive " ++ rule.directive.name ++
    ", log type " ++ rule.logType.name ++ "\n"

/-- What a command prints about a configuration. -/
def Command.answer (c : AuditConfig) : Command → String
  | validate => "OK: " ++ toString c.rules.length ++ " rule(s), log mode " ++ c.logMode.name ++ "\n"
  | governing method => governingText c method

/-- How the program ends. -/
structure Exit where
  code : Nat
  stdout : String
  /-- the error of a command that fails -/
  error? : Option ConfigError := none

/-- Name and version of the program. -/
def versionText : String := "audit-logging 0.1.0\n"

/-- Where a request looks for its configuration. -/
def searchOf (config? : Option String) (lookup : String → Option String) : ConfigSearch :=
  match config? with
  | some path => .ofPath path
  | none => .standard lookup

/-- Does what is asked for. -/
def Request.run [PatternEngine] (r : Request) (lookup : String → Option String) (fs : FileSystem) : Exit :=
  match r with
  | .version => ⟨0, versionText, none⟩
  | .help => ⟨0, "", none⟩
  | .misuse => ⟨2, "", none⟩
  | .perform config? command =>
    match (searchOf config? lookup).load fs with
    | .ok c => ⟨0, command.answer c, none⟩
    | .error e => ⟨1, "", some e⟩

/-- Runs the program on its arguments. -/
def run [PatternEngine] (args : List String) (lookup : String → Option String) (fs : FileSystem) : Exit :=
  (parse args).run lookup fs

/-- The line on the error output. -/
def Exit.errorText (x : Exit) : String :=
  match x.error? with
  | some e => "error: " ++ e.message ++ "\n"
  | none => ""

end CallAudit.CommandLine
