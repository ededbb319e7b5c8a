import Syslog.Message.Render
import Syslog.Names
import Syslog.Text.Decimal
import Syslog.Transport.Settings

/-!
# Arguments of the command line

    [-c FILE] [-l LEVEL] serve
    [-c FILE] [-l LEVEL] send [OPTIONS] WORD...

An option has a name of two hyphens, and may have a letter of one. Its value follows as the next
argument, after an equals sign, or directly after the letter. The options in front of the command
hold for every command and may also stand after it. Nothing after `--` is an option. No option may
be given twice. Who asks for help gets it, whatever stands behind, but nothing in front may be wrong.
-/

namespace Syslog.CommandLine

/-- An option with a value. -/
structure OptionName where
  name : String
  letter : Option Char := none
  deriving DecidableEq, Repr, Inhabited

/-- The options of every command. -/
def sharedOptions : List OptionName := [⟨"config", some 'c'⟩, ⟨"log-level", some 'l'⟩]

/-- The options of sending. -/
def sendOptions : List OptionName :=
  [⟨"target", some 't'⟩, ⟨"protocol", none⟩, ⟨"path", none⟩, ⟨"socket-type", none⟩,
    ⟨"severity", some 's'⟩, ⟨"format", none⟩, ⟨"host", none⟩, ⟨"port", some 'p'⟩,
    ⟨"facility", some 'f'⟩, ⟨"ident", some 'i'⟩]

/-! ## 1. Telling options from words -/

/-- What stands on a command line. -/
inductive Item where
  | option (name value : String)
  | word (text : String)
  /-- The user asks for help, or for the version. -/
  | help
  | version
  deriving DecidableEq, Repr, Inhabited

/-- A value that stands alone must not look like an option. -/
def looksLikeOption (s : String) : Bool := s.startsWith "-" && s != "-"

/-- The option that an argument names, and the value that is part of the argument. -/
def option? (known : List OptionName) (s : String) : Option (OptionName × Option String) :=
  match s.toList with
  | '-' :: '-' :: rest =>
    let name := String.ofList (rest.takeWhile (· != '='))
    let value := (rest.dropWhile (· != '=')).drop 1
    (known.find? (·.name == name)).map fun o =>
      (o, if rest.contains '=' then some (String.ofList value) else none)
  | '-' :: letter :: rest =>
    (known.find? (·.letter == some letter)).map fun o =>
      match rest with
      | [] => (o, none)
      | '=' :: value => (o, some (String.ofList value))
      | value => (o, some (String.ofList value))
  | _ => none

/-- What the user asks for. Letters behind the one that asks do not count. -/
def asked? (s : String) : Option Item :=
  if s == "--help" || s.startsWith "-h" then some .help
  else if s == "--version" || s.startsWith "-V" then some .version
  else none

/-- The items of a command line, up to the first word if `stop`. -/
def items (known : List OptionName) (stop : Bool) :
    List String → Except String (List Item × List String)
  | [] => .ok ([], [])
  | "--" :: rest => .ok (rest.map .word, [])
  | [arg] =>
    if looksLikeOption arg then
      match asked? arg, option? known arg with
      | some item, _ => .ok ([item], [])
      | none, some (o, some value) => .ok ([.option o.name value], [])
      | none, some (o, none) => .error ("a value is required for '--" ++ o.name ++ "'")
      | none, none => .error ("unexpected argument '" ++ arg ++ "' found")
    else .ok ([.word arg], [])
  | arg :: next :: rest =>
    if looksLikeOption arg then
      match asked? arg, option? known arg with
      | some item, _ => .ok ([item], [])
      | none, some (o, some value) => do
        let (more, left) ← items known stop (next :: rest)
        return (.option o.name value :: more, left)
      | none, some (o, none) =>
        if looksLikeOption next then .error ("a value is required for '--" ++ o.name ++ "'")
        else do
          let (more, left) ← items known stop rest
          return (.option o.name next :: more, left)
      | none, none => .error ("unexpected argument '" ++ arg ++ "' found")
    else if stop then .ok ([.word arg], next :: rest)
    else do
      let (more, left) ← items known stop (next :: rest)
      return (.word arg :: more, left)

/-- The options among the items. -/
def options (l : List Item) : List (String × String) :=
  l.filterMap fun | .option name value => some (name, value) | _ => none

/-- The words among the items. -/
def words (l : List Item) : List String :=
  l.filterMap fun | .word text => some text | _ => none

/-- No option is given twice. -/
def checkOnce : List (String × String) → Except String Unit
  | [] => .ok ()
  | (name, _) :: rest =>
    if (rest.lookup name).isSome then
      .error ("the argument '--" ++ name ++ "' cannot be used multiple times")
    else checkOnce rest

/-! ## 2. What the program is asked to do -/

/-- What is sent, and how. -/
structure SendArguments where
  target : Option String := none
  protocol : TransportKind := .udp
  path : Option String := none
  socketType : SocketType := .datagram
  severity : Severity := .info
  format : Option MessageFormat := none
  host : Option String := none
  port : Option Nat := none
  facility : Option Facility := none
  ident : Option String := none
  words : List String
  deriving DecidableEq, Inhabited

/-- A command. -/
inductive Command where
  | serve
  | send (arguments : SendArguments)
  deriving DecidableEq, Inhabited

/-- What the program is asked to do. -/
inductive Request where
  | run (config logLevel : Option String) (command : Command)
  | help
  | version
  deriving DecidableEq, Inhabited

/-- The value of an option, if it is given. -/
def value? {α : Type} (given : List (String × String)) (name : String)
    (read : String → Option α) : Except String (Option α) :=
  match given.lookup name with
  | none => .ok none
  | some text =>
    match read text with
    | some a => .ok (some a)
    | none => .error ("invalid value '" ++ text ++ "' for '--" ++ name ++ "'")

/-- Reads a port. -/
def port? (s : String) : Option Nat := Text.Decimal.read? 65535 s.toList

/-- The arguments of sending. -/
def sendArguments (given : List (String × String)) (words : List String) :
    Except String SendArguments := do
  let format ← value? given "format" fun
    | "bsd" => some MessageFormat.bsd
    | "rfc5424" => some .rfc5424
    | _ => none
  let protocol ← value? given "protocol" (TransportKind.named.lookup ·)
  let socketType ← value? given "socket-type" fun s => (SocketType.read s).toOption
  let severity ← value? given "severity" Severity.ofText?
  let port ← value? given "port" port?
  let facility ← value? given "facility" Facility.ofText?
  if words.isEmpty then .error "the following required arguments were not provided: <MESSAGE>..."
  return {
    target := given.lookup "target"
    protocol := protocol.getD .udp
    path := given.lookup "path"
    socketType := socketType.getD .datagram
    severity := severity.getD .info
    format
    host := given.lookup "host"
    port
    facility
    ident := given.lookup "ident"
    words }

/-- Reads a command line. -/
def read (args : List String) : Except String Request := do
  let (front, rest) ← items sharedOptions true args
  checkOnce (options front)
  if front.contains .help then return .help
  if front.contains .version then return .version
  let finish (known : List OptionName) (takesWords : Bool)
      (command : List (String × String) → List String → Except String Command) :
      Except String Request := do
    let (back, _) ← items (sharedOptions ++ known) false rest
    checkOnce (options back)
    if !takesWords then
      if let word :: _ := words back then .error ("unexpected argument '" ++ word ++ "' found")
    if back.contains .help then return .help
    if back.contains .version then .error "unexpected argument '--version' found"
    let given := options back ++ options front
    return .run (given.lookup "config") (given.lookup "log-level")
      (← command given (words back))
  match words front with
  | ["serve"] => finish [] false fun _ _ => .ok .serve
  | ["send"] => finish sendOptions true fun given words =>
    return .send (← sendArguments given words)
  | ["help"] => return .help
  | [] => .error "'syslane' requires a subcommand but one was not provided"
  | word :: _ => .error ("unrecognized subcommand '" ++ word ++ "'")

end Syslog.CommandLine
