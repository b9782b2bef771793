/-!
# Command-line arguments

Options may stand before or after the name of the command. An option takes its value from the same
argument or from the next one, which must not look like an option. An option may be given once before the
name and once after it, and the later one counts. After a double hyphen, everything is an argument of the
command.
-/

namespace DeviceSync

/-- What is to be done. -/
inductive Command
  | init (label : String) (platform : Option String)
  | status
  | shortCode (path : String)
  | replay (identity file : String)
deriving DecidableEq

/-- A command, and where its data are. -/
structure Invocation where
  dataDirectory : Option String := none
  verbose : Bool := false
  command : Command
deriving DecidableEq

/-- What arguments ask for. -/
inductive Intent
  | invoke (i : Invocation)
  | version
  | help
  /-- The arguments make no sense. -/
  | misuse
deriving DecidableEq

namespace Arguments

/-! ## Options and names -/

/-- The options. -/
inductive Flag
  | dataDirectory
  | verbose
  | label
  | platform
  | identity
  | version
  | help
deriving DecidableEq

namespace Flag

def takesValue : Flag → Bool
  | dataDirectory | label | platform | identity => true
  | verbose | version | help => false

/-- Whether a value is one of the option: a directory has a name. -/
def accepts (f : Flag) (value : String) : Bool := f != dataDirectory || value != ""

def ofLong? : String → Option Flag
  | "data-dir" => some dataDirectory
  | "verbose" => some verbose
  | "label" => some label
  | "platform" => some platform
  | "identity" => some identity
  | "version" => some version
  | "help" => some help
  | _ => none

def ofShort? : Char → Option Flag
  | 'v' => some verbose
  | 'l' => some label
  | 'i' => some identity
  | 'V' => some version
  | 'h' => some help
  | _ => none

end Flag

/-- The names of the commands. -/
inductive Name
  | init
  | status
  | shortCode
  | replay
  | help
deriving DecidableEq

namespace Name

def ofText? : String → Option Name
  | "init" => some init
  | "status" => some status
  | "short-code" => some shortCode
  | "replay" => some replay
  | "help" => some help
  | _ => none

/-- The number of arguments that a command takes, its options apart. -/
def arity : Name → Nat
  | shortCode | replay | help => 1
  | init | status => 0

/-- Whether an argument is one of the command: a file has a name. -/
def accepts : Name → String → Bool
  | replay, s => s != ""
  | help, s => (ofText? s).isSome
  | _, _ => true

end Name

/-- Whether an option may be given before the name of the command, or after a name. -/
def allows : Option Name → Flag → Bool
  | _, .dataDirectory | _, .verbose | _, .help => true
  | name, .version => name.isNone
  | name, .label | name, .platform => name = some .init
  | name, .identity => name = some .replay

/-! ## Reading -/

/-- What was read so far. -/
structure Reading where
  /-- The options before the name of the command, with their values. -/
  before : List (Flag × String) := []
  name : Option Name := none
  /-- The options after the name. -/
  after : List (Flag × String) := []
  operands : List String := []
  /-- The option whose value comes next. -/
  pending : Option Flag := none
  /-- Whether everything that follows is an argument: after a double hyphen, and for help. -/
  plain : Bool := false

/-- The result of reading an argument: to go on, or to stop. -/
abbrev Progress := Except Intent Reading

/-- An option is given, with its value if it takes one. -/
def give (r : Reading) (f : Flag) (value : String) : Progress :=
  let given := if r.name.isSome then r.after else r.before
  let r := { r with pending := none }
  if f = .version then .error .version
  else if f = .help then .error .help
  else if given.any (·.1 == f) || !f.accepts value then .error .misuse
  else if r.name.isSome then .ok { r with after := (f, value) :: r.after }
  else .ok { r with before := (f, value) :: r.before }

/-- An argument that is no option: the name of the command, or an argument of it. -/
def operand (r : Reading) (s : String) : Progress :=
  match r.name with
  | some n =>
    if r.operands.length < n.arity && n.accepts s then .ok { r with operands := r.operands ++ [s] }
    else .error .misuse
  | none =>
    match Name.ofText? s with
    | some n =>
      if r.plain then .error .misuse
      else .ok { r with name := some n, plain := n = .help }
    | none => .error .misuse

/-- A long option, after its hyphens. -/
def long (r : Reading) (cs : List Char) : Progress :=
  match Flag.ofLong? (String.ofList (cs.takeWhile (· != '='))) with
  | none => .error .misuse
  | some f =>
    if !allows r.name f then .error .misuse
    else
      match f.takesValue, cs.dropWhile (· != '=') with
      | true, [] => .ok { r with pending := some f }
      | true, _ :: value => give r f (String.ofList value)
      | false, [] => give r f ""
      | false, _ :: _ => .error .misuse

/-- Short options that stand together, after their hyphen. What follows one that takes a value is the
value. -/
def shorts (r : Reading) : List Char → Progress
  | [] => .ok r
  | c :: cs =>
    match Flag.ofShort? c with
    | none => .error .misuse
    | some f =>
      if !allows r.name f then .error .misuse
      else if f.takesValue then
        match cs with
        | [] => .ok { r with pending := some f }
        | '=' :: value => give r f (String.ofList value)
        | value => give r f (String.ofList value)
      else
        match give r f "" with
        | .error i => .error i
        | .ok r => shorts r cs

/-- Reads an argument. -/
def read (r : Reading) (arg : String) : Progress :=
  if r.plain then operand r arg
  else
    match arg.toList, r.pending with
    | '-' :: _ :: _, some _ => .error .misuse
    | ['-', '-'], none => .ok { r with plain := true }
    | '-' :: '-' :: cs, none => long r cs
    | '-' :: c :: cs, none => shorts r (c :: cs)
    | _, some f => give r f arg
    | _, none => operand r arg

/-- The value of an option, the one after the name of the command first. -/
def Reading.value? (r : Reading) (f : Flag) : Option String := r.after.lookup f <|> r.before.lookup f

/-- The command that was read, if everything that it needs is there. -/
def Reading.command? (r : Reading) : Option Command :=
  match r.name, r.operands with
  | some .init, _ => do return .init (← r.value? .label) (r.value? .platform)
  | some .status, _ => some .status
  | some .shortCode, [path] => some (.shortCode path)
  | some .replay, [file] => do return .replay (← r.value? .identity) file
  | _, _ => none

/-- What the arguments ask for, after the last one. -/
def Reading.intent (r : Reading) : Intent :=
  if r.pending.isSome then .misuse
  else if r.name = some .help then .help
  else
    match r.command? with
    | none => .misuse
    | some command =>
      .invoke {
        dataDirectory := r.value? .dataDirectory
        verbose := (r.value? .verbose).isSome
        command }

end Arguments

def Intent.ofArguments (args : List String) : Intent :=
  match args.foldlM Arguments.read {} with
  | .ok r => r.intent
  | .error i => i

end DeviceSync
