/-!
The arguments of the command line. They are read from left to right; a request for the version or
for help is honoured as soon as it is reached, and so is a mistake. Short options may be clustered,
and a value may follow its option directly, after an equals sign, or as the next argument unless
that looks like an option.
-/

namespace RadioLifecycle.Daemon

/-- What the command line asks for. -/
structure Arguments where
  config : Option String := none
  vendor : Option String := none
  interface : Option String := none
  verbose : Bool := false
  json : Bool := false
  deriving DecidableEq, Repr

/-- What a command line comes down to. -/
inductive Invocation where
  | run (arguments : Arguments)
  | version
  | help
  | mistake
  deriving DecidableEq, Repr

/-- Options that take a value. -/
inductive Setting where
  | config
  | vendor
  | interface
  deriving DecidableEq, Repr

/-- Options without a value. -/
inductive Switch where
  | verbose
  | json
  | version
  | help
  deriving DecidableEq, Repr

inductive Flag where
  | setting (s : Setting)
  | switch (s : Switch)
  deriving DecidableEq, Repr

namespace Flag

def ofLong? : String → Option Flag
  | "config" => some (.setting .config)
  | "vendor" => some (.setting .vendor)
  | "interface" => some (.setting .interface)
  | "verbose" => some (.switch .verbose)
  | "json" => some (.switch .json)
  | "version" => some (.switch .version)
  | "help" => some (.switch .help)
  | _ => none

def ofShort? : Char → Option Flag
  | 'c' => some (.setting .config)
  | 'i' => some (.setting .interface)
  | 'v' => some (.switch .verbose)
  | 'V' => some (.switch .version)
  | 'h' => some (.switch .help)
  | _ => none

end Flag

namespace Arguments

/-- Give an option its value. No option may be given twice, and a path may not be empty. -/
def set? (a : Arguments) (s : Setting) (value : String) : Option Arguments :=
  match s with
  | .config => if a.config.isSome || value = "" then none else some { a with config := value }
  | .vendor => if a.vendor.isSome then none else some { a with vendor := value }
  | .interface => if a.interface.isSome then none else some { a with interface := value }

/-- Turn an option on. The outcome is final if the option asks for version or help, or was on. -/
def turnOn (a : Arguments) : Switch → Except Invocation Arguments
  | .verbose => if a.verbose then .error .mistake else .ok { a with verbose := true }
  | .json => if a.json then .error .mistake else .ok { a with json := true }
  | .version => .error .version
  | .help => .error .help

/-- What is left of an argument behind a short option that takes a value. -/
inductive Attached where
  | value (value : String)
  | nothing
  deriving DecidableEq, Repr

/-- The value attached to a short option, an equals sign in front of it left out. -/
def attached : List Char → Attached
  | [] => .nothing
  | '=' :: value => .value (String.ofList value)
  | value => .value (String.ofList value)

/-- Read a cluster of short options. The option whose value has to follow, if there is one, is the
second result. -/
def readCluster (a : Arguments) : List Char → Except Invocation (Arguments × Option Setting)
  | [] => .ok (a, none)
  | c :: rest =>
    match Flag.ofShort? c with
    | none => .error .mistake
    | some (.switch s) =>
      match a.turnOn s with
      | .error i => .error i
      | .ok a => readCluster a rest
    | some (.setting s) =>
      match attached rest with
      | .nothing => .ok (a, some s)
      | .value value =>
        match a.set? s value with
        | some a => .ok (a, none)
        | none => .error .mistake

/-- Read a long option, without its dashes. -/
def readLong (a : Arguments) (text : List Char) : Except Invocation (Arguments × Option Setting) :=
  let name := String.ofList (text.takeWhile (· != '='))
  let value : Option String :=
    match text.dropWhile (· != '=') with
    | _ :: value => some (String.ofList value)
    | [] => none
  match Flag.ofLong? name, value with
  | some (.switch s), none => (a.turnOn s).map fun a => (a, none)
  | some (.setting s), none => .ok (a, some s)
  | some (.setting s), some value =>
    match a.set? s value with
    | some a => .ok (a, none)
    | none => .error .mistake
  | some (.switch _), some _ | none, _ => .error .mistake

/-- Whether an argument looks like an option, so that it cannot be a value. A lone dash does not. -/
def looksLikeOption (argument : String) : Bool :=
  match argument.toList with
  | '-' :: _ :: _ => true
  | _ => false

/-- Read the remaining arguments, the first of which may be the value of an option. -/
def readFrom (a : Arguments) (pending : Option Setting) : List String → Invocation
  | [] => if pending.isSome then .mistake else .run a
  | argument :: rest =>
    match pending with
    | some s =>
      if looksLikeOption argument then .mistake
      else
        match a.set? s argument with
        | some a => readFrom a none rest
        | none => .mistake
    | none =>
      let outcome : Except Invocation (Arguments × Option Setting) :=
        match argument.toList with
        | ['-', '-'] => if rest.isEmpty then .error (.run a) else .error .mistake
        | '-' :: '-' :: text => a.readLong text
        | '-' :: c :: cluster => a.readCluster (c :: cluster)
        | _ => .error .mistake
      match outcome with
      | .ok (a, pending) => readFrom a pending rest
      | .error i => i

end Arguments

def Invocation.ofArguments (arguments : List String) : Invocation :=
  Arguments.readFrom {} none arguments

end RadioLifecycle.Daemon
