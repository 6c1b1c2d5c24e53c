import DramScheduler.Traffic.Generator

/-!
# Arguments of the command line

The program is called with the name of a task and its options. An option may be given once,
with its value in the next argument, after an equals sign, or, for the short form, directly
behind the letter. A value in an argument of its own may not look like an option. An argument
`--` ends the options.

`Invocation.parse?` reads the arguments in order and stops at a request for help or for the
version. It fails on everything that is no proper use of the program, without saying why.
-/

namespace DramScheduler.CommandLine

/-! ### Numbers -/

/-- A sequence of decimal digits as a number. -/
def digits? (cs : List Char) : Option Nat :=
  if !cs.isEmpty && cs.all Char.isDigit then
    some (cs.foldl (fun n c => 10 * n + (c.toNat - '0'.toNat)) 0)
  else none

/-- A number without sign, or with a plus sign, that is not above `top`. -/
def natural? (top : Nat) (value : String) : Option Nat :=
  let digits := match value.toList with
    | '+' :: rest => rest
    | cs => cs
  (digits? digits).filter (· ≤ top)

/-- A number of per cent. Zero may carry either sign. -/
def percent? (value : String) : Option Nat :=
  match value.toList with
  | '-' :: rest => (digits? rest).filter (· = 0)
  | _ => natural? 100 value

/-- The largest number of 64 bits. -/
def top64 : Nat := 1 <<< 64 - 1

/-! ### Options of a run -/

/-- The options of a run that take a value. -/
inductive RunOption where
  | config | pattern | ports | cycles | writes | seed | stats
  deriving DecidableEq, Repr, Inhabited

/-- An option with a value, by its long name. -/
def RunOption.ofName? : String → Option RunOption
  | "config" => some .config
  | "pattern" => some .pattern
  | "ports" => some .ports
  | "cycles" => some .cycles
  | "writes" => some .writes
  | "seed" => some .seed
  | "stats" => some .stats
  | _ => none

/-- An option with a value, by its letter. -/
def RunOption.ofLetter? : Char → Option RunOption
  | 'c' => some .config
  | 'p' => some .pattern
  | _ => none

/-- The options given to a run. Those that are not given have no value yet, so that a second one can
be told. -/
structure RunOptions where
  /-- Path of the configuration document. -/
  config : Option String := none
  /-- Pattern of the traffic. -/
  pattern : Option TrafficPattern := none
  /-- Number of ports of native width, in place of the configured ones. -/
  ports : Option Nat := none
  /-- Cycles to run for. -/
  cycles : Option Nat := none
  /-- Share of writes in per cent. -/
  writes : Option Nat := none
  /-- Seed of the traffic. -/
  seed : Option Nat := none
  /-- Names of the sections of the report; all of them if there is none. -/
  sections : List String := []
  /-- Whether the report is a JSON object. -/
  json : Bool := false
  deriving DecidableEq, Repr, Inhabited

namespace RunOptions

/-- A value for an option that has none yet. -/
def once (present : Option α) (value : Option α) : Option (Option α) :=
  match present with
  | some _ => none
  | none => value.map some

/-- The options with one more value, unless the option was given before or the value is none for it.
Names of sections add up. -/
def set? (o : RunOptions) (option : RunOption) (value : String) : Option RunOptions :=
  match option with
  | .config => (once o.config (some value)).map fun v => { o with config := v }
  | .pattern =>
    let pattern := TrafficPattern.all.find? fun p => p.name == value
    (once o.pattern pattern).map fun v => { o with pattern := v }
  | .ports => (once o.ports (natural? top64 value)).map fun v => { o with ports := v }
  | .cycles => (once o.cycles (natural? top64 value)).map fun v => { o with cycles := v }
  | .writes => (once o.writes (percent? value)).map fun v => { o with writes := v }
  | .seed => (once o.seed (natural? top64 value)).map fun v => { o with seed := v }
  | .stats => some { o with sections := o.sections ++ value.splitOn "," }

/-- The options with the report as a JSON object, unless that was asked for before. -/
def setJson? (o : RunOptions) : Option RunOptions :=
  if o.json then none else some { o with json := true }

end RunOptions

/-! ### Single arguments -/

/-- What an argument of a run stands for. -/
inductive RunArgument where
  /-- An option with a value, which may be attached. -/
  | valued (option : RunOption) (attached : Option String)
  /-- The report is to be a JSON object. -/
  | json
  /-- The usage is to be shown. -/
  | help
  deriving DecidableEq, Repr, Inhabited

/-- A long argument without its dashes: its name, and its value if there is an equals sign. -/
def splitLong (cs : List Char) : String × Option String :=
  let name := cs.takeWhile (· != '=')
  (String.ofList name, match cs.drop name.length with
    | [] => none
    | _ :: value => some (String.ofList value))

/-- The value attached to a short option. -/
def attachedValue : List Char → Option String
  | [] => none
  | '=' :: value => some (String.ofList value)
  | value => some (String.ofList value)

/-- What an argument of a run stands for, if it is an option. -/
def RunArgument.parse? (argument : String) : Option RunArgument :=
  match argument.toList with
  | '-' :: '-' :: long =>
    match splitLong long with
    | ("json", none) => some .json
    | ("help", none) => some .help
    | (name, attached) => (RunOption.ofName? name).map fun option => .valued option attached
  | '-' :: 'h' :: _ => some .help
  | '-' :: letter :: value =>
    (RunOption.ofLetter? letter).map fun option => .valued option (attachedValue value)
  | _ => none

/-- Whether an argument looks like an option; a single dash does not. -/
def looksLikeOption (argument : String) : Bool :=
  match argument.toList with
  | '-' :: _ :: _ => true
  | _ => false

/-! ### Whole invocations -/

/-- What the program is asked to do. -/
inductive Invocation where
  /-- Show the version. -/
  | version
  /-- Show the usage. -/
  | help
  /-- Run traffic and report the statistics. -/
  | run (options : RunOptions)
  /-- Check a configuration document and report the derived parameters. -/
  | check (path : String)
  deriving DecidableEq, Repr, Inhabited

/-- Reads the arguments of a run, given the options found so far. -/
def parseRun? (o : RunOptions) : List String → Option Invocation
  | [] => some (.run o)
  | "--" :: rest => if rest.isEmpty then some (.run o) else none
  | argument :: rest =>
    match RunArgument.parse? argument, rest with
    | some .help, _ => some .help
    | some .json, rest => o.setJson?.bind fun o => parseRun? o rest
    | some (.valued option (some value)), rest =>
      (o.set? option value).bind fun o => parseRun? o rest
    | some (.valued option none), value :: rest =>
      if looksLikeOption value then none
      else (o.set? option value).bind fun o => parseRun? o rest
    | _, _ => none

/-- Reads the arguments of a check, given the path if it was found. -/
def parseCheck? (path : Option String) : List String → Option Invocation
  | [] => path.map .check
  | "--" :: rest =>
    match path.toList ++ rest with
    | [path] => some (.check path)
    | _ => none
  | argument :: rest =>
    if looksLikeOption argument then
      if argument == "--help" || argument.startsWith "-h" then some .help else none
    else if path.isSome then none
    else parseCheck? (some argument) rest

/-- What the arguments ask for, if they are a proper use of the program. -/
def Invocation.parse? : List String → Option Invocation
  | "run" :: rest => parseRun? {} rest
  | "check" :: rest => parseCheck? none rest
  | ["help"] | ["help", "run"] | ["help", "check"] | ["help", "help"] => some .help
  | argument :: _ =>
    if argument == "--version" || argument.startsWith "-V" then some .version
    else if argument == "--help" || argument.startsWith "-h" then some .help
    else none
  | [] => none

/-- The document an invocation has to read. -/
def Invocation.document? : Invocation → Option String
  | run options => options.config
  | check path => some path
  | _ => none

end DramScheduler.CommandLine
