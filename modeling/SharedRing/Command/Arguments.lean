import SharedRing.Word

/-!
# Command lines

The arguments of a call: options, then a command with its own options and words. A command line is
read from left to right. What asks for help or for the version ends the reading; what cannot be
understood makes the whole line wrong, and so does an option that occurs twice.

An option is a letter after one dash or a word after two. Letters may be run together, and the value
of an option is the rest of its letters, what follows an equals sign, or the next argument, which then
may not look like an option.
-/

namespace SharedRing

/-- What a command line asks for. -/
inductive Command where
  | validate (file : String)
  | inspect
  /-- Pass messages through a configuration's queue; their number may be given. -/
  | bench (messages : Option Nat)
deriving DecidableEq, Repr

inductive Invocation where
  | run (config : String) (command : Command)
  | version
  | help
deriving DecidableEq, Repr

/-- The configuration file of a call that names none. -/
def defaultConfig : String := "shmq.yaml"

namespace Invocation

/-! ## Flags -/

/-- An option by its meaning. -/
inductive Flag where
  | config
  | verbose
  | version
  | help
  | messages
deriving DecidableEq, Repr

def Flag.hasValue : Flag → Bool
  | .config => true
  | .messages => true
  | _ => false

def Flag.letter : Flag → Char
  | .config => 'c'
  | .verbose => 'v'
  | .version => 'V'
  | .help => 'h'
  | .messages => 'm'

def Flag.word : Flag → String
  | .config => "config"
  | .verbose => "verbose"
  | .version => "version"
  | .help => "help"
  | .messages => "messages"

def generalFlags : List Flag := [.config, .verbose, .version, .help]

def benchFlags : List Flag := [.messages, .help]

def plainFlags : List Flag := [.help]

/-! ## Items -/

inductive Item where
  | flag (flag : Flag)
  | value (flag : Flag) (text : String)
  /-- A word that is no option, and the arguments after it. -/
  | word (text : String) (rest : List String)
  /-- Two dashes: all that follows are words. -/
  | separator
  | wrong
deriving DecidableEq, Repr

/-- Whether an argument looks like an option; a single dash does not. -/
def looksLikeOption (argument : String) : Bool :=
  match argument.toList with
  | '-' :: _ :: _ => true
  | _ => false

def letterItems (flags : List Flag) : List Char → List Item × Option Flag
  | [] => ([], none)
  | letter :: rest =>
    match flags.find? (·.letter = letter) with
    | none => ([.wrong], none)
    | some flag =>
      if flag.hasValue then
        match rest with
        | [] => ([], some flag)
        | '=' :: value => ([.value flag (String.ofList value)], none)
        | value => ([.value flag (String.ofList value)], none)
      else
        let (items, waiting) := letterItems flags rest
        (.flag flag :: items, waiting)

def wordItems (flags : List Flag) (characters : List Char) : List Item × Option Flag :=
  let name := String.ofList (characters.takeWhile (· ≠ '='))
  match flags.find? (·.word = name), characters.dropWhile (· ≠ '=') with
  | none, _ => ([.wrong], none)
  | some flag, [] => if flag.hasValue then ([], some flag) else ([.flag flag], none)
  | some flag, _ :: value =>
    if flag.hasValue then ([.value flag (String.ofList value)], none) else ([.wrong], none)

def argumentItems (flags : List Flag) (argument : String) (rest : List String) :
    List Item × Option Flag :=
  match argument.toList with
  | '-' :: '-' :: characters => wordItems flags characters
  | '-' :: letter :: letters => letterItems flags (letter :: letters)
  | _ => ([.word argument rest], none)

def words : List String → List Item
  | [] => []
  | text :: rest => .word text rest :: words rest

/-- The items of a command line. An option may be waiting for its value. -/
def items (flags : List Flag) (waiting : Option Flag) : List String → List Item
  | [] => if waiting.isSome then [.wrong] else []
  | argument :: rest =>
    match waiting with
    | some flag =>
      if looksLikeOption argument then [.wrong]
      else .value flag argument :: items flags none rest
    | none =>
      if argument = "--" then .separator :: words rest
      else
        let (found, waiting) := argumentItems flags argument rest
        found ++ items flags waiting rest

/-! ## Commands -/

/-- Either an invocation that ends the reading, or a command. -/
inductive Reading where
  | ended (invocation : Invocation)
  | command (command : Command)
deriving DecidableEq, Repr

/-- Read a number of messages: digits, perhaps after a plus sign, that make a word. -/
def count? (text : String) : Option Nat :=
  let digits := match text.toList with
    | '+' :: rest => rest
    | characters => characters
  if digits.isEmpty || !digits.all Char.isDigit then none
  else
    let n := digits.foldl (fun n d => 10 * n + (d.toNat - '0'.toNat)) 0
    if n < wordLimit then some n else none

def readValidate (file : Option String) : List Item → Option Reading
  | [] => file.map fun name => .command (.validate name)
  | .separator :: rest => readValidate file rest
  | .word text _ :: rest => if file.isSome then none else readValidate (some text) rest
  | .flag .help :: _ => some (.ended .help)
  | _ => none

def readInspect : List Item → Option Reading
  | [] => some (.command .inspect)
  | .separator :: rest => readInspect rest
  | .flag .help :: _ => some (.ended .help)
  | _ => none

def readBench (messages : Option Nat) : List Item → Option Reading
  | [] => some (.command (.bench messages))
  | .separator :: rest => readBench messages rest
  | .value .messages text :: rest =>
    match messages, count? text with
    | none, some n => readBench (some n) rest
    | _, _ => none
  | .flag .help :: _ => some (.ended .help)
  | _ => none

def readHelp (rest : List String) : Option Reading :=
  match rest with
  | [] => some (.ended .help)
  | [name] =>
    if ["validate", "inspect", "bench", "help"].contains name then some (.ended .help) else none
  | _ => none

def readCommand (name : String) (rest : List String) : Option Reading :=
  match name with
  | "validate" => readValidate none (items plainFlags none rest)
  | "inspect" => readInspect (items plainFlags none rest)
  | "bench" => readBench none (items benchFlags none rest)
  | "help" => readHelp rest
  | _ => none

/-! ## Whole lines -/

def read (config : Option String) (verbose : Bool) : List Item → Option Invocation
  | .word name rest :: _ =>
    match readCommand name rest with
    | some (.command command) => some (.run (config.getD defaultConfig) command)
    | some (.ended invocation) => some invocation
    | none => none
  | .value .config file :: rest => if config.isSome then none else read (some file) verbose rest
  | .flag .verbose :: rest => if verbose then none else read config true rest
  | .flag .version :: _ => some .version
  | .flag .help :: _ => some .help
  | _ => none

def ofArguments (arguments : List String) : Option Invocation :=
  read none false (items generalFlags none arguments)

end Invocation

end SharedRing
