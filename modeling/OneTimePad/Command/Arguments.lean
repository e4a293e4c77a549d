import OneTimePad.Command.Basic

/-!
# Command-line arguments

The arguments of the program are a command, its options, and a file.  Long
options take their value from behind an equals sign or from the next argument;
short ones take it from the rest of the argument as well.  No option is given
twice, and after a bare double dash nothing is an option any more.

Whatever does not fit is a usage error.  It is the only answer that does not
say more, so the order in which faults are found does not matter.
-/

namespace OneTimePad.Arguments

/-- An option of a command. -/
structure OptionSpec where
  /-- The name behind a double dash. -/
  name : String
  /-- The letter behind a single dash. -/
  letter : Option Char := none
  takesValue : Bool := true
deriving DecidableEq, Repr

/-- The option that every command takes. -/
def logLevel : OptionSpec := { name := "log-level" }

/-- The arguments of a command, sorted into options with their values and
files. -/
structure Sorted where
  options : List (String × String) := []
  files : List String := []
deriving DecidableEq, Repr

/-- Whether an argument can only be an option. -/
def isOption (arg : List Char) : Bool :=
  match arg with
  | '-' :: _ :: _ => true
  | _ => false

/-- Split an argument at its first equals sign. -/
def splitValue (arg : List Char) : List Char × Option (List Char) :=
  match arg.dropWhile (· ≠ '=') with
  | [] => (arg, none)
  | _ :: value => (arg.takeWhile (· ≠ '='), some value)

/-- What an argument in the place of an option comes to. -/
inductive OptionUse where
  /-- A flag, or an option with its value. -/
  | complete (name value : String)
  /-- An option whose value is the next argument. -/
  | awaits (name : String)
deriving DecidableEq, Repr

/-- Read what follows a double dash. -/
def readLong (specs : List OptionSpec) (arg : List Char) : Option OptionUse := do
  let (name, value) := splitValue arg
  let spec ← specs.find? fun spec => spec.name.toList = name
  match value, spec.takesValue with
  | some value, true => some (.complete spec.name (String.ofList value))
  | none, true => some (.awaits spec.name)
  | none, false => some (.complete spec.name "")
  | some _, false => none

/-- Read what follows a single dash. -/
def readShort (specs : List OptionSpec) : List Char → Option OptionUse
  | [] => none
  | letter :: rest => do
      let spec ← specs.find? fun spec => spec.letter = some letter
      match rest with
      | [] => some (.awaits spec.name)
      | '=' :: value => some (.complete spec.name (String.ofList value))
      | value => some (.complete spec.name (String.ofList value))

/-- Read an argument in the place of an option. -/
def readOption (specs : List OptionSpec) (arg : List Char) : Option OptionUse :=
  match arg with
  | '-' :: '-' :: long => readLong specs long
  | '-' :: short => readShort specs short
  | _ => none

/-- Add an option, which must not be there yet. -/
def Sorted.add (sorted : Sorted) (name value : String) : Option Sorted :=
  if (sorted.options.lookup name).isSome then none
  else some { sorted with options := (name, value) :: sorted.options }

/-- Sort the arguments of a command.  `awaited` is the option that waits for
its value. -/
def sort (specs : List OptionSpec) : (awaited : Option String) → Sorted → List String →
    Option Sorted
  | none, sorted, [] => some { sorted with files := sorted.files.reverse }
  | some _, _, [] => none
  | some name, sorted, arg :: rest =>
      if isOption arg.toList then none
      else do
        let sorted ← sorted.add name arg
        sort specs none sorted rest
  | none, sorted, arg :: rest =>
      if arg = "--" then some { sorted with files := sorted.files.reverse ++ rest }
      else if isOption arg.toList then do
        match ← readOption specs arg.toList with
        | .complete name value => do
            let sorted ← sorted.add name value
            sort specs none sorted rest
        | .awaits name => sort specs (some name) sorted rest
      else sort specs none { sorted with files := arg :: sorted.files } rest

/-- Read a number that is a word.  A plus sign may stand in front. -/
def readWord (text : String) : Option Nat := do
  let digits := match text.toList with
    | '+' :: digits => digits
    | digits => digits
  if digits = [] ∨ !digits.all Char.isDigit then none
  else
    let number := Nat.ofDigitChars 10 digits 0
    if number < wordLimit then some number else none

/-- A value that is a number, or a default where there is none. -/
def Sorted.number (sorted : Sorted) (name : String) (default : Nat) : Option Nat :=
  match sorted.options.lookup name with
  | some text => readWord text
  | none => some default

/-- The only file among the arguments. -/
def Sorted.file (sorted : Sorted) : Option String :=
  match sorted.files with
  | [path] => if path = "" then none else some path
  | _ => none

/-- The file that an option names, where no other file may stand. -/
def Sorted.fileOption (sorted : Sorted) (name : String) : Option String := do
  let path ← sorted.options.lookup name
  if path = "" ∨ sorted.files ≠ [] then none else some path

/-- A command and the file that it is for. -/
structure Invocation where
  command : Command
  path : String
deriving DecidableEq, Repr

/-- Read the arguments behind the name of a command. -/
def readCommand (name : String) (args : List String) : Option Invocation := do
  let padOption : OptionSpec := { name := "pad", letter := some 'p' }
  match name with
  | "mnemonic" => do
      let words : OptionSpec := { name := "words", letter := some 'w' }
      let sorted ← sort [logLevel, padOption, words] none {} args
      let path ← sorted.fileOption "pad"
      let mnemonicWords ← sorted.number "words" Mnemonic.defaultCount
      return ⟨.mnemonic { mnemonicWords }, path⟩
  | "tokens" => do
      let reveal : OptionSpec := { name := "reveal", takesValue := false }
      let sorted ← sort [logLevel, padOption, reveal] none {} args
      let path ← sorted.fileOption "pad"
      return ⟨.tokens (sorted.options.lookup "reveal").isSome, path⟩
  | "crc" => do
      let sorted ← sort [logLevel, { name := "expect" }] none {} args
      return ⟨.checksum (sorted.options.lookup "expect"), ← sorted.file⟩
  | "inspect" => do
      let base64 : OptionSpec := { name := "base64", takesValue := false }
      let sorted ← sort [logLevel, base64] none {} args
      return ⟨.inspect (sorted.options.lookup "base64").isSome, ← sorted.file⟩
  | "ledger" => do
      let below : OptionSpec := { name := "exhaust-below" }
      let sorted ← sort [logLevel, below] none {} args
      let threshold ← sorted.number "exhaust-below" smallestFrame
      return ⟨.ledger { threshold := UInt64.ofNat threshold }, ← sorted.file⟩
  | _ => none

/-- What a command line asks for. -/
inductive Request where
  /-- The version of the program. -/
  | version
  /-- A command. -/
  | run (invocation : Invocation)
  /-- Nothing that makes sense. -/
  | usageError
deriving DecidableEq, Repr

/-- Read a whole command line.  `awaits` says that the value of the log level
comes next, and `given` that it was given. -/
def readRequest (awaits given : Bool) : List String → Request
  | [] => .usageError
  | arg :: rest =>
      if awaits then
        if isOption arg.toList then .usageError else readRequest false given rest
      else if isOption arg.toList then
        if arg = "--version" then .version
        else
          match arg.toList with
          | '-' :: 'V' :: _ => .version
          | chars =>
              match given, readOption [logLevel] chars with
              | false, some (.complete _ _) => readRequest false true rest
              | false, some (.awaits _) => readRequest true true rest
              | _, _ => .usageError
      else
        match readCommand arg rest with
        | some invocation => .run invocation
        | none => .usageError

/-- Read a command line. -/
def parse (args : List String) : Request :=
  readRequest false false args

/-! ## Answers -/

/-- The version of the program. -/
def version : String := "padlock 0.1.0"

/-- What the program answers: an exit code, what it prints, and what it
complains about. -/
structure Answer where
  exit : UInt32
  output : String
  complaint : String
deriving DecidableEq, Repr

/-- The answer to a request, given the content of the file it names. -/
def respond (request : Request) (file : FileContent) : Checked Answer := do
  match request with
  | .version => return ⟨0, version ++ "\n", ""⟩
  | .usageError => return ⟨2, "", "usage error\n"⟩
  | .run invocation =>
      match ← (invocation.command.run invocation.path file).run with
      | .ok text => return ⟨0, text ++ "\n", ""⟩
      | .error error => return ⟨1, "", error.message ++ "\n"⟩

end OneTimePad.Arguments
