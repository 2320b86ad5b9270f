/-!
Arguments of a command: options with values, and operands.

An option is written with two dashes and its name, or with one dash and its letter. Its value
follows as the next argument, or in the same one: behind an equals sign, or directly behind the
letter. Two dashes alone end the options. An argument is taken for a value or an operand only if it
does not begin with a dash, or is a dash and nothing else. Every option may be given once, and a
value that is not of its type is refused as soon as it is read, so that a request for help counts
only when all arguments before it are in order.
-/

namespace Cosigner

/-- An option that takes a value. -/
structure OptionForm where
  name : String
  letter : Option Char
  /-- Whether a text is a value of the option. -/
  accepts : String → Bool

/-- The options that a command knows, and how many operands it takes. -/
structure CommandForm where
  options : List OptionForm
  operands : Nat

/-- The arguments read so far. -/
structure Arguments where
  /-- Values by the name of their option. -/
  values : List (String × String)
  operands : List String
deriving DecidableEq, Repr

/-- What one argument says. -/
inductive ArgumentKind where
  | operand
  /-- The end of the options. -/
  | separator
  | help
  | assigned (option : OptionForm) (value : String)
  /-- An option whose value is the next argument. -/
  | awaiting (option : OptionForm)
  | unknown

namespace CommandForm

/-- The characters before the first equals sign, and those after it if there is one. -/
def splitEquals (text : List Char) : List Char × Option (List Char) :=
  match text.dropWhile (· != '=') with
  | [] => (text, none)
  | _ :: value => (text.takeWhile (· != '='), some value)

/-- What two dashes before this text say. -/
def longKind (form : CommandForm) (text : List Char) : ArgumentKind :=
  let (name, value) := splitEquals text
  let name := String.ofList name
  match form.options.find? fun option => option.name == name, value with
  | some option, some value => .assigned option (String.ofList value)
  | some option, none => .awaiting option
  | none, none => if name = "help" then .help else .unknown
  | none, some _ => .unknown

/-- What one dash before a letter and this text says. -/
def shortKind (form : CommandForm) (letter : Char) (text : List Char) : ArgumentKind :=
  if letter = 'h' then .help
  else
    match form.options.find? fun option => option.letter == some letter, text with
    | none, _ => .unknown
    | some option, [] => .awaiting option
    | some option, '=' :: value => .assigned option (String.ofList value)
    | some option, value => .assigned option (String.ofList value)

def kind (form : CommandForm) (argument : String) : ArgumentKind :=
  match argument.toList with
  | ['-', '-'] => .separator
  | '-' :: '-' :: text => form.longKind text
  | '-' :: letter :: text => form.shortKind letter text
  | _ => .operand

/-- Whether an argument cannot be a value of the option before it. -/
def isDashed (argument : String) : Bool :=
  match argument.toList with
  | '-' :: _ :: _ => true
  | _ => false

end CommandForm

namespace Arguments

def none : Arguments := ⟨[], []⟩

def value? (arguments : Arguments) (name : String) : Option String :=
  arguments.values.lookup name

def valueOr (arguments : Arguments) (name default : String) : String :=
  (arguments.value? name).getD default

/-- Adds the value of an option that has none yet. -/
def assign? (arguments : Arguments) (option : OptionForm) (value : String) : Option Arguments :=
  if (arguments.value? option.name).isNone && option.accepts value then
    some { arguments with values := (option.name, value) :: arguments.values }
  else Option.none

/-- Adds an operand, if the command takes one more. -/
def add? (form : CommandForm) (arguments : Arguments) (operand : String) : Option Arguments :=
  if arguments.operands.length < form.operands then
    some { arguments with operands := arguments.operands ++ [operand] }
  else Option.none

/-- What the arguments of a command ask for. -/
inductive Reading where
  | help
  | complete (arguments : Arguments)
deriving DecidableEq, Repr

/-- Reads arguments behind those already read. -/
def read? (form : CommandForm) (arguments : Arguments) : List String → Option Reading
  | [] => some (.complete arguments)
  | argument :: rest =>
    match form.kind argument with
    | .help => some .help
    | .unknown => Option.none
    | .separator => (rest.foldlM (add? form) arguments).map .complete
    | .operand => do read? form (← arguments.add? form argument) rest
    | .assigned option value => do read? form (← arguments.assign? option value) rest
    | .awaiting option =>
      match rest with
      | [] => Option.none
      | value :: rest =>
        if CommandForm.isDashed value then Option.none
        else do read? form (← arguments.assign? option value) rest

end Arguments

end Cosigner
