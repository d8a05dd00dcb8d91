/-!
Arguments on a command line: options with one value each, by a long name or a
letter. A value stands behind an equals sign, directly behind the letter, or in
the next argument, where it may not look like an option.
-/

namespace Wiring.CommandLine

structure Flag where
  name : String
  letter : Option Char := none
  required : Bool := false
  accepts : String → Bool := fun _ => true

inductive Stop where
  | usage
  | help
  | version
  deriving DecidableEq, Repr

abbrev Values := List (String × String)

def give (values : Values) (flag : Flag) (value : String) : Except Stop Values :=
  if (values.lookup flag.name).isSome || !flag.accepts value then .error .usage
  else .ok ((flag.name, value) :: values)

def splitEquals : List Char → List Char × Option (List Char)
  | [] => ([], none)
  | letter :: rest =>
      if letter = '=' then ([], some rest)
      else
        let (name, value) := splitEquals rest
        (letter :: name, value)

inductive Shape where
  /-- Two hyphens: no options follow. -/
  | endOfOptions
  | long (name : String) (value : Option String)
  | short (letter : Char) (rest : List Char)
  | plain (value : String)

def Shape.of (argument : String) : Shape :=
  match argument.toList with
  | ['-', '-'] => .endOfOptions
  | '-' :: '-' :: rest =>
      let (name, value) := splitEquals rest
      .long (.ofList name) (value.map .ofList)
  | '-' :: letter :: rest => .short letter rest
  | _ => .plain argument

def complete (flags : List Flag) (values : Values) : Except Stop Values :=
  if flags.all fun flag => !flag.required || (values.lookup flag.name).isSome then .ok values
  else .error .usage

/-- The values that arguments give; the first argument belongs to the option that waits for its
value, if there is one. -/
def collect (flags : List Flag) : Option Flag → Values → List String → Except Stop Values
  | some _, _, [] => .error .usage
  | none, values, [] => complete flags values
  | some flag, values, argument :: rest =>
      match Shape.of argument with
      | .plain value => do collect flags none (← give values flag value) rest
      | _ => .error .usage
  | none, values, argument :: rest =>
      match Shape.of argument with
      | .plain _ => .error .usage
      | .endOfOptions => if rest.isEmpty then complete flags values else .error .usage
      | .long name value =>
          match flags.find? fun flag => flag.name == name, value with
          | some flag, some value => do collect flags none (← give values flag value) rest
          | some flag, none => collect flags (some flag) values rest
          -- Help ends the arguments wherever an option may stand.
          | none, none => .error (if name == "help" then .help else .usage)
          | none, some _ => .error .usage
      | .short letter tail =>
          match flags.find? fun flag => flag.letter == some letter, tail with
          | some flag, [] => collect flags (some flag) values rest
          | some flag, '=' :: value => do
              collect flags none (← give values flag (.ofList value)) rest
          | some flag, value => do collect flags none (← give values flag (.ofList value)) rest
          | none, _ => .error (if letter == 'h' then .help else .usage)

end Wiring.CommandLine
