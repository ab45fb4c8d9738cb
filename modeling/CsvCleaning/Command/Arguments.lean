/-!
# Arguments

The arguments of a command are options, by a name after two dashes or a letter after one, and the
others. The value of an option follows an equals sign, its letter, or comes as the next argument,
which must not look like an option then. An option is given once at most. After two dashes alone all
arguments are others.
-/

namespace CsvCleaning

/-- Why arguments are not carried out. -/
inductive Refusal where
  | misuse
  /-- The usage is asked for. -/
  | help
  /-- The version is asked for. -/
  | version
deriving DecidableEq, Repr

/-- An option of a command. -/
structure OptionForm where
  name : String
  letter : Option Char
  /-- Which values the option takes, unless it is a mere switch. -/
  value : Option (String → Bool)

/-- What a command takes. -/
structure ArgumentForm where
  options : List OptionForm
  /-- The greatest number of other arguments. -/
  others : Nat
  /-- Which other arguments are taken. -/
  other : String → Bool
  /-- Whether the version may be asked for. -/
  hasVersion : Bool

/-- The arguments that were given: options with their values, and the others. -/
structure Arguments where
  options : List (String × String)
  others : List String
deriving DecidableEq, Repr

namespace Arguments

/-- No arguments. -/
def none : Arguments :=
  ⟨[], []⟩

/-- The value of an option. -/
def value? (given : Arguments) (name : String) : Option String :=
  (given.options.find? (·.1 == name)).map (·.2)

/-- Decide whether an option was given. -/
def has (given : Arguments) (name : String) : Bool :=
  (given.value? name).isSome

/-- Decide whether an argument looks like an option. -/
def isOption (arg : String) : Bool :=
  match arg.toList with
  | '-' :: _ :: _ => true
  | _ => false

/-- Take a switch, or an option with a value that it takes, unless it was given before. -/
def addOption (given : Arguments) (o : OptionForm) (value : Option String) :
    Except Refusal Arguments :=
  if given.has o.name then .error .misuse
  else
    match o.value, value with
    | .none, .none => .ok { given with options := given.options ++ [(o.name, "")] }
    | some accepts, some v =>
      if accepts v then .ok { given with options := given.options ++ [(o.name, v)] }
      else .error .misuse
    | _, _ => .error .misuse

/-- Take another argument. -/
def addOther (form : ArgumentForm) (given : Arguments) (arg : String) :
    Except Refusal Arguments :=
  if given.others.length < form.others ∧ form.other arg then
    .ok { given with others := given.others ++ [arg] }
  else .error .misuse

/-- Take an option by its name: what is given then, and the option if its value is to come. -/
def readLong (form : ArgumentForm) (given : Arguments) (body : List Char) :
    Except Refusal (Arguments × Option OptionForm) :=
  let name := String.ofList (body.takeWhile (· != '='))
  let value := match body.dropWhile (· != '=') with
    | _ :: v => some (String.ofList v)
    | [] => .none
  match form.options.find? (·.name == name) with
  | some o =>
    if o.value.isSome ∧ value = .none then .ok (given, some o)
    else (given.addOption o value).map (·, .none)
  | .none =>
    if value ≠ .none then .error .misuse
    else if name = "help" then .error .help
    else if name = "version" ∧ form.hasVersion then .error .version
    else .error .misuse

/-- Take options by their letters. -/
def readShort (form : ArgumentForm) (given : Arguments) :
    List Char → Except Refusal (Arguments × Option OptionForm)
  | [] => .ok (given, .none)
  | c :: rest =>
    match form.options.find? (·.letter == some c) with
    | some o =>
      if o.value.isSome then
        match rest with
        | [] => .ok (given, some o)
        | '=' :: v => (given.addOption o (some (String.ofList v))).map (·, .none)
        | v => (given.addOption o (some (String.ofList v))).map (·, .none)
      else
        match given.addOption o .none with
        | .ok given => readShort form given rest
        | .error r => .error r
    | .none =>
      if c = 'h' then .error .help
      else if c = 'V' ∧ form.hasVersion then .error .version
      else .error .misuse

/-- Take the option that an argument is. -/
def readOption (form : ArgumentForm) (given : Arguments) (arg : String) :
    Except Refusal (Arguments × Option OptionForm) :=
  match arg.toList with
  | '-' :: '-' :: body => readLong form given body
  | _ :: body => readShort form given body
  | [] => .error .misuse

/-- Take other arguments only. -/
def readOthers (form : ArgumentForm) : Arguments → List String → Except Refusal Arguments
  | given, [] => .ok given
  | given, arg :: rest =>
    match given.addOther form arg with
    | .ok given => readOthers form given rest
    | .error r => .error r

/-- Take arguments in turn, all of them or those up to the first other one, which is left with all
after it. -/
def readFrom (form : ArgumentForm) (all : Bool) :
    Arguments → List String → Except Refusal (Arguments × List String)
  | given, [] => .ok (given, [])
  | given, arg :: rest =>
    if arg = "--" then (readOthers form given rest).map (·, [])
    else if isOption arg then
      match readOption form given arg with
      | .error r => .error r
      | .ok (given, .none) => readFrom form all given rest
      | .ok (given, some o) =>
        match rest with
        | [] => .error .misuse
        | value :: rest =>
          if isOption value then .error .misuse
          else
            match given.addOption o (some value) with
            | .ok given => readFrom form all given rest
            | .error r => .error r
    else if all then
      match given.addOther form arg with
      | .ok given => readFrom form all given rest
      | .error r => .error r
    else .ok (given, arg :: rest)

end Arguments

end CsvCleaning
