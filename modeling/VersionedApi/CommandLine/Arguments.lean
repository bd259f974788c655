import VersionedApi.Text.Split

/-!
# Arguments of the command line

The arguments have two levels: options of the program, then a command, then options and one URL of
the command.  The global options may stand at either level, and one that stands at both counts as
the command has it.  An option is given by its long name with two hyphens or by its letter with
one; letters may be put together.  A value is the argument that follows, unless that looks like an
option, or what follows an equals sign or, for a letter, the letter itself.  After two hyphens
alone every argument is a plain one.

Reading goes from left to right and stops at the first fault, or where help or the version of the
program is asked for.
-/

namespace VersionedApi.CommandLine

/-- An option that a level knows. -/
structure OptionSpec where
  /-- The long name. -/
  name : String
  /-- The letter. -/
  letter : Option Char := none
  /-- Whether the option takes a value. -/
  takesValue : Bool := false
  /-- Whether the option may be given several times. -/
  repeats : Bool := false
  /-- Whether the value may be empty. -/
  mayBeEmpty : Bool := true
deriving DecidableEq, Repr

/-- Why reading stops. -/
inductive Halt where
  /-- Help is asked for. -/
  | help
  /-- The version of the program is asked for. -/
  | version
  /-- The arguments are wrong. -/
  | refused
deriving DecidableEq, Repr

/-- What the arguments of a level give. -/
structure Given where
  /-- The options with their values, a flag with the empty one. -/
  options : List (String × String) := []
  /-- The plain arguments. -/
  plain : List String := []
deriving DecidableEq, Repr

namespace Given

/-- Whether an option is given. -/
def has (g : Given) (name : String) : Bool := g.options.any (·.1 == name)

/-- The value of an option. -/
def value? (g : Given) (name : String) : Option String := g.options.lookup name

/-- The values of an option, in order. -/
def values (g : Given) (name : String) : List String :=
  (g.options.filter (·.1 == name)).map (·.2)

/-- What is given with an option added. -/
def add (g : Given) (spec : OptionSpec) (value : String) : Except Halt Given :=
  if g.has spec.name && !spec.repeats then .error .refused
  else if value = "" && spec.takesValue && !spec.mayBeEmpty then .error .refused
  else .ok { g with options := g.options ++ [(spec.name, value)] }

end Given

/-! ## One argument -/

/-- What one argument of hyphens gives, and the option for which a value is to follow. -/
abbrev Step := Except Halt (Given × Option OptionSpec)

/-- The value after the letter of an option, if there is one in the same argument. -/
def attached? : List Char → Option String
  | [] => none
  | '=' :: value => some (String.ofList value)
  | value => some (String.ofList value)

/-- An argument of letters, after its hyphen. -/
def letters (specs : List OptionSpec) (halts : List (Char × Halt)) (g : Given) :
    List Char → Step
  | [] => .ok (g, none)
  | c :: rest =>
      match halts.lookup c with
      | some halt => .error halt
      | none =>
          match specs.find? (·.letter = some c) with
          | none => .error .refused
          | some spec =>
              if spec.takesValue then
                match attached? rest with
                | some value => (g.add spec value).map (·, none)
                | none => .ok (g, some spec)
              else
                match g.add spec "" with
                | .ok g => letters specs halts g rest
                | .error halt => .error halt

/-- An argument with a long name, after its hyphens. -/
def longName (specs : List OptionSpec) (halts : List (String × Halt)) (g : Given)
    (cs : List Char) : Step :=
  let (name, value) := match Text.cut? '=' cs with
    | some (name, value) => (String.ofList name, some (String.ofList value))
    | none => (String.ofList cs, none)
  match halts.lookup name, value with
  | some halt, none => .error halt
  | some _, some _ => .error .refused
  | none, _ =>
      match specs.find? (·.name = name), value with
      | none, _ => .error .refused
      | some spec, some value =>
          if spec.takesValue then (g.add spec value).map (·, none) else .error .refused
      | some spec, none =>
          if spec.takesValue then .ok (g, some spec) else (g.add spec "").map (·, none)

/-- Whether an argument looks like an option. -/
def looksLikeOption (arg : String) : Bool :=
  match arg.toList with
  | '-' :: _ :: _ => true
  | _ => false

/-! ## One level -/

/-- A level of arguments. -/
structure Level where
  /-- The options. -/
  specs : List OptionSpec
  /-- The long names at which reading stops. -/
  haltNames : List (String × Halt)
  /-- The letters at which reading stops. -/
  haltLetters : List (Char × Halt)
  /-- How many plain arguments there may be. -/
  plainLimit : Nat
  /-- The commands that end the level. -/
  commands : List String

/-- What is given with a plain argument added. -/
def Level.addPlain (l : Level) (g : Given) (arg : String) : Except Halt Given :=
  if g.plain.length < l.plainLimit then .ok { g with plain := g.plain ++ [arg] }
  else .error .refused

/-- The plain arguments after two hyphens alone. -/
def Level.addAll (l : Level) (g : Given) (args : List String) : Except Halt Given :=
  args.foldlM l.addPlain g

/-- What one argument that looks like an option gives. -/
def Level.option (l : Level) (g : Given) (arg : String) : Step :=
  match arg.toList with
  | '-' :: '-' :: rest => longName l.specs l.haltNames g rest
  | '-' :: rest => letters l.specs l.haltLetters g rest
  | _ => .error .refused

/-- The arguments of a level: what they give, and the command that ends it with the arguments
after it. -/
def Level.read (l : Level) (g : Given) :
    List String → Except Halt (Given × Option (String × List String))
  | [] => .ok (g, none)
  | arg :: rest =>
      if arg = "--" then (l.addAll g rest).map (·, none)
      else if looksLikeOption arg then
        match l.option g arg, rest with
        | .error halt, _ => .error halt
        | .ok (g, none), rest => l.read g rest
        | .ok (_, some _), [] => .error .refused
        | .ok (g, some spec), value :: rest =>
            if looksLikeOption value then .error .refused
            else
              match g.add spec value with
              | .ok g => l.read g rest
              | .error halt => .error halt
      else if l.commands.contains arg then .ok (g, some (arg, rest))
      else
        match l.addPlain g arg with
        | .ok g => l.read g rest
        | .error halt => .error halt

/-! ## The program -/

/-- The options that stand at every level. -/
def globalSpecs : List OptionSpec := [
  { name := "config", takesValue := true, mayBeEmpty := false },
  { name := "insecure" },
  { name := "cacert", takesValue := true, mayBeEmpty := false },
  { name := "user-agent", takesValue := true },
  { name := "token", takesValue := true },
  { name := "verbose", letter := some 'v' }]

/-- The options of a plain request. -/
def getSpecs : List OptionSpec := [
  { name := "param", letter := some 'p', takesValue := true, repeats := true },
  { name := "no-redirect" }]

/-- The options of a discovery. -/
def discoverSpecs : List OptionSpec := [
  { name := "clients", takesValue := true, repeats := true },
  { name := "requested", takesValue := true },
  { name := "not-strict" },
  { name := "identity" },
  { name := "no-url-workaround" },
  { name := "json" }]

/-- The level of the program. -/
def programLevel : Level :=
  { specs := globalSpecs
    haltNames := [("help", .help), ("version", .version)]
    haltLetters := [('h', .help), ('V', .version)]
    plainLimit := 0
    commands := ["get", "discover", "help"] }

/-- The level of a command with options of its own. -/
def commandLevel (specs : List OptionSpec) : Level :=
  { specs := specs ++ globalSpecs
    haltNames := [("help", .help)]
    haltLetters := [('h', .help)]
    plainLimit := 1
    commands := [] }

/-- The options of the program. -/
structure GlobalOptions where
  /-- The file of settings. -/
  config : Option String := none
  /-- Whether servers are not verified. -/
  insecure : Bool := false
  /-- The file of certificates. -/
  cacert : Option String := none
  /-- The user agent. -/
  userAgent : Option String := none
  /-- The token. -/
  token : Option String := none
  /-- Whether the log is shown. -/
  verbose : Bool := false
deriving DecidableEq, Repr

/-- The options of a discovery. -/
structure DiscoverOptions where
  /-- The versions that the client supports. -/
  clients : List String := []
  /-- The one version that the client wants. -/
  requested : Option String := none
  /-- Whether the URL may be corrected. -/
  notStrict : Bool := false
  /-- Whether the service is the identity service. -/
  identity : Bool := false
  /-- Whether links are left as they are. -/
  noUrlWorkaround : Bool := false
  /-- Whether the result is printed as JSON. -/
  json : Bool := false
deriving DecidableEq, Repr

/-- A command. -/
inductive Command where
  /-- A plain request. -/
  | get (url : String) (params : List String) (noRedirect : Bool)
  /-- A discovery. -/
  | discover (url : String) (options : DiscoverOptions)
deriving DecidableEq, Repr

/-- What the program is asked to do. -/
structure Arguments where
  /-- The options of the program. -/
  globals : GlobalOptions
  /-- The command. -/
  command : Command
deriving DecidableEq, Repr

/-- The value of an option that may stand at both levels. -/
def either (outer inner : Given) (name : String) : Option String :=
  (inner.value? name).orElse fun _ => outer.value? name

/-- The options of the program, as the two levels give them.  The environment may give a token. -/
def GlobalOptions.ofGiven (outer inner : Given) (token : Option String) : GlobalOptions :=
  { config := either outer inner "config"
    insecure := outer.has "insecure" || inner.has "insecure"
    cacert := either outer inner "cacert"
    userAgent := either outer inner "user-agent"
    token := (either outer inner "token").orElse fun _ => token
    verbose := outer.has "verbose" || inner.has "verbose" }

/-- The versions that a value lists. -/
def listed (value : String) : List String := (Text.splitOn ',' value.toList).map String.ofList

/-- The options of a discovery.  It needs versions, or the one that is wanted. -/
def DiscoverOptions.ofGiven (g : Given) : Except Halt DiscoverOptions :=
  if !g.has "clients" && !g.has "requested" then .error .refused
  else .ok {
    clients := (g.values "clients").flatMap listed
    requested := g.value? "requested"
    notStrict := g.has "not-strict"
    identity := g.has "identity"
    noUrlWorkaround := g.has "no-url-workaround"
    json := g.has "json" }

/-- The URL of a command. -/
def url? (g : Given) : Except Halt String :=
  match g.plain with
  | [url] => .ok url
  | _ => .error .refused

/-- A command and what its level gives. -/
def readCommand (name : String) (args : List String) : Except Halt (Command × Given) :=
  if name = "get" then do
    let (g, _) ← (commandLevel getSpecs).read {} args
    let url ← url? g
    pure (.get url (g.values "param") (g.has "no-redirect"), g)
  else do
    let (g, _) ← (commandLevel discoverSpecs).read {} args
    let url ← url? g
    let options ← DiscoverOptions.ofGiven g
    pure (.discover url options, g)

/-- Where reading stops when help on commands is asked for by name. -/
def helpOn (args : List String) : Halt :=
  match args with
  | [] => .help
  | [name] => if programLevel.commands.contains name then .help else .refused
  | _ => .refused

/-- What the arguments ask for.  `token` is the one that the environment gives, if its text can be
read; it is not looked at if both levels give one. -/
def Arguments.parse (token : Except Halt (Option String)) (args : List String) :
    Except Halt Arguments := do
  let (outer, command) ← programLevel.read {} args
  match command with
  | none => .error .refused
  | some (name, rest) =>
      if name = "help" then .error (helpOn rest)
      else
        let (command, inner) ← readCommand name rest
        let token ← if outer.has "token" && inner.has "token" then pure none else token
        pure { globals := .ofGiven outer inner token, command }

end VersionedApi.CommandLine
