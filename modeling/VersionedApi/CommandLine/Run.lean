import VersionedApi.CommandLine.Arguments
import VersionedApi.Discovery.Negotiation
import VersionedApi.Session.Transport

/-!
# Running a command

The command line as a function: of the arguments, the environment and the files, and of what the
servers answer.  Settings come from the arguments before all other places.  A plain request prints
the body of the reply, with the statuses on the way to the log; a discovery prints the versions of
the service and the pair that was chosen, and fails if there is none.
-/

namespace VersionedApi.CommandLine

/-- What a command prints, and its exit code. -/
structure Report where
  /-- The exit code. -/
  exit : Nat := 0
  /-- What is printed. -/
  stdout : String := ""
  /-- What is printed for the log. -/
  stderr : String := ""
deriving DecidableEq, Repr

/-- Where a command runs. -/
structure Host where
  /-- The environment. -/
  env : Environment
  /-- The settings at the default place, if they are there. -/
  defaultConfig : Option Bytes
  /-- What reads files. -/
  files : Files
  /-- What servers answer. -/
  answer : List Dispatch → Delivery

namespace Host

/-- The network of a host. -/
def network (h : Host) : Network := { files := h.files, answer := h.answer }

/-- The token of the environment; a text that cannot be read stops the arguments. -/
def token (h : Host) : Except Halt (Option String) :=
  match h.env "RESTAPI_TOKEN" with
  | none => .ok none
  | some bytes =>
      match Utf8.decode? bytes with
      | some token => .ok (some token)
      | none => .error .refused

end Host

/-! ## Settings -/

/-- The settings with those of the arguments in their place. -/
def GlobalOptions.override (g : GlobalOptions) (c : Config) : Config :=
  let verify := match g.cacert with
    | some path => .bundle path
    | none => c.session.verify
  { c with session := { c.session with
      verify := if g.insecure then .disabled else verify
      userAgent := (g.userAgent.map some).getD c.session.userAgent } }

/-- The settings with which a command runs. -/
def settings (h : Host) (g : GlobalOptions) : Except ApiError Config :=
  (Config.load h.files h.defaultConfig h.env g.config).map g.override

/-- The authorizer of a command. -/
def authorizer (g : GlobalOptions) : Authorizer :=
  match g.token with
  | some token => (Credentials.token token).authorize
  | none => Credentials.none.authorize

/-- The session of a command. -/
def session (h : Host) (g : GlobalOptions) (c : Config) : Except ApiError Session :=
  h.network.session c.session (authorizer g)

/-! ## A plain request -/

/-- The pair of a parameter. -/
def pair? (param : String) : Option (String × String) :=
  (Text.cut? '=' param.toList).map fun (key, value) => (String.ofList key, String.ofList value)

/-- The pairs of parameters, or the first parameter that is none. -/
def pairs : List String → Except String (List (String × String))
  | [] => .ok []
  | param :: rest =>
      match pair? param with
      | none => .error param
      | some p => (pairs rest).map (p :: ·)

/-- The line of a response on the way. -/
def hopLine (r : Response) : String := Status.text r.status ++ " " ++ r.url.render ++ "\n"

/-- The report of a failure. -/
def failure (message : String) : Report := { exit := 1, stderr := "Error: " ++ message ++ "\n" }

/-- The report of an error. -/
def ofError (e : ApiError) : Report := failure e.message

/-- The report of a response. -/
def ofResponse (r : Response) : Report :=
  let hops := String.join ((r.history ++ [r]).map hopLine)
  match r.text with
  | .ok text => { stdout := text ++ "\n", stderr := hops }
  | .error e => { ofError e with stderr := hops ++ (ofError e).stderr }

/-- The options of a plain request. -/
def getOptions (pairs : List (String × String)) (noRedirect : Bool) : RequestOptions :=
  { params := pairs, redirect := if noRedirect then some .never else none }

/-! ## A discovery -/

/-- What a discovery negotiates. -/
def negotiation (c : Config) (url : String) (o : DiscoverOptions) : Negotiation :=
  let base : Negotiation :=
    { apiUrl := url
      clients := o.clients
      requested := o.requested
      profile := if o.identity then .identity else .standard }
  let n := base.withConfig c.discovery
  { n with
    strict := n.strict && !o.notStrict
    workaroundUrlBug := n.workaroundUrlBug && !o.noUrlWorkaround }

/-- The value of a pair of versions. -/
def matchJson (m : VersionMatch) : Json :=
  .ofMembers [("server", m.server.toJson), ("client", m.client.toJson)]

/-- The value of a negotiation. -/
def negotiatedJson (n : Negotiated) : Json :=
  .ofMembers [
    ("url", .str n.probeUrl.render),
    ("server_versions", .arr (n.serverVersions.map ApiVersion.toJson)),
    ("matched", (n.matched.map matchJson).getD .null)]

/-- A text filled up to a width. -/
def column (width : Nat) (s : String) : String := String.ofList (Text.padEnd width ' ' s.toList)

/-- The line of a version of a service. -/
def versionLine (v : ApiVersion) : String :=
  "  " ++ column 8 v.id ++ " " ++ column 12 (v.status.getD "-") ++ " " ++ v.url.getD "-" ++ "\n"

/-- The lines of the versions of a service. -/
def versionLines (n : Negotiated) : String :=
  "Server versions at " ++ n.probeUrl.render ++ ":\n" ++
    (if n.serverVersions.isEmpty then "  (none)\n" else "") ++
    String.join (n.serverVersions.map versionLine) ++ "\n"

/-- The lines of the pair that was chosen. -/
def matchLines (m : VersionMatch) : String :=
  "Negotiated:\n  Server:  " ++ m.server.shown ++ "\n  Client:  " ++ m.client.shown ++ "\n" ++
    match m.server.url with
    | some url => "  URL:     " ++ url ++ "\n"
    | none => ""

/-- The report of a negotiation. -/
def ofNegotiated (json : Bool) (n : Negotiated) : Report :=
  if json then { stdout := (negotiatedJson n).pretty 0 ++ "\n" }
  else
    match n.matched with
    | some m => { stdout := versionLines n ++ matchLines m }
    | none => { exit := 1, stdout := versionLines n, stderr := "No compatible version found\n" }

/-! ## The program -/

/-- A run that prints without sending. -/
def quiet (r : Report) : Trace Report := .done (.ok r)

/-- What is printed for the outcome of a run. -/
def reported {α : Type} (t : Trace α) (f : α → Report) : Trace Report :=
  t.conclude fun
    | .ok a => (.ok (f a), [])
    | .error e => (.ok (ofError e), [])

/-- The run of a command over a session. -/
def runCommand (c : Config) (s : Session) (client : Client) (steps : Nat) :
    Command → Trace Report
  | .get url params noRedirect =>
      match pairs params with
      | .error param => quiet (failure ("Invalid parameter: " ++ param ++ ". Use: key=value"))
      | .ok pairs =>
          reported (s.request client steps "GET" url (getOptions pairs noRedirect)) ofResponse
  | .discover url o => reported ((negotiation c url o).run s client steps) (ofNegotiated o.json)

/-- The run of what the arguments ask for. -/
def runArguments (h : Host) (steps : Nat) (a : Arguments) : Trace Report :=
  match settings h a.globals with
  | .error e => quiet (ofError e)
  | .ok c =>
      match session h a.globals c with
      | .error e => quiet (ofError e)
      | .ok s => runCommand c s h.network.client steps a.command

/-- Whether an event is shown on the log. -/
def isShown (verbose : Bool) (e : Event) : Bool := verbose || e.level != .debug

/-- The line of an event on the log. -/
def eventLine (e : Event) : String :=
  e.level.text ++ " " ++ e.message ++
    String.join (e.fields.map fun (name, value) => " " ++ name ++ "=" ++ value) ++ "\n"

/-- The log of a run, as far as the arguments want it. -/
def logText (args : List String) (events : List Logged) : String :=
  let verbose := match Arguments.parse (.ok none) args with
    | .ok a => a.globals.verbose
    | .error _ => false
  String.join (((events.map Logged.event).filter (isShown verbose)).map eventLine)

/-- How the program is called. -/
def usage : String :=
  "Usage: restapi [OPTIONS] get <URL> [-p KEY=VALUE] [--no-redirect]\n" ++
  "       restapi [OPTIONS] discover <URL> --clients <LIST> [--requested <VERSION>]\n" ++
  "               [--not-strict] [--identity] [--no-url-workaround] [--json]\n" ++
  "Options: --config <FILE> --insecure --cacert <FILE> --user-agent <TEXT> --token <TEXT> -v\n"

/-- What is printed where reading the arguments stops. -/
def ofHalt : Halt → Report
  | .help => { stdout := usage }
  | .version => { stdout := "restapi 0.1.0\n" }
  | .refused => { exit := 2, stderr := usage }

/-- The run of the program, of at most `steps` requests sent. -/
def run (h : Host) (steps : Nat) (args : List String) : Trace Report :=
  match Arguments.parse h.token args with
  | .error halt => quiet (ofHalt halt)
  | .ok a => runArguments h steps a

end VersionedApi.CommandLine
