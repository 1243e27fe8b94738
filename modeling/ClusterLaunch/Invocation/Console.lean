import ClusterLaunch.Invocation.Session

/-! # The console

What the program shows for a command line: its exit code and the texts that it writes.
Help and the version go to the output, the log goes to the error output. How to use
the program after a refused command line is not told here; the exit code is.
-/

namespace ClusterLaunch

structure Transcript where
  /-- The exit code, unless the program is still waiting. -/
  exitCode : Option UInt8
  output : String
  errorOutput : String
  deriving Repr, DecidableEq

namespace Console

def identity : String := "l"

def versionText : String := "paxboot_launcher 0.1.0\n"

def helpText : String :=
  "\n".intercalate
    ["PaxBoot replica cluster launcher executable",
      "",
      "Usage: paxboot_launcher [OPTIONS] <NUM_REPLICAS> [FAIL_RATE]",
      "",
      "Arguments:",
      "  <NUM_REPLICAS>  Total number of server replicas to launch",
      "  [FAIL_RATE]     Failure-injection rate handed to every replica, within [0, 1]",
      "",
      "Options:",
      "      --config <CONFIG>",
      "          Launcher configuration TOML string. Every '+' is treated as newline [default: \"\"]",
      "      --peer-policy <PEER_POLICY>",
      "          Peer addresses handed to each replica: exclude_self|include_self. " ++
        "Overrides \x60peer_policy\x60 in \x60--config\x60",
      "      --payload-format <PAYLOAD_FORMAT>",
      "          Replica command line encoding: positional|text_format. " ++
        "Overrides \x60payload_format\x60 in \x60--config\x60",
      "      --dry-run",
      "          Print every replica's command line and exit without starting any",
      "  -h, --help",
      "          Print help",
      "  -V, --version",
      "          Print version",
      ""]

def refused : Invocation.Refusal → Transcript
  | .help => ⟨some 0, helpText, ""⟩
  | .version => ⟨some 0, versionText, ""⟩
  | _ => ⟨some 2, "", ""⟩

/-- The records that a filter lets through, as they are written. -/
def logText (filter : LogFilter) (records : List LogRecord) : String :=
  String.join ((records.filter fun record => filter.shows record.level).map
    fun record => record.written identity)

def ofSession {σ η : Type} (filter : LogFilter) (session : Session σ η) : Transcript :=
  let exitCode :=
    match session.ending with
    | .exited code => some code
    | .waiting => none
  ⟨exitCode, "", logText filter session.world.logs⟩

/-- What a command line shows on a system, where replicas are its processes. -/
def transcript {σ η : Type} (filter : LogFilter) (arguments : List String)
    (system : System σ η) (patience : Nat) (scene : Scene) (state : σ) : Transcript :=
  match Invocation.ofArguments arguments with
  | .error refusal => refused refusal
  | .ok invocation =>
      ofSession filter
        (Session.ofInvocation invocation system.facilities system.spawner patience
          (World.fresh scene state))

end Console

end ClusterLaunch
