import CallGuard.Program.Arguments

/-! The help texts. -/

namespace CallGuard.Program

/-- The lines of a help text. -/
def Topic.lines : Topic → List String
  | program => [
      "Exercise circuit breakers and retries against agent endpoints",
      "",
      "Usage: agent-resilience [OPTIONS] <COMMAND>",
      "",
      "Commands:",
      "  simulate  Drive an in-process dependency that fails, then recovers",
      "  send      POST a JSON message to an agent endpoint",
      "  help      Print this message or the help of the given subcommand(s)",
      "",
      "Options:",
      "  -c, --config <CONFIG>  TOML configuration file (defaults apply when omitted)",
      "  -h, --help             Print help"]
  | simulate => [
      "Drive an in-process dependency that fails, then recovers",
      "",
      "Usage: agent-resilience simulate [OPTIONS]",
      "",
      "Options:",
      "      --dependency <DEPENDENCY>    "
        ++ "Dependency name, selects the breaker settings [default: simulated-agent]",
      "      --failures <FAILURES>        "
        ++ "Failing invocations before the dependency recovers [default: 10]",
      "      --calls <CALLS>              Calls to issue [default: 20]",
      "      --interval-ms <INTERVAL_MS>  Pause between calls in milliseconds [default: 250]",
      "  -h, --help                       Print help"]
  | send => [
      "POST a JSON message to an agent endpoint",
      "",
      "Usage: agent-resilience send [OPTIONS] --url <URL>",
      "",
      "Options:",
      "      --url <URL>                ",
      "      --message <MESSAGE>        JSON message body [default: \x7b\x7d]",
      "      --timeout-ms <TIMEOUT_MS>  Overall deadline in milliseconds",
      "  -h, --help                     Print help"]
  | help => [
      "Print this message or the help of the given subcommand(s)",
      "",
      "Usage: agent-resilience help [COMMAND]...",
      "",
      "Arguments:",
      "  [COMMAND]...  Print help for the subcommand(s)"]

end CallGuard.Program
