/-!
# What is printed for those who ask
-/
namespace BlinkBench.Cli

/-- The help. -/
def helpText : String :=
  "\n".intercalate [
    "PortBlink GPIO blink driver on a simulated H8/3067 port",
    "",
    "Usage: portblink [OPTIONS]",
    "",
    "Options:",
    "  -c, --config <CONFIG>              Path to the board/run manifest (YAML)",
    "  -n, --max-toggles <MAX_TOGGLES>    Stop after this many toggles",
    "      --wall-time-ms <WALL_TIME_MS>  Stop after this much wall-clock time",
    "  -d, --delay <DELAY>                Delay strategy: busy, sleep or none",
    "  -t, --trace                        Enable per-write tracing",
    "  -o, --output-dir <OUTPUT_DIR>      Directory for result.json",
    "  -h, --help                         Print help",
    "  -V, --version                      Print version",
    ""]

/-- The version. -/
def versionText : String := "portblink-cli 0.10.0\n"

end BlinkBench.Cli
