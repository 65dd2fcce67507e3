/-
What the program says about itself.
-/
import QuartoLint.Text.Blank

namespace QuartoLint.Arguments

/-- The name and version, on one line. -/
def versionText : Text := "qmd-lint 0.1.0\n".toList

def shortHelp : Text :=
  "Structural linter for Quarto markdown documents

Usage: qmd-lint [OPTIONS] [FILES]...

Arguments:
  [FILES]...  Documents to lint, in order

Options:
      --format <FORMAT>        Output format (text, json) [possible values: text, json]
      --config <CONFIG>        Path to a TOML config file
      --exit-zero              Exit with status 0 even when diagnostics were emitted
      --log-level <LOG_LEVEL>  Log level (trace, debug, info, warn, error) [default: warn]
  -h, --help                   Print help (see more with '--help')
  -V, --version                Print version
".toList

def fullHelp : Text :=
  "Structural linter for Quarto markdown documents

Usage: qmd-lint [OPTIONS] [FILES]...

Arguments:
  [FILES]...
          Documents to lint, in order

Options:
      --format <FORMAT>
          Output format (text, json)

          Possible values:
          - text: `<source>: Error: <message> on line <n>`
          - json: One JSON object per diagnostic

      --config <CONFIG>
          Path to a TOML config file

      --exit-zero
          Exit with status 0 even when diagnostics were emitted

      --log-level <LOG_LEVEL>
          Log level (trace, debug, info, warn, error)
         \x20
          [default: warn]

  -h, --help
          Print help (see a summary with '-h')

  -V, --version
          Print version
".toList

end QuartoLint.Arguments
