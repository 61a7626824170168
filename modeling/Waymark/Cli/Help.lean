import Waymark.Cli.Command

/-! # Help -/

namespace Waymark.Cli

/-- Writes lines. -/
def unlines (lines : List String) : String := String.join (lines.map (· ++ "\n"))

namespace Topic

/-- The help on a topic. -/
def lines : Topic → List String
  | program => [
      "Bidirectional URL routing for multi-tenant storefronts",
      "",
      "Usage: route-dispatch [OPTIONS] <COMMAND>",
      "",
      "Commands:",
      "  resolve   Resolve a request path and print the match as JSON",
      "  build     Build the URL of a route",
      "  validate  Check a custom rule against its route family",
      "  watch     Keep the route table hot-reloaded until interrupted",
      "  help      Print this message or the help of the given subcommand(s)",
      "",
      "Options:",
      "  -c, --config <CONFIG>  Route configuration file (TOML). Built-in routes only when omitted",
      "  -t, --tenant <TENANT>  [default: 1]",
      "  -l, --locale <LOCALE>  [default: 1]",
      "  -h, --help             Print help"]
  | resolve => [
      "Resolve a request path and print the match as JSON",
      "",
      "Usage: route-dispatch resolve <PATH>",
      "",
      "Arguments:",
      "  <PATH>  ",
      "",
      "Options:",
      "  -h, --help  Print help"]
  | build => [
      "Build the URL of a route",
      "",
      "Usage: route-dispatch build [OPTIONS] <ROUTE_ID>",
      "",
      "Arguments:",
      "  <ROUTE_ID>  ",
      "",
      "Options:",
      "  -p, --param <PARAMS>   Route parameter, repeatable",
      "      --query            Query-string URL instead of the friendly one",
      "      --anchor <ANCHOR>  [default: ]",
      "  -h, --help             Print help"]
  | validate => [
      "Check a custom rule against its route family",
      "",
      "Usage: route-dispatch validate <ROUTE_ID> <RULE>",
      "",
      "Arguments:",
      "  <ROUTE_ID>  ",
      "  <RULE>      ",
      "",
      "Options:",
      "  -h, --help  Print help"]
  | watch => [
      "Keep the route table hot-reloaded until interrupted",
      "",
      "Usage: route-dispatch watch",
      "",
      "Options:",
      "  -h, --help  Print help"]
  | help => [
      "Print this message or the help of the given subcommand(s)",
      "",
      "Usage: route-dispatch help [COMMAND]...",
      "",
      "Arguments:",
      "  [COMMAND]...  Print help for the subcommand(s)"]

end Topic

/-- What a command line that cannot be read is answered with. -/
def usageText : String :=
  unlines ["error: the command line is not understood",
    "",
    "Usage: route-dispatch [OPTIONS] <COMMAND>",
    "",
    "For more information, try '--help'."]

end Waymark.Cli
