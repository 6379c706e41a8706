/-!
# Pages

The pages that explain the program and its commands, as they are shown for the flag or the command that
asks for them. Each is one text with the usage, the arguments and what they are for.
-/
namespace Tunnel.CommandLine.Page

def version : String := "relaylink-cli 0.1.0\n"

def program : String :=
  String.intercalate "\n" [
    "relaylink-cli 0.1.0",
    "Relay-tunnelled HTTP connector for private network targets",
    "",
    "USAGE:",
    "    relaylink-cli <SUBCOMMAND>",
    "",
    "OPTIONS:",
    "    -h, --help       Print help information",
    "    -V, --version    Print version information",
    "",
    "SUBCOMMANDS:",
    "    help    Print this message or the help of the given subcommand(s)",
    "    pair    Store the relay URL and pairing token used by `run`",
    "    run     Connect to the relay and serve tunnelled requests until interrupted",
    ""]

def run : String :=
  String.intercalate "\n" [
    "relaylink-cli-run ",
    "Connect to the relay and serve tunnelled requests until interrupted",
    "",
    "USAGE:",
    "    relaylink-cli run [OPTIONS]",
    "",
    "OPTIONS:",
    "    -c, --config <config>",
    "            Path of the JSON file holding the relay pairing [default: relaylink.json]",
    "",
    "    -h, --help",
    "            Print help information",
    "",
    "        --heartbeat-secs <heartbeat-secs>",
    "            [default: 30]",
    "",
    "        --liveness-timeout-secs <liveness-timeout-secs>",
    "            Drop the connection when the relay is silent this long",
    "",
    "        --max-in-flight <max-in-flight>",
    "            Limit on concurrently executing requests; unlimited when absent",
    "",
    "        --overflow <overflow>",
    "            What to do with requests beyond --max-in-flight [default: queue] [possible values:",
    "            queue, reject]",
    ""]

def pair : String :=
  String.intercalate "\n" [
    "relaylink-cli-pair ",
    "Store the relay URL and pairing token used by `run`",
    "",
    "USAGE:",
    "    relaylink-cli pair [OPTIONS] --relay-url <relay-url> --token <token>",
    "",
    "OPTIONS:",
    "    -c, --config <config>          Path of the JSON file holding the relay pairing [default:",
    "                                   relaylink.json]",
    "    -h, --help                     Print help information",
    "    -r, --relay-url <relay-url>    ",
    "    -t, --token <token>            ",
    ""]

def help : String :=
  String.intercalate "\n" [
    "relaylink-cli-help ",
    "Print this message or the help of the given subcommand(s)",
    "",
    "USAGE:",
    "    relaylink-cli help [SUBCOMMAND]...",
    "",
    "ARGS:",
    "    <SUBCOMMAND>...    The subcommand whose help message to display",
    ""]

end Tunnel.CommandLine.Page
