import UsingCensus.CommandLine.Basic

namespace UsingCensus.CommandLine

def usage : String :=
  "usage: usingstats [-h] [-c COUNT] [-q] [--config CONFIG] [-j MAX_WORKERS] [-v]\n" ++
  "                  [--log-file LOG_FILE]\n" ++
  "                  [path]\n"

def help : String :=
  usage ++
  "\n" ++
  "Count how often each namespace is imported across a C# project or solution, to\n" ++
  "pick candidates for global usings.\n" ++
  "\n" ++
  "positional arguments:\n" ++
  "  path                  Path to a .sln or MSBuild project file (such as\n" ++
  "                        .csproj), or a folder to search.\n" ++
  "\n" ++
  "options:\n" ++
  "  -h, --help            show this help message and exit\n" ++
  "  -c COUNT, --count COUNT\n" ++
  "                        The maximum number of results to return.\n" ++
  "  -q, --no-warn         Suppress warnings.\n" ++
  "  --config CONFIG       Configuration file (defaults to .usingstats.yml next\n" ++
  "                        to the target).\n" ++
  "  -j MAX_WORKERS, --max-workers MAX_WORKERS\n" ++
  "                        Number of threads used to parse documents.\n" ++
  "  -v, --verbose         Increase log verbosity for troubleshooting.\n" ++
  "  --log-file LOG_FILE   Also write log records to this file.\n"

def complaint (fault : UsageFault) : String := usage ++ "usingstats: error: " ++ fault.message ++ "\n"

end UsingCensus.CommandLine
