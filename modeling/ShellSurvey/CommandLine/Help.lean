namespace ShellSurvey.Help

/-- How to call it. The program as a whole. -/
def rootUsage : List String :=
  ["usage: shsniff [-h] [--version] [-v] \x7bfind,dump,lint,advise\x7d ..."]

/-- What its arguments mean. The program as a whole. -/
def rootDetails : List String :=
  ["",
    "Identify and lint shell scripts.",
    "",
    "positional arguments:",
    "  \x7bfind,dump,lint,advise\x7d",
    "    find                Print the paths of shell scripts.",
    "    dump                Print classification records as JSON.",
    "    lint                Lint shell scripts for portability, safety and",
    "                        security.",
    "    advise              Suggest rewriting POSIX shell scripts in a general",
    "                        purpose language.",
    "",
    "options:",
    "  -h, --help            show this help message and exit",
    "  --version             show program's version number and exit",
    "  -v, --verbose         Enable debug logging."]

/-- How to call it. The command that finds scripts. -/
def findUsage : List String :=
  ["usage: shsniff find [-h] [--ignore-file IGNORE_FILE] [--sh | --alt]",
    "                    [--exclude-interpreters EXCLUDE_INTERPRETERS] [--print0]",
    "                    [paths ...]"]

/-- What its arguments mean. The command that finds scripts. -/
def findDetails : List String :=
  ["",
    "positional arguments:",
    "  paths                 Files or directories to scan (default: current",
    "                        directory).",
    "",
    "options:",
    "  -h, --help            show this help message and exit",
    "  --ignore-file IGNORE_FILE",
    "                        Extra gitignore-style patterns of paths to skip.",
    "  --sh                  Limit results to specifically bare POSIX sh scripts.",
    "  --alt                 Limit results to alternative, non-POSIX low level",
    "                        shell scripts.",
    "  --exclude-interpreters EXCLUDE_INTERPRETERS",
    "                        Remove results with the given interpreter(s) (comma",
    "                        separated).",
    "  --print0              Delimit results with a null terminator for xargs -0."]

/-- How to call it. The command that dumps records. -/
def dumpUsage : List String :=
  ["usage: shsniff dump [-h] [--ignore-file IGNORE_FILE] [--pretty] [--eol] [--cr]",
    "                    [paths ...]"]

/-- What its arguments mean. The command that dumps records. -/
def dumpDetails : List String :=
  ["",
    "positional arguments:",
    "  paths                 Files or directories to scan (default: current",
    "                        directory).",
    "",
    "options:",
    "  -h, --help            show this help message and exit",
    "  --ignore-file IGNORE_FILE",
    "                        Extra gitignore-style patterns of paths to skip.",
    "  --pretty              Prettyprint records.",
    "  --eol                 Report presence/absence of a final end of line",
    "                        sequence.",
    "  --cr                  Report presence/absence of any CR/CRLF."]

/-- How to call it. The command that lints scripts. -/
def lintUsage : List String :=
  ["usage: shsniff lint [-h] [--ignore-file IGNORE_FILE] [--no-eol] [--no-cr]",
    "                    [--modulino]",
    "                    [paths ...]"]

/-- What its arguments mean. The command that lints scripts. -/
def lintDetails : List String :=
  ["",
    "positional arguments:",
    "  paths                 Files or directories to scan (default: current",
    "                        directory).",
    "",
    "options:",
    "  -h, --help            show this help message and exit",
    "  --ignore-file IGNORE_FILE",
    "                        Extra gitignore-style patterns of paths to skip.",
    "  --no-eol              Skip the final end of line check.",
    "  --no-cr               Skip the CR/CRLF check.",
    "  --modulino            Enforce strict separation of application scripts vs.",
    "                        library scripts."]

/-- How to call it. The command that gives advice. -/
def adviseUsage : List String :=
  ["usage: shsniff advise [-h] [--ignore-file IGNORE_FILE] [paths ...]"]

/-- What its arguments mean. The command that gives advice. -/
def adviseDetails : List String :=
  ["",
    "positional arguments:",
    "  paths                 Files or directories to scan (default: current",
    "                        directory).",
    "",
    "options:",
    "  -h, --help            show this help message and exit",
    "  --ignore-file IGNORE_FILE",
    "                        Extra gitignore-style patterns of paths to skip."]

end ShellSurvey.Help
