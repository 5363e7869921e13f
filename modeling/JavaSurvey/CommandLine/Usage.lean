set_option autoImplicit false

namespace JavaSurvey.CommandLine

def usageLines : List String :=
  ["usage: code-analyzer [-h] [--min-methods MIN_METHODS] [--json JSON_OUT]",
   "                     [--no-graph] [--log-level LOG_LEVEL]",
   "                     [path]"]

def helpLines : List String :=
  ["",
   "Static analysis of a Java source tree.",
   "",
   "positional arguments:",
   "  path                  Project root (default: analyze a built-in sample)",
   "",
   "options:",
   "  -h, --help            show this help message and exit",
   "  --min-methods MIN_METHODS",
   "                        Also list classes with at least this many methods",
   "  --json JSON_OUT       Write the full result as JSON to this file ('-' for",
   "                        stdout)",
   "  --no-graph            Do not list every call graph edge",
   "  --log-level LOG_LEVEL",
   "                        loguru level (default: from environment or INFO)"]

def unlines (ls : List String) : String := String.join (ls.map (· ++ "\n"))

def usage : String := unlines usageLines

def help : String := unlines (usageLines ++ helpLines)

end JavaSurvey.CommandLine
