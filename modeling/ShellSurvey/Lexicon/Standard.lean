import ShellSurvey.Lexicon.Basic

namespace ShellSurvey.Standard

/-- Extensions of POSIX shell scripts and of the files such shells start from. -/
def posixExtensions : List String :=
  [".ash", ".bash", ".bash4", ".bash_login", ".bash_logout", ".bash_profile", ".bashrc",
    ".bosh", ".dash", ".hsh", ".ksh", ".ksh88", ".ksh93", ".kshrc", ".mksh", ".oksh", ".pdksh",
    ".posh", ".rksh", ".sh", ".shinit", ".shrc", ".yash", ".zlogin", ".zlogout", ".zprofile",
    ".zsh", ".zshenv", ".zshrc"]

/-- Extensions of other shells, other languages, documents and media. -/
def foreignExtensions : List String :=
  [".csh", ".cshrc", ".elv", ".etsh", ".fish", ".ionrc", ".lksh", ".psh", ".rc", ".tcsh",
    ".tcshrc", ".tsh", ".ada", ".bat", ".c", ".cl", ".cmd", ".e", ".erl", ".escript", ".expect",
    ".fth", ".groovy", ".j", ".js", ".lisp", ".lua", ".mf", ".php", ".pike", ".pl", ".py",
    ".pyw", ".rb", ".rkt", ".scala", ".sf", ".txr", ".vbs", ".zkl", ".bin", ".bmp", ".conf",
    ".doc", ".docx", ".ds_store", ".exe", ".flv", ".gif", ".gitignore", ".gitkeep",
    ".gitmodules", ".jpeg", ".jpg", ".json", ".log", ".markdown", ".md", ".mov", ".mp3", ".mp4",
    ".pdf", ".png", ".properties", ".svg", ".swp", ".tiff", ".txt", ".wav", ".xml", ".yaml",
    ".yml"]

/-- Names of files that POSIX shells start from. -/
def posixFilenames : List String :=
  [".profile", "bash_login", "bash_logout", "login", "logout", "oilrc", "oshrc", "profile",
    "shinit", "shrc", "zlogin", "zlogout", "zprofile", "zshenv", "zshrc"]

/-- Names of well-known files of other kinds. -/
def foreignFilenames : List String :=
  ["changelog", "csh.login", "csh.logout", "makefile", "rc.elv", "rcrc", "readme", "tcsh.login",
    "tcsh.logout", "thumbs.db", "yshrc"]

/-- Shells that read POSIX scripts. -/
def posixInterpreters : List String :=
  ["ash", "bash", "bash4", "bosh", "dash", "hsh", "ksh", "ksh88", "ksh93", "mksh", "oil",
    "oksh", "osh", "pdksh", "posh", "rksh", "sh", "yash", "zsh"]

/-- Interpreters that read something else. -/
def foreignInterpreters : List String :=
  ["awk", "csh", "elvish", "etsh", "expect", "fish", "gawk", "ion", "jruby", "jython", "lksh",
    "lua", "node", "perl", "perl6", "php", "python", "rc", "ruby", "sed", "stash", "swift",
    "tclsh", "tcsh", "tsh", "ysh"]

/-- Extensions of files that a login or interactive shell sources. -/
def configExtensions : List String :=
  [".ashrc", ".bash_login", ".bash_logout", ".bash_profile", ".bashrc", ".cshrc", ".dashrc",
    ".fishrc", ".ionrc", ".kshrc", ".profile", ".rcrc", ".shinit", ".shrc", ".tcshrc", ".zlogin",
    ".zlogout", ".zprofile", ".zshenv", ".zshrc"]

/-- Names of files that a login or interactive shell sources. -/
def configFilenames : List String :=
  ["bash_login", "bash_logout", "csh.login", "csh.logout", "login", "logout", "oilrc", "oshrc",
    "profile", "rc.elv", "rcrc", "shinit", "shrc", "tcsh.login", "tcsh.logout", "yshrc",
    "zlogin", "zlogout", "zprofile", "zshenv", "zshrc"]

/-- The interpreter that an extension implies. -/
def extensionInterpreters : List (String × String) :=
  [(".ashrc", "ash"), (".awk", "awk"), (".bash", "bash"), (".bash_login", "bash"),
    (".bash_logout", "bash"), (".bash_profile", "bash"), (".bashrc", "bash"),
    (".bsdmakefile", "bmake"), (".csh", "csh"), (".cshrc", "csh"), (".dash", "dash"),
    (".dashrc", "dash"), (".elv", "elvish"), (".fish", "fish"), (".fishrc", "fish"),
    (".gawk", "gawk"), (".gnumakefile", "gmake"), (".hsh", "hsh"), (".ion", "ion"),
    (".ionrc", "ion"), (".ksh", "ksh"), (".ksh88", "ksh"), (".ksh93", "ksh93"),
    (".ksh93rc", "ksh93"), (".kshrc", "ksh"), (".lkshrc", "lksh"), (".lua", "lua"),
    (".makefile", "make"), (".mf", "make"), (".mksh", "mksh"), (".mkshrc", "mksh"),
    (".osh", "osh"), (".pdksh", "pdksh"), (".pdkshrc", "pdksh"), (".php", "php"),
    (".pmakefile", "pmake"), (".poshrc", "posh"), (".profile", "sh"), (".rc", "rc"),
    (".rcrc", "rc"), (".sed", "sed"), (".sh", "sh"), (".shinit", "sh"), (".shrc", "sh"),
    (".tcsh", "tcsh"), (".tcshrc", "tcsh"), (".ysh", "ysh"), (".zlogin", "zsh"),
    (".zlogout", "zsh"), (".zprofile", "zsh"), (".zsh", "zsh"), (".zshenv", "zsh"),
    (".zshprofile", "zsh"), (".zshrc", "zsh")]

/-- The interpreter that a file name implies. -/
def filenameInterpreters : List (String × String) :=
  [(".ashrc", "ash"), (".bashrc", "bash"), (".cshrc", "csh"), (".dashrc", "dash"),
    (".fishrc", "fish"), (".ionrc", "ion"), (".ksh93rc", "ksh93"), (".kshrc", "ksh"),
    (".lkshrc", "lksh"), (".login", "sh"), (".logout", "sh"), (".mkshrc", "mksh"),
    (".pdkshrc", "pdksh"), (".poshrc", "posh"), (".rcrc", "rc"), (".shinit", "sh"),
    (".shrc", "sh"), (".tcshrc", "tcsh"), (".zlogin", "zsh"), (".zlogout", "zsh"),
    (".zprofile", "zsh"), (".zshenv", "zsh"), (".zshrc", "zsh"), ("bsdmakefile", "bmake"),
    ("csh.login", "csh"), ("csh.logout", "csh"), ("gnumakefile", "gmake"), ("makefile", "make"),
    ("oilrc", "osh"), ("oshrc", "osh"), ("pmakefile", "pmake"), ("profile", "sh"),
    ("rc.elv", "elvish"), ("tcsh.login", "tcsh"), ("tcsh.logout", "tcsh"), ("yshrc", "ysh"),
    ("zlogin", "zsh"), ("zlogout", "zsh"), ("zprofile", "zsh"), ("zshenv", "zsh"),
    ("zshrc", "zsh")]

/-- Shells with the whole modern bash feature set. -/
def fullBash : List String :=
  ["bash", "bash4"]

/-- Shells of the Korn family. -/
def kornShells : List String :=
  ["ksh", "ksh88", "ksh93", "mksh", "oksh", "pdksh", "rksh"]

/-- Low level shells outside POSIX. -/
def altInterpreters : List String :=
  ["csh", "elvish", "etsh", "fish", "ion", "lksh", "rc", "tcsh", "tsh"]

/-- Extensions of scripts for such shells. -/
def altExtensions : List String :=
  [".csh", ".cshrc", ".elv", ".etsh", ".fish", ".fishrc", ".ion", ".ionrc", ".lksh", ".rc",
    ".rcrc", ".tcsh", ".tcshrc", ".tsh"]

/-- Names of files that such shells start from. -/
def altFilenames : List String :=
  ["csh.login", "csh.logout", "rc.elv"]

/-- Extensions of files that tools write, such as templates of hooks. -/
def machineExtensions : List String :=
  [".sample"]

/-- Byte order marks of the Unicode encodings. -/
def byteOrderMarks : List Bytes :=
  [[0xFE, 0xFF], [0xFF, 0xFE], [0xEF, 0xBB, 0xBF], [0xF7, 0x64, 0x4C], [0x0E, 0xFE, 0xFF],
    [0xFB, 0xEE, 0x28], [0x00, 0x00, 0xFE, 0xFF], [0xFF, 0xFE, 0x00, 0x00],
    [0x2B, 0x2F, 0x76, 0x2B], [0x2B, 0x2F, 0x76, 0x2F], [0x2B, 0x2F, 0x76, 0x38],
    [0x2B, 0x2F, 0x76, 0x39], [0xDD, 0x73, 0x66, 0x73], [0x84, 0x31, 0x95, 0x33],
    [0x2B, 0x2F, 0x76, 0x38, 0x3D]]

end ShellSurvey.Standard

namespace ShellSurvey

def verdicts (yes no : List String) : List (String × Bool) :=
  yes.map (·, true) ++ no.map (·, false)

def Lexicon.standard : Lexicon where
  extensionVerdicts := verdicts Standard.posixExtensions Standard.foreignExtensions
  filenameVerdicts := verdicts Standard.posixFilenames Standard.foreignFilenames
  interpreterVerdicts := verdicts Standard.posixInterpreters Standard.foreignInterpreters
  configExtensions := Standard.configExtensions
  configFilenames := Standard.configFilenames
  extensionInterpreters := Standard.extensionInterpreters
  filenameInterpreters := Standard.filenameInterpreters
  fullBash := Standard.fullBash
  kornShells := Standard.kornShells
  altInterpreters := Standard.altInterpreters
  altExtensions := Standard.altExtensions
  altFilenames := Standard.altFilenames
  machineExtensions := Standard.machineExtensions
  byteOrderMarks := Standard.byteOrderMarks

end ShellSurvey
