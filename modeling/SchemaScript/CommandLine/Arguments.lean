import SchemaScript.Files.Path

/-! The arguments of the program: a command, its options and the path of a diagram. An option may stand
anywhere behind the command; the value of a long one follows it or an equals sign, that of a short one
follows it at once or as the next argument. Behind two hyphens there are no options. Of an option
given more than once the last one counts. A path with a null character is no path. -/

namespace SchemaScript.CommandLine

inductive Verb where
  | toCanonical | toDialect | check
  deriving DecidableEq, Repr

inductive Setting where
  | out (path : String)
  | logLevel (name : String)
  | dialect (name : String)
  | widen (on : Bool)
  | untilStable
  | fallback
  | help
  deriving DecidableEq, Repr

/-- What an option does: it sets something, or takes a value first. -/
inductive Effect where
  | sets (s : Setting)
  | takes (s : String → Setting)

namespace Verb

def parse? : String → Option Verb
  | "export" => some toCanonical
  | "adapt" => some toDialect
  | "check" => some check
  | _ => none

def longOptions : Verb → List (String × Effect)
  | toCanonical =>
    [("--out", .takes .out), ("--align", .sets (.widen true)), ("--no-align", .sets (.widen false)),
      ("--until-stable", .sets .untilStable), ("--log-level", .takes .logLevel),
      ("--help", .sets .help)]
  | toDialect =>
    [("--dialect", .takes .dialect), ("--out", .takes .out), ("--fallback", .sets .fallback),
      ("--until-stable", .sets .untilStable), ("--log-level", .takes .logLevel),
      ("--help", .sets .help)]
  | check => [("--help", .sets .help)]

def shortOptions : Verb → List (Char × Effect)
  | toCanonical => [('o', .takes .out)]
  | toDialect => [('o', .takes .out), ('d', .takes .dialect)]
  | check => []

end Verb

/-- What one argument settles, and what its next argument would. -/
abbrev Reading := List Setting × Option (String → Setting)

def readShort (v : Verb) : List Char → Option Reading
  | [] => some ([], none)
  | c :: cs =>
    match v.shortOptions.lookup c with
    | none => none
    | some (.sets s) => (readShort v cs).map fun (ss, next) => (s :: ss, next)
    | some (.takes f) => some (if cs.isEmpty then ([], some f) else ([f (String.ofList cs)], none))

/-- Reads an option; `none` if the command does not have it. -/
def readOption (v : Verb) (argument : String) : Option Reading :=
  let cs := argument.toList
  let name := cs.takeWhile (· != '=')
  match v.longOptions.lookup (String.ofList name) with
  | some (.sets s) => if name.length < cs.length then none else some ([s], none)
  | some (.takes f) =>
    if name.length < cs.length then some ([f (String.ofList (cs.drop (name.length + 1)))], none)
    else some ([], some f)
  | none => if "--".toList.isPrefixOf cs then none else readShort v (cs.drop 1)

def isOption (argument : String) : Bool := argument.toList.head? == some '-' && argument != "-"

/-- The settings and the other arguments of a command. -/
def readAll (v : Verb) : List String → Option (List Setting × List String)
  | [] => some ([], [])
  | a :: rest =>
    if a = "--" then some ([], rest)
    else if isOption a then
      match readOption v a with
      | none => none
      | some (ss, none) => (readAll v rest).map fun (more, others) => (ss ++ more, others)
      | some (ss, some f) =>
        match rest with
        | [] => none
        | value :: rest => (readAll v rest).map fun (more, others) => (ss ++ f value :: more, others)
    else (readAll v rest).map fun (ss, others) => (ss, a :: others)

structure Options where
  out : Option String
  logLevel : Option String
  dialect : Option String
  widen : Bool
  untilStable : Bool
  fallback : Bool
  deriving DecidableEq, Repr

namespace Options

def default : Options := ⟨none, none, none, true, false, false⟩

def apply (o : Options) : Setting → Options
  | .out path => { o with out := some path }
  | .logLevel name => { o with logLevel := some name }
  | .dialect name => { o with dialect := some name }
  | .widen on => { o with widen := on }
  | .untilStable => { o with untilStable := true }
  | .fallback => { o with fallback := true }
  | .help => o

def ofSettings (ss : List Setting) : Options := ss.foldl apply default

end Options

inductive Command where
  | help
  | run (v : Verb) (file : String) (o : Options)
  deriving DecidableEq, Repr

def isUnusable (path : String) : Bool := (Path.ofText path).hasNull

/-- The command of the arguments behind its name. -/
def Verb.command? (v : Verb) (arguments : List String) : Option Command :=
  match readAll v arguments with
  | none => none
  | some (ss, others) =>
    if ss.contains .help then some .help
    else
      match others with
      | [file] =>
        let o := Options.ofSettings ss
        if (file :: o.out.toList).any isUnusable then none else some (.run v file o)
      | _ => none

/-- Whether help is asked for before the command, and the arguments from the command on. -/
def readLeading : List String → Option (Bool × List String)
  | [] => some (false, [])
  | a :: rest =>
    if a = "--" then some (false, rest)
    else if a = "--help" then (readLeading rest).map fun (_, others) => (true, others)
    else if isOption a then none
    else some (false, a :: rest)

/-- The command that arguments stand for; `none` if they are no use of the program. -/
def command? (arguments : List String) : Option Command :=
  match readLeading arguments with
  | some (true, _) => some .help
  | some (false, name :: rest) => (Verb.parse? name).bind (·.command? rest)
  | _ => none

end SchemaScript.CommandLine
