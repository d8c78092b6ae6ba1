import RemoteExec.CommandLine.Usage
import RemoteExec.Environment

namespace RemoteExec.CommandLine.Help

structure Row where
  label : String
  about : String

def spaces (n : Nat) : String := String.ofList (List.replicate n ' ')

def lineWidth : Nat := 100

def beside (rows : List Row) : String :=
  let width := (rows.map fun r => r.label.length).foldl max 0
  "\n".intercalate (rows.map fun r => "  " ++ r.label ++ spaces (width - r.label.length + 2) ++ r.about)

def below (rows : List Row) : String :=
  "\n".intercalate (rows.map fun r => "  " ++ r.label ++ "\n" ++ spaces 10 ++ r.about)

def overflows (rows : List Row) : Bool :=
  let taken := (rows.map fun r => r.label.length).foldl max 0 + 8
  2 * lineWidth < 5 * taken && rows.any fun r => lineWidth < taken + r.about.length

def optionRows (rows : List Row) : String := if overflows rows then below rows else beside rows

def placeholder (name : String) : String :=
  "<" ++ String.ofList (name.toList.map fun c => if c == '-' then '_' else c.toUpper) ++ ">"

def takesValue (o : OptionSpec) : Bool :=
  match o.form with
  | .value _ => true
  | .anyValue => true
  | _ => false

def label (o : OptionSpec) : String :=
  let letter := match o.letter with
    | some c => "-" ++ String.ofList [c] ++ ", "
    | none => "    "
  letter ++ "--" ++ o.name ++
    (if takesValue o then " " ++ placeholder o.name else if o.form == .count then "..." else "")

def variableNote (env : Environment) (o : OptionSpec) : List String :=
  match o.envName with
  | none => []
  | some name => ["[env: " ++ name ++ (if o.secret then "" else "=" ++ (env.get? name).getD "") ++ "]"]

def defaultNote (o : OptionSpec) : List String := (o.default.map fun d => "[default: " ++ d ++ "]").toList

def optionRow (env : Environment) (o : OptionSpec) : Row :=
  ⟨label o, " ".intercalate (o.about :: variableNote env o ++ defaultNote o)⟩

def helpRow : Row := ⟨"-h, --help", "Print help"⟩

def versionRow : Row := ⟨"-V, --version", "Print version"⟩

def commandRows : List Row :=
  (commands.map fun c => ⟨c.name, c.about⟩) ++
    [⟨"help", "Print this message or the help of the given subcommand(s)"⟩]

def titled (title body : String) : String := "\n\n" ++ title ++ ":\n" ++ body

def withoutBlanksAtEnd (s : String) : String :=
  String.ofList (s.toList.reverse.dropWhile fun c => c == ' ' || c == '\n').reverse

def ofCommand (env : Environment) (c : CommandSpec) (path : String) : String :=
  let arguments := c.arguments.map fun (name, _, about) => Row.mk (placeholder name) about
  let usage := path ++ (if c.options.isEmpty then "" else " [OPTIONS]") ++
    String.join (arguments.map fun r => " " ++ r.label) ++ (if c.subcommands.isEmpty then "" else " <COMMAND>")
  let rows := c.options.map (optionRow env) ++ [helpRow] ++ (if c.hasVersion then [versionRow] else [])
  withoutBlanksAtEnd (c.about ++ "\n\nUsage: " ++ usage ++
    (if c.subcommands.isEmpty then "" else titled "Commands" (beside commandRows)) ++
    (if arguments.isEmpty then "" else titled "Arguments" (beside arguments)) ++
    titled "Options" (optionRows rows)) ++ "\n"

def ofHelp : String :=
  "Print this message or the help of the given subcommand(s)\n\nUsage: " ++ top.name ++ " help [COMMAND]..." ++
    titled "Arguments" (beside [⟨"[COMMAND]...", "Print help for the subcommand(s)"⟩]) ++ "\n"

def text (env : Environment) (topic : Option String) : String :=
  match topic with
  | none => ofCommand env top top.name
  | some name =>
    match commands.find? fun c => c.name == name with
    | some c => ofCommand env c (top.name ++ " " ++ name)
    | none => ofHelp

end RemoteExec.CommandLine.Help
