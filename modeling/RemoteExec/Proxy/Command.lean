import RemoteExec.Log
import RemoteExec.Options
import RemoteExec.Proxy.Placeholders
import RemoteExec.Text.ShellWords

namespace RemoteExec.Proxy

def keyword : List Char := "proxycommand".toList

-- The value that starts after blanks, at least `least` of them, up to the end of the line. If only
-- blanks are left, the last of them that is no line feed is the value.
def valueAfterBlanks (least : Nat) (s : List Char) : Option (List Char) :=
  let blanks := s.takeWhile Text.isBlank
  let rest := s.dropWhile Text.isBlank
  if !rest.isEmpty && least ≤ blanks.length then some (rest.takeWhile (· != '\n'))
  else ((blanks.drop least).filter (· != '\n')).getLast?.map ([·])

def settingValue? (word : List Char) : Option (List Char) :=
  if Text.sameWord (word.take keyword.length) keyword then
    let rest := word.drop keyword.length
    let assigned := match rest.dropWhile Text.isBlank with
      | '=' :: r => valueAfterBlanks 0 r
      | _ => none
    assigned <|> valueAfterBlanks 1 rest
  else none

def settingAt? : List (List Char) → Option (List Char × List (List Char))
  | [] => none
  | word :: rest =>
    if Text.sameWord word keyword then
      match rest with
      | value :: rest => some (value, rest)
      | [] => none
    else (settingValue? word).map (·, rest)

def startsFlag (word : List Char) : Bool := word.head? == some '-'

def extended (value : List Char) (rest : List (List Char)) : List Char :=
  [' '].intercalate (value :: rest.takeWhile (!startsFlag ·))

def findSetting : List (List Char) → Option (List Char)
  | [] => none
  | word :: rest =>
    match settingAt? (word :: rest) with
    | some (value, after) =>
      let command := extended value after
      if command.all Text.isBlank then findSetting rest else some command
    | none => findSetting rest

def deprecation : String :=
  "The ssh_*_args options are deprecated and will be removed in a release after 2026-01-01. Please use the proxy_command option instead."

def findInArguments (arguments : String) : Option String × List Event :=
  match Text.ShellWords.split arguments.toList with
  | some words => ((findSetting words).map String.ofList, [])
  | none => (none, [⟨.warn, "Could not parse ssh arguments (unbalanced quotes): " ++ arguments⟩])

def arguments (o : Options) : List String :=
  [o.sshExtraArgs.getD "", o.sshCommonArgs.getD "", o.sshArgs.getD ""]

def resolve (o : Options) (route : Route) : Option String × List Event :=
  let old := (arguments o).any (!·.isEmpty)
  let (found, events) := if old then findInArguments (" ".intercalate (arguments o)) else (none, [])
  match (found <|> o.proxyCommand).filter (!·.isEmpty) with
  | none => (none, events)
  | some template =>
    let command := substitute template route
    (some command, events ++ (if old then [⟨.warn, deprecation⟩] else []) ++
      [⟨.debug, "Resolved proxy command: " ++ command⟩])

end RemoteExec.Proxy
