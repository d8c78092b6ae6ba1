import RemoteExec.Decimal.Reader
import RemoteExec.Environment
import RemoteExec.Files.FileSystem
import RemoteExec.Log
import RemoteExec.Text.Inspect
import RemoteExec.Text.Lowercase

namespace RemoteExec

structure HostSettings where
  hostname : Option String
  port : Option Nat
  user : Option String
  identityFiles : List String
  proxyCommand : Option String
deriving DecidableEq, Inhabited

structure HostBlock where
  patterns : List (List Char)
  directives : List (List Char × List Char)

-- The blocks of a file; the first holds what stands before any `Host` line.
abbrev ClientConfig := List HostBlock

namespace HostSettings

def none : HostSettings := ⟨Option.none, Option.none, Option.none, [], Option.none⟩

def inspect (s : HostSettings) : String :=
  Text.inspectRecord "HostSettings"
    [("hostname", Text.inspectOption (s.hostname.map Text.inspect)),
      ("port", Text.inspectOption (s.port.map toString)),
      ("user", Text.inspectOption (s.user.map Text.inspect)),
      ("identity_files", Text.inspectList (s.identityFiles.map Text.inspect)),
      ("proxy_command", Text.inspectOption (s.proxyCommand.map Text.inspect))]

end HostSettings

namespace ClientConfig

def unquoted (value : List Char) : List Char :=
  match value with
  | '"' :: inner =>
    match inner.reverse with
    | '"' :: kept => kept.reverse
    | _ => value
  | _ => value

def splitDirective (line : List Char) : Option (List Char × List Char) :=
  let isEnd := fun c => Text.isBlank c || c == '='
  let key := line.takeWhile (!isEnd ·)
  let rest := line.dropWhile (!isEnd ·)
  let value := unquoted (Text.trim ((Text.trimLeft rest).dropWhile (· == '=')))
  if rest.isEmpty || key.isEmpty || value.isEmpty then Option.none else some (key, value)

-- One more line: it opens a block, adds a directive to the last one, or says nothing. The blocks are newest first.
def readLine (blocks : List HostBlock) (line : List Char) : List HostBlock :=
  let line := Text.trim line
  if line.head? == some '#' then blocks
  else match splitDirective line with
    | Option.none => blocks
    | some (key, value) =>
      if Text.sameWord key "host".toList then ⟨Text.words value, []⟩ :: blocks
      else match blocks with
        | [] => []
        | block :: older => ⟨block.patterns, block.directives ++ [(Text.lower key, value)]⟩ :: older

def ofLines (lines : List (List Char)) : ClientConfig :=
  (lines.foldl readLine [⟨[['*']], []⟩]).reverse

def parse (content : String) : ClientConfig := ofLines (Text.lines content.toList)

def globMatches : Bytes → Bytes → Bool
  | [], [] => true
  | [], _ :: _ => false
  | p :: ps, [] => p == 42 && globMatches ps []
  | p :: ps, t :: ts =>
    if p = 42 then globMatches ps (t :: ts) || globMatches (p :: ps) ts
    else (p == 63 || p == t) && globMatches ps ts
termination_by p t => p.length + t.length

def patternMatches (pattern host : List Char) : Bool :=
  globMatches (Bytes.ofString (String.ofList pattern)) (Bytes.ofString (String.ofList host))

def negated? (pattern : List Char) : Option (List Char) :=
  match pattern with
  | '!' :: p => some p
  | _ => Option.none

def hostMatches (patterns : List (List Char)) (host : List Char) : Bool :=
  let host := Text.lower host
  let (vetoes, picks) := (patterns.map Text.lower).partition fun p => (negated? p).isSome
  picks.any (patternMatches · host) && !vetoes.any fun p => patternMatches p.tail host

def expandTilde (env : Environment) (value : List Char) : String :=
  match value, env.home? with
  | '~' :: '/' :: rest, some home => Path.join home (String.ofList rest)
  | _, _ => String.ofList value

def fillHost (host : List Char) : List Char → List Char
  | '%' :: 'h' :: rest => host ++ fillHost host rest
  | c :: rest => c :: fillHost host rest
  | [] => []

def apply (env : Environment) (host : List Char) (s : HostSettings) (d : List Char × List Char) : HostSettings :=
  let key := String.ofList d.1
  let value := String.ofList d.2
  if key == "hostname" then
    { s with hostname := s.hostname <|> some (String.ofList (fillHost host d.2)) }
  else if key == "port" then { s with port := s.port <|> Decimal.readNat? 65535 d.2 }
  else if key == "user" then { s with user := s.user <|> some value }
  else if key == "identityfile" then { s with identityFiles := s.identityFiles ++ [expandTilde env d.2] }
  else if key == "proxycommand" then
    { s with proxyCommand := s.proxyCommand <|> (if Text.sameWord d.2 "none".toList then Option.none else some value) }
  else s

def directivesFor (config : ClientConfig) (host : List Char) : List (List Char × List Char) :=
  (config.filter fun b => hostMatches b.patterns host).flatMap HostBlock.directives

def resolve (env : Environment) (config : ClientConfig) (host : String) : HostSettings :=
  (directivesFor config host.toList).foldl (apply env host.toList) HostSettings.none

def load (fs : FileSystem) (path : String) : Except Failure ClientConfig × List Event :=
  match fs.readText path with
  | .ok content => (.ok (parse content), [])
  | .error e =>
    if e.kind = .notFound then (.ok (parse ""), [⟨.debug, "SSH config " ++ path ++ " not found"⟩])
    else (.error (.io e), [])

end ClientConfig
end RemoteExec
