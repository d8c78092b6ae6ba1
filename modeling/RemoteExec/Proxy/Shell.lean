import RemoteExec.Duration
import RemoteExec.Environment
import RemoteExec.Text.Blank
/-!
What a proxy command does when a shell runs it: as much of the shell's language as such commands use.
A command line is a sequence of simple commands; words are quoted, and stand-ins for variables and for
the output of `echo` are filled in.
-/
namespace RemoteExec.Proxy.Shell

inductive Condition where
  | always
  | success
  | failure
deriving DecidableEq, Inhabited

structure Simple where
  condition : Condition
  words : List String
deriving Inhabited

structure Reader where
  commands : List Simple
  condition : Condition
  words : List String
  word : Option (List Char)
  redirects : Bool

namespace Reader

def initial : Reader := ⟨[], .always, [], none, false⟩

def push (r : Reader) (c : Char) : Reader := { r with word := some (c :: r.word.getD []) }

def pushAll (r : Reader) (cs : List Char) : Reader := cs.foldl push { r with word := some (r.word.getD []) }

def endWord (r : Reader) : Reader :=
  match r.word with
  | none => r
  | some w =>
    if r.redirects then { r with word := none, redirects := false }
    else { r with words := String.ofList w.reverse :: r.words, word := none }

def endCommand (r : Reader) (next : Condition) : Reader :=
  let r := r.endWord
  if r.words.isEmpty then { r with condition := next }
  else ⟨⟨r.condition, r.words.reverse⟩ :: r.commands, next, [], none, false⟩

def fill (r : Reader) (cs : List Char) : Reader :=
  cs.foldl (fun r c => if Text.isBlank c then r.endWord else r.push c) r

def redirect (r : Reader) : Reader :=
  let number := match r.word with
    | some w => w.all Char.isDigit
    | none => true
  { (if number then { r with word := none } else r.endWord) with redirects := true }

end Reader

def isNameChar (c : Char) : Bool := c.isAlphanum || c == '_'

def printed (words : List String) : String :=
  match words with
  | "echo" :: rest => " ".intercalate rest
  | _ => ""

def valueOf (env : Environment) (name : List Char) : List Char := ((env.get? (String.ofList name)).getD "").toList

def dollar (env : Environment) (run : List Char → List Char) (s : List Char) : List Char × List Char :=
  match s with
  | '(' :: rest => (run (rest.takeWhile (· != ')')), (rest.dropWhile (· != ')')).drop 1)
  | '\x7b' :: rest =>
    (valueOf env (rest.takeWhile (· != '\x7d')), (rest.dropWhile (· != '\x7d')).drop 1)
  | c :: _ =>
    if isNameChar c then (valueOf env (s.takeWhile isNameChar), s.dropWhile isNameChar) else (['$'], s)
  | [] => (['$'], [])

inductive Quotes where
  | no
  | double
deriving DecidableEq

-- Reads a command line; `none` if a quote stays open. Each unit of `fuel` stands for a character.
def read (env : Environment) : Nat → Quotes → List Char → Reader → Option Reader
  | 0, _, _, r => some r
  | _ + 1, .no, [], r => some (r.endCommand .always)
  | _ + 1, .double, [], _ => none
  | fuel + 1, .double, c :: rest, r =>
    let run := fun inside => inner env fuel inside
    if c == '"' then read env fuel .no rest { r with word := some (r.word.getD []) }
    else if c == '\x60' then
      read env fuel .double ((rest.dropWhile (· != '\x60')).drop 1) (r.pushAll (run (rest.takeWhile (· != '\x60'))))
    else if c == '$' then
      let (text, after) := dollar env run rest
      read env fuel .double after (r.pushAll text)
    else if c == '\\' then
      match rest with
      | d :: after =>
        if d == '$' || d == '\x60' || d == '"' || d == '\\' then read env fuel .double after (r.push d)
        else if d == '\n' then read env fuel .double after r
        else read env fuel .double after ((r.push c).push d)
      | [] => none
    else read env fuel .double rest (r.push c)
  | fuel + 1, .no, c :: rest, r =>
    let run := fun inside => inner env fuel inside
    if c == '\'' then
      let inside := rest.takeWhile (· != '\'')
      match rest.dropWhile (· != '\'') with
      | _ :: after => read env fuel .no after (r.pushAll inside)
      | [] => none
    else if c == '"' then read env fuel .double rest { r with word := some (r.word.getD []) }
    else if c == '\\' then
      match rest with
      | d :: after => read env fuel .no after (if d == '\n' then r else r.push d)
      | [] => read env fuel .no [] (r.push c)
    else if c == '\x60' then
      read env fuel .no ((rest.dropWhile (· != '\x60')).drop 1) (r.fill (run (rest.takeWhile (· != '\x60'))))
    else if c == '$' then
      let (text, after) := dollar env run rest
      read env fuel .no after (r.fill text)
    else if c == '&' || c == '|' || c == ';' || c == '\n' then
      let doubled := (c == '&' || c == '|') && rest.head? == some c
      let next := if !doubled then Condition.always else if c == '&' then Condition.success else Condition.failure
      read env fuel .no (if doubled then rest.drop 1 else rest) (r.endCommand next)
    else if c == '>' || c == '<' then
      read env fuel .no (rest.dropWhile fun d => d == '>' || d == '&') r.redirect
    else if c == '#' && r.word.isNone then read env fuel .no (rest.dropWhile (· != '\n')) r
    else if c == ' ' || c == '\t' then read env fuel .no rest r.endWord
    else read env fuel .no rest (r.push c)
where
  inner (env : Environment) : Nat → List Char → List Char
    | 0, _ => []
    | fuel + 1, s =>
      match read env fuel .no s Reader.initial with
      | none => []
      | some r => ("\n".intercalate (r.commands.reverse.map fun c => printed c.words)).toList

def parse? (env : Environment) (line : String) : Option (List Simple) :=
  (read env (line.length + 2) .no line.toList Reader.initial).map fun r => r.commands.reverse

inductive Outcome where
  | reaches (arguments : List String) (after : Nat)
  | ends (after : Nat)
deriving Inhabited

def nanoseconds (text : String) : Nat :=
  match Text.splitOn '.' text.toList with
  | [whole] => ((String.ofList whole).toNat?.getD 0) * Duration.nanosPerSecond
  | [whole, part] =>
    let part := (part ++ List.replicate 9 '0').take 9
    ((String.ofList whole).toNat?.getD 0) * Duration.nanosPerSecond + (String.ofList part).toNat?.getD 0
  | _ => 0

inductive Effect where
  | goesOn (succeeded : Bool) (after : Nat)
  | reaches (arguments : List String)

def effect (bridge : String) (after : Nat) : List String → Effect
  | "sleep" :: time :: _ => .goesOn true (after + nanoseconds time)
  | "true" :: _ => .goesOn true after
  | ":" :: _ => .goesOn true after
  | "echo" :: _ => .goesOn true after
  | [] => .goesOn true after
  | program :: arguments => if program == bridge then .reaches arguments else .goesOn false after

def Condition.holds (succeeded : Bool) : Condition → Bool
  | .always => true
  | .success => succeeded
  | .failure => !succeeded

def runAll (bridge : String) (succeeded : Bool) (after : Nat) : List Simple → Outcome
  | [] => .ends after
  | c :: rest =>
    if c.condition.holds succeeded then
      let replaces := c.words.head? == some "exec"
      match effect bridge after (if replaces then c.words.drop 1 else c.words) with
      | .reaches arguments => .reaches arguments after
      | .goesOn ok after => if replaces then .ends after else runAll bridge ok after rest
    else runAll bridge succeeded after rest

def run (env : Environment) (bridge line : String) : Outcome :=
  match parse? env line with
  | none => .ends 0
  | some commands => runAll bridge true 0 commands

end RemoteExec.Proxy.Shell
