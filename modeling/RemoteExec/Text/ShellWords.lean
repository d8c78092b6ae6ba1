namespace RemoteExec.Text.ShellWords

def isSeparator (c : Char) : Bool := c == ' ' || c == '\t' || c == '\n'

inductive Mode where
  | gap
  | comment
  | plain
  | escaped
  | single
  | double
  | doubleEscaped
deriving DecidableEq

structure Reader where
  words : List (List Char)
  word : List Char
  mode : Mode

def Reader.bare (r : Reader) (c : Char) : Reader :=
  if c == '"' then { r with mode := .double }
  else if c == '\'' then { r with mode := .single }
  else if c == '\\' then { r with mode := .escaped }
  else if isSeparator c then ⟨r.word.reverse :: r.words, [], .gap⟩
  else ⟨r.words, c :: r.word, .plain⟩

def Reader.step (r : Reader) (c : Char) : Reader :=
  match r.mode with
  | .gap =>
    if isSeparator c then r
    else if c == '#' then { r with mode := .comment }
    else r.bare c
  | .comment => if c == '\n' then { r with mode := .gap } else r
  | .plain => r.bare c
  | .escaped => if c == '\n' then { r with mode := .plain } else ⟨r.words, c :: r.word, .plain⟩
  | .single => if c == '\'' then { r with mode := .plain } else { r with word := c :: r.word }
  | .double =>
    if c == '"' then { r with mode := .plain }
    else if c == '\\' then { r with mode := .doubleEscaped }
    else { r with word := c :: r.word }
  | .doubleEscaped =>
    if c == '$' || c == '\x60' || c == '"' || c == '\\' then ⟨r.words, c :: r.word, .double⟩
    else if c == '\n' then { r with mode := .double }
    else ⟨r.words, c :: '\\' :: r.word, .double⟩

def Reader.finish (r : Reader) : Option (List (List Char)) :=
  match r.mode with
  | .gap | .comment => some r.words.reverse
  | .plain => some (r.word.reverse :: r.words).reverse
  | _ => none

def split (s : List Char) : Option (List (List Char)) := (s.foldl Reader.step ⟨[], [], .gap⟩).finish

def escape : List Char → List Char
  | [] => []
  | c :: rest => if c = '\'' then '\'' :: '"' :: '\'' :: '"' :: '\'' :: escape rest else c :: escape rest

end RemoteExec.Text.ShellWords

namespace String

def shellWords? (s : String) : Option (List String) :=
  (RemoteExec.Text.ShellWords.split s.toList).map fun ws => ws.map String.ofList

def shellEscaped (s : String) : String := String.ofList (RemoteExec.Text.ShellWords.escape s.toList)

end String
