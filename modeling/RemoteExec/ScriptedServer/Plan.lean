import RemoteExec.Bytes.Replace
import RemoteExec.Keys.PublicKey

namespace RemoteExec.ScriptedServer

inductive Piece where
  | out (b : Bytes)
  | extended (code : Nat) (b : Bytes)
  | status (n : Nat)
  | signal
  | eof

-- Sent once the channel has had so many bytes of input in all.
structure Reply where
  after : Nat
  pieces : List Piece

structure Command where
  refuse : Bool
  replies : List Reply
  stay : Bool
deriving Inhabited

structure Questions where
  rounds : List (List String)
  accept : Bool

structure Plan where
  hostKeys : List PublicKey
  password : Option String
  keys : List String
  questions : Option Questions
  refusedChannels : List Nat
  commands : List (String × Command)
  denied : List String

def nonceFrom? : List Char → Option String
  | [] => none
  | c :: rest =>
    let mark := "BECOME-SUCCESS-".toList
    let digits := ((c :: rest).drop mark.length).take 32
    if mark.isPrefixOf (c :: rest) && digits.length == 32 && digits.all Char.isAlphanum then
      some (String.ofList digits)
    else nonceFrom? rest

def nonceName : String := "NONCE"

def Piece.fill (nonce : String) : Piece → Piece
  | .out b => .out (filled b)
  | .extended code b => .extended code (if code = 1 then filled b else b)
  | p => p
where
  filled (b : Bytes) : Bytes :=
    Bytes.replace (Bytes.ofString ("\x7b" ++ nonceName ++ "\x7d")) (Bytes.ofString nonce) b

def Reply.fill (nonce : String) (r : Reply) : Reply := { r with pieces := r.pieces.map (Piece.fill nonce) }

namespace Plan

def find (p : Plan) (text : String) : Command :=
  match p.commands.find? (·.1 == text) <|> p.commands.find? (·.1 == "*") with
  | some (_, c) => c
  | none => ⟨false, [], false⟩

def command (p : Plan) (text : String) : Command :=
  match nonceFrom? text.toList with
  | none => p.find text
  | some nonce =>
    let c := p.find (text.replace nonce nonceName)
    { c with replies := c.replies.map (Reply.fill nonce) }

end Plan
end RemoteExec.ScriptedServer
