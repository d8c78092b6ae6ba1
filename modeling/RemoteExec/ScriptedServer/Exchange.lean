import RemoteExec.Client.Server
import RemoteExec.Crypto.Blocks
import RemoteExec.ScriptedServer.Plan

namespace RemoteExec.ScriptedServer

structure Exchange where
  received : Bytes
  waiting : List Reply
  stay : Bool
  running : Bool
  -- How much input the last reply that sent anything had waited for.
  waitedFor : Nat
deriving Inhabited

namespace Exchange

def fresh : Exchange := ⟨[], [], false, false, 0⟩

def packetSize : Nat := 32768

def packets (b : Bytes) : List Bytes := Bytes.chunks packetSize b.length b

def messages : Piece → List Message
  | .out b => (packets b).map .data
  | .extended code b => (packets b).map (.extended code)
  | .status n => [.exitStatus n]
  | .signal => [.other]
  | .eof => [.eof]

def playFrom (e : Exchange) : List Reply → List Message × Exchange
  | [] =>
    (if e.running && !e.stay then [.close] else [], { e with waiting := [], running := false })
  | r :: rest =>
    if r.after ≤ e.received.length then
      let e := if r.pieces.isEmpty then e else { e with waitedFor := r.after }
      let (more, e) := playFrom e rest
      (r.pieces.flatMap messages ++ more, e)
    else ([], { e with waiting := r :: rest })

def play (e : Exchange) : List Message × Exchange := if e.running then e.playFrom e.waiting else ([], e)

def run (e : Exchange) (c : Command) : List Message × Exchange :=
  let (ms, e) := play { e with waiting := c.replies, stay := c.stay, running := true }
  (.other :: ms, e)

def input (e : Exchange) (b : Bytes) : List Message × Exchange := play { e with received := e.received ++ b }

def pieceSize : Piece → Nat
  | .out b => b.length
  | .extended _ b => b.length
  | _ => 0

def unsent (e : Exchange) : Nat := e.waiting.foldr (fun r n => r.pieces.foldr (fun p n => pieceSize p + n) n) 0

end Exchange
end RemoteExec.ScriptedServer
