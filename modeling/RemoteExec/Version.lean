namespace RemoteExec

structure Version where
  major : Nat
  minor : Nat
  patch : Nat
deriving DecidableEq, Inhabited

namespace Version

def text (v : Version) : String := toString v.major ++ "." ++ toString v.minor ++ "." ++ toString v.patch

def compare (a b : Version) : Ordering :=
  (Ord.compare a.major b.major).then ((Ord.compare a.minor b.minor).then (Ord.compare a.patch b.patch))

def atLeast (a b : Version) : Bool := (compare a b).isGE

def passwordPrompt : Version := ⟨1, 0, 0⟩

end Version
end RemoteExec
