/-!
White space, trimming, and cutting a text into words and lines. The class is Unicode's `White_Space`.
-/
namespace RemoteExec.Text

def isBlank (c : Char) : Bool :=
  let n := c.toNat
  (9 ≤ n && n ≤ 13) || n == 0x20 || n == 0x85 || n == 0xA0 || n == 0x1680 ||
    (0x2000 ≤ n && n ≤ 0x200A) || n == 0x2028 || n == 0x2029 || n == 0x202F || n == 0x205F || n == 0x3000

def trimLeft (s : List Char) : List Char := s.dropWhile isBlank

def trimRight (s : List Char) : List Char := (s.reverse.dropWhile isBlank).reverse

def trim (s : List Char) : List Char := trimRight (trimLeft s)

def words (s : List Char) : List (List Char) :=
  let step := fun (done : List (List Char) × List Char) c =>
    if isBlank c then (if done.2.isEmpty then done.1 else done.2.reverse :: done.1, [])
    else (done.1, c :: done.2)
  let (ws, w) := s.foldl step ([], [])
  (if w.isEmpty then ws else w.reverse :: ws).reverse

def chomp (line : List Char) : List Char :=
  match line.reverse with
  | '\r' :: r => r.reverse
  | _ => line

def lines (s : List Char) : List (List Char) :=
  let step := fun (done : List (List Char) × List Char) c =>
    if c == '\n' then (chomp done.2.reverse :: done.1, []) else (done.1, c :: done.2)
  let (ls, l) := s.foldl step ([], [])
  (if l.isEmpty then ls else l.reverse :: ls).reverse

def asciiLower (c : Char) : Char := if 'A' ≤ c ∧ c ≤ 'Z' then Char.ofNat (c.toNat + 32) else c

def sameWord (a b : List Char) : Bool := a.map asciiLower == b.map asciiLower

def contains (needle : List Char) : List Char → Bool
  | [] => needle.isEmpty
  | c :: rest => needle.isPrefixOf (c :: rest) || contains needle rest

def splitOn (sep : Char) (s : List Char) : List (List Char) :=
  let (fs, f) := s.foldl
    (fun (done : List (List Char) × List Char) c =>
      if c == sep then (done.2.reverse :: done.1, []) else (done.1, c :: done.2)) ([], [])
  (f.reverse :: fs).reverse

end RemoteExec.Text

namespace String

def trimBlanks (s : String) : String := String.ofList (RemoteExec.Text.trim s.toList)

def trimBlanksRight (s : String) : String := String.ofList (RemoteExec.Text.trimRight s.toList)

end String
