import Mathlib.Data.List.Basic
import RemoteExec.Text.ShellWords

namespace RemoteExec.Text.ShellWords

structure Inert (c : Char) : Prop where
  double : c ≠ '"'
  single : c ≠ '\''
  escape : c ≠ '\\'
  joined : isSeparator c = false

theorem inert_iff (c : Char) : Inert c ↔ c ≠ '"' ∧ c ≠ '\'' ∧ c ≠ '\\' ∧ isSeparator c = false :=
  ⟨fun h => ⟨h.double, h.single, h.escape, h.joined⟩, fun ⟨double, single, escape, joined⟩ =>
    ⟨double, single, escape, joined⟩⟩

instance : DecidablePred Inert := fun c => decidable_of_iff _ (inert_iff c).symm

-- A word that needs no quotes. Where a word begins, `#` begins a comment.
structure Plain (w : List Char) : Prop where
  inhabited : w ≠ []
  uncommented : w.head? ≠ some '#'
  inert : ∀ c ∈ w, Inert c

theorem plain_iff (w : List Char) : Plain w ↔ w ≠ [] ∧ w.head? ≠ some '#' ∧ ∀ c ∈ w, Inert c :=
  ⟨fun h => ⟨h.inhabited, h.uncommented, h.inert⟩, fun ⟨inhabited, uncommented, inert⟩ =>
    ⟨inhabited, uncommented, inert⟩⟩

instance : DecidablePred Plain := fun w =>
  haveI : Decidable (∀ c ∈ w, Inert c) := List.decidableBAll Inert w
  decidable_of_iff _ (plain_iff w).symm

theorem Plain.append {w rest : List Char} (plain : Plain w) (inert : ∀ c ∈ rest, Inert c) : Plain (w ++ rest) := by
  refine ⟨List.append_ne_nil_of_left_ne_nil plain.inhabited rest, ?_, List.forall_mem_append.mpr ⟨plain.inert, inert⟩⟩
  rw [List.head?_append_of_ne_nil _ plain.inhabited]
  exact plain.uncommented

section Reading

variable (words : List (List Char)) (word : List Char)

theorem step_separator {c : Char} (separates : isSeparator c = true) :
    Reader.step ⟨words, [], .gap⟩ c = ⟨words, [], .gap⟩ := by
  simp [Reader.step, separates]

theorem step_ending {c : Char} (separates : isSeparator c = true) :
    Reader.step ⟨words, word, .plain⟩ c = ⟨word.reverse :: words, [], .gap⟩ := by
  have apart : c ≠ '"' ∧ c ≠ '\'' ∧ c ≠ '\\' := by
    refine ⟨?_, ?_, ?_⟩ <;> rintro rfl <;> exact absurd separates (by decide)
  simp [Reader.step, Reader.bare, separates, apart]

theorem step_inert {c : Char} (inert : Inert c) :
    Reader.step ⟨words, word, .plain⟩ c = ⟨words, c :: word, .plain⟩ := by
  simp [Reader.step, Reader.bare, inert.double, inert.single, inert.escape, inert.joined]

theorem step_first {c : Char} (inert : Inert c) (uncommented : c ≠ '#') :
    Reader.step ⟨words, [], .gap⟩ c = ⟨words, [c], .plain⟩ := by
  simp [Reader.step, Reader.bare, inert.double, inert.single, inert.escape, inert.joined, uncommented]

theorem foldl_inert {w : List Char} (inert : ∀ c ∈ w, Inert c) :
    w.foldl Reader.step ⟨words, word, .plain⟩ = ⟨words, w.reverse ++ word, .plain⟩ := by
  induction w generalizing word with
  | nil => rfl
  | cons c rest ih =>
      rw [List.foldl_cons, step_inert words word (inert c List.mem_cons_self),
        ih (c :: word) fun d member => inert d (List.mem_cons_of_mem _ member)]
      simp

theorem foldl_plain {w : List Char} (plain : Plain w) :
    w.foldl Reader.step ⟨words, [], .gap⟩ = ⟨words, w.reverse, .plain⟩ := by
  obtain ⟨inhabited, uncommented, inert⟩ := plain
  cases w with
  | nil => exact absurd rfl inhabited
  | cons c rest =>
      have first := step_first words (inert c List.mem_cons_self) fun same => uncommented (by rw [same]; rfl)
      rw [List.foldl_cons, first, foldl_inert words [c] fun d member => inert d (List.mem_cons_of_mem _ member)]
      simp

-- A quote leaves the single quotes, is read in double ones, and the single ones are entered again.
theorem foldl_escape (s : List Char) :
    (escape s).foldl Reader.step ⟨words, word, .single⟩ = ⟨words, s.reverse ++ word, .single⟩ := by
  induction s generalizing word with
  | nil => rfl
  | cons c rest ih =>
      rw [escape]
      by_cases quote : c = '\''
      · rw [if_pos quote, quote]
        have left_and_entered : ['\'', '"', '\'', '"', '\''].foldl Reader.step ⟨words, word, .single⟩ =
            ⟨words, '\'' :: word, .single⟩ := rfl
        calc List.foldl Reader.step ⟨words, word, .single⟩ ('\'' :: '"' :: '\'' :: '"' :: '\'' :: escape rest)
            = (escape rest).foldl Reader.step
                (['\'', '"', '\'', '"', '\''].foldl Reader.step ⟨words, word, .single⟩) := rfl
          _ = ⟨words, ('\'' :: rest).reverse ++ word, .single⟩ := by rw [left_and_entered, ih]; simp
      · have kept : Reader.step ⟨words, word, .single⟩ c = ⟨words, c :: word, .single⟩ := by
          simp [Reader.step, quote]
        rw [if_neg quote, List.foldl_cons, kept, ih]
        simp

def Quiet (s : List Char) : Prop := ∀ c ∈ s, c ≠ '"' ∧ c ≠ '\\'

instance : DecidablePred Quiet := fun s => List.decidableBAll (fun c => c ≠ '"' ∧ c ≠ '\\') s

theorem Quiet.append {s t : List Char} (first : Quiet s) (second : Quiet t) : Quiet (s ++ t) :=
  List.forall_mem_append.mpr ⟨first, second⟩

theorem foldl_quiet {s : List Char} (quiet : Quiet s) :
    s.foldl Reader.step ⟨words, word, .double⟩ = ⟨words, s.reverse ++ word, .double⟩ := by
  induction s generalizing word with
  | nil => rfl
  | cons c rest ih =>
      obtain ⟨double, escape⟩ := quiet c List.mem_cons_self
      have kept : Reader.step ⟨words, word, .double⟩ c = ⟨words, c :: word, .double⟩ := by
        simp [Reader.step, double, escape]
      rw [List.foldl_cons, kept, ih (c :: word) fun d member => quiet d (List.mem_cons_of_mem _ member)]
      simp

theorem escape_quoteless {s : List Char} (quoteless : '\'' ∉ s) : escape s = s := by
  induction s with
  | nil => rfl
  | cons c rest ih =>
      obtain ⟨other, quoteless⟩ := not_or.mp (List.mem_cons.not.mp quoteless)
      rw [escape, if_neg (Ne.symm other), ih quoteless]

end Reading

inductive Part where
  | bare (w : List Char) (plain : Plain w)
  | quoted (s : List Char)
  | doubled (s : List Char) (quiet : Quiet s)

namespace Part

def text : Part → List Char
  | .bare w _ => w
  | .quoted s => '\'' :: (escape s ++ ['\''])
  | .doubled s _ => '"' :: (s ++ ['"'])

def word : Part → List Char
  | .bare w _ => w
  | .quoted s => s
  | .doubled s _ => s

theorem read (p : Part) (words : List (List Char)) :
    p.text.foldl Reader.step ⟨words, [], .gap⟩ = ⟨words, p.word.reverse, .plain⟩ := by
  cases p with
  | bare w plain => exact foldl_plain words plain
  | quoted s =>
      have opened : Reader.step ⟨words, [], .gap⟩ '\'' = ⟨words, [], .single⟩ := rfl
      rw [text, List.foldl_cons, opened, List.foldl_append, foldl_escape, List.append_nil]
      rfl
  | doubled s quiet =>
      have opened : Reader.step ⟨words, [], .gap⟩ '"' = ⟨words, [], .double⟩ := rfl
      rw [text, List.foldl_cons, opened, List.foldl_append, foldl_quiet words [] quiet, List.append_nil]
      rfl

end Part

inductive Spaced : List (List Char) → List Char → Prop
  | empty : Spaced [] []
  | last (part : List Char) : Spaced [part] part
  | gap {c : Char} {parts : List (List Char)} {text : List Char} (separates : isSeparator c = true)
      (rest : Spaced parts text) : Spaced parts (c :: text)
  | part (part : List Char) {c : Char} {parts : List (List Char)} {text : List Char} (separates : isSeparator c = true)
      (rest : Spaced parts text) : Spaced (part :: parts) (part ++ c :: text)

namespace Spaced

theorem append {before after : List (List Char)} {s t : List Char} {c : Char} (separates : isSeparator c = true)
    (first : Spaced before s) (second : Spaced after t) : Spaced (before ++ after) (s ++ c :: t) := by
  induction first with
  | empty => exact .gap separates second
  | last part => exact .part part separates second
  | gap separator _ ih => exact .gap separator ih
  | part part separator _ ih =>
      rw [List.append_assoc]
      exact .part part separator ih

theorem intercalate (parts : List (List Char)) : Spaced parts ([' '].intercalate parts) := by
  induction parts with
  | nil => exact .empty
  | cons part rest ih =>
      cases rest with
      | nil =>
          rw [List.intercalate_singleton]
          exact .last part
      | cons next rest =>
          have blank : isSeparator ' ' = true := rfl
          rw [List.intercalate_cons_cons, List.append_assoc, List.singleton_append]
          exact .part part blank ih

theorem foldl_separator {parts : List Part} {text : List Char} (spaced : Spaced (parts.map Part.text) text)
    (words : List (List Char)) :
    (text ++ [' ']).foldl Reader.step ⟨words, [], .gap⟩ = ⟨(parts.map Part.word).reverse ++ words, [], .gap⟩ := by
  generalize written : parts.map Part.text = texts at spaced
  induction spaced generalizing parts words with
  | empty =>
      rw [List.map_eq_nil_iff.mp written]
      rfl
  | last part =>
      obtain ⟨p, rfl, rfl⟩ := List.map_eq_singleton_iff.mp written
      rw [List.foldl_append, p.read, List.foldl_cons, step_ending words _ rfl]
      simp
  | gap separates _ ih => rw [List.cons_append, List.foldl_cons, step_separator words separates, ih words written]
  | part part separates _ ih =>
      obtain ⟨p, rest, rfl, rfl, others⟩ := List.map_eq_cons_iff.mp written
      rw [List.append_assoc, List.foldl_append, p.read, List.cons_append, List.foldl_cons, step_ending words _ separates,
        ih _ others]
      simp

end Spaced

theorem finish_of_gap {r : Reader} {words : List (List Char)} (ended : r.step ' ' = ⟨words, [], .gap⟩) :
    r.finish = some words.reverse := by
  obtain ⟨read, word, mode⟩ := r
  cases mode with
  | gap =>
      cases ended
      rfl
  | plain =>
      rw [step_ending read word rfl] at ended
      cases ended
      rfl
  | comment | escaped | single | double | doubleEscaped => cases ended

theorem finish_spaced {parts : List Part} {text : List Char} (spaced : Spaced (parts.map Part.text) text)
    (words : List (List Char)) :
    (text.foldl Reader.step ⟨words, [], .gap⟩).finish = some (words.reverse ++ parts.map Part.word) := by
  have read := spaced.foldl_separator words
  rw [List.foldl_append] at read
  rw [finish_of_gap read]
  simp

theorem split_spaced {parts : List Part} {text : List Char} (spaced : Spaced (parts.map Part.text) text) :
    split text = some (parts.map Part.word) := finish_spaced spaced []

theorem parts_of_plain {words : List (List Char)} (plain : ∀ w ∈ words, Plain w) :
    ∃ parts : List Part, parts.map Part.text = words ∧ parts.map Part.word = words := by
  induction words with
  | nil => exact ⟨[], rfl, rfl⟩
  | cons w rest ih =>
      obtain ⟨parts, texts, read⟩ := ih fun v member => plain v (List.mem_cons_of_mem _ member)
      refine ⟨.bare w (plain w List.mem_cons_self) :: parts, ?_, ?_⟩
      · rw [List.map_cons, texts]
        rfl
      · rw [List.map_cons, read]
        rfl

theorem shellWords_iff (line : String) (words : List String) :
    line.shellWords? = some words ↔ split line.toList = some (words.map String.toList) := by
  have back : ∀ ws : List String, (ws.map String.toList).map String.ofList = ws := by
    intro ws
    simp
  have forth : ∀ ws : List (List Char), (ws.map String.ofList).map String.toList = ws := by
    intro ws
    simp [Function.comp_def]
  rw [String.shellWords?, Option.map_eq_some_iff]
  constructor
  · rintro ⟨read, split, rfl⟩
    rw [split, forth]
  · intro split
    exact ⟨_, split, back words⟩

theorem shellWords_quoted {s line : String} {before after : List String} (plain : ∀ w ∈ before ++ after, Plain w.toList)
    (spaced : Spaced ((before ++ ("'" ++ s.shellEscaped ++ "'") :: after).map String.toList) line.toList) :
    line.shellWords? = some (before ++ s :: after) := by
  obtain ⟨plain_before, plain_after⟩ := List.forall_mem_append.mp plain
  obtain ⟨first, first_texts, first_read⟩ := parts_of_plain (List.forall_mem_map.mpr plain_before)
  obtain ⟨last, last_texts, last_read⟩ := parts_of_plain (List.forall_mem_map.mpr plain_after)
  have written : (first ++ .quoted s.toList :: last).map Part.text =
      (before ++ ("'" ++ s.shellEscaped ++ "'") :: after).map String.toList := by
    rw [List.map_append, List.map_cons, first_texts, last_texts]
    simp [Part.text, String.shellEscaped]
  have read : (first ++ .quoted s.toList :: last).map Part.word = (before ++ s :: after).map String.toList := by
    rw [List.map_append, List.map_cons, first_read, last_read, List.map_append, List.map_cons]
    rfl
  rw [← written] at spaced
  rw [shellWords_iff, split_spaced spaced, read]

end RemoteExec.Text.ShellWords
