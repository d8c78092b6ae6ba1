import Mathlib.Data.List.Perm.Subperm
import RemoteExec.Proofs.Text.ShellWords

namespace RemoteExec.Text.ShellWords

section Keeping

def Reader.kept (r : Reader) : List Char :=
  r.words.flatten ++ r.word ++ if r.mode = .doubleEscaped then ['\\'] else []

theorem kept_bare (words : List (List Char)) (word : List Char) (mode : Mode) (c : Char)
    (outside : mode ≠ .doubleEscaped) :
    List.Subperm (Reader.bare ⟨words, word, mode⟩ c).kept (c :: (Reader.kept ⟨words, word, mode⟩)) := by
  have dropped : List.Subperm (words.flatten ++ word) (c :: (words.flatten ++ word)) :=
    (List.sublist_cons_self _ _).subperm
  simp only [Reader.bare, Reader.kept, if_neg outside, List.append_nil]
  by_cases double : c = '"'
  · simpa [double] using dropped
  by_cases single : c = '\''
  · simpa [single] using dropped
  by_cases escape : c = '\\'
  · simpa [escape] using dropped
  by_cases separates : isSeparator c = true
  · have ended : List.Perm (word.reverse :: words).flatten (words.flatten ++ word) := by
      rw [List.flatten_cons]
      exact ((List.reverse_perm word).append_right _).trans List.perm_append_comm
    simpa [double, single, escape, separates] using ended.subperm.trans dropped
  · have added : List.Perm (words.flatten ++ c :: word) (c :: (words.flatten ++ word)) := List.perm_middle
    simpa [double, single, escape, separates] using added.subperm

theorem kept_step (r : Reader) (c : Char) : List.Subperm (r.step c).kept (c :: r.kept) := by
  obtain ⟨words, word, mode⟩ := r
  have dropped : List.Subperm (words.flatten ++ word) (c :: (words.flatten ++ word)) :=
    (List.sublist_cons_self _ _).subperm
  have added : List.Subperm (words.flatten ++ c :: word) (c :: (words.flatten ++ word)) :=
    List.perm_middle.subperm
  cases mode with
  | gap =>
      rw [Reader.step]
      by_cases separates : isSeparator c = true
      · simpa [separates, Reader.kept] using dropped
      by_cases comment : c = '#'
      · have apart : isSeparator '#' = false := rfl
        simpa [comment, apart, Reader.kept] using dropped
      · simpa [separates, comment] using kept_bare words word .gap c (by decide)
  | comment =>
      by_cases ended : c = '\n'
      · simpa [Reader.step, ended, Reader.kept] using dropped
      · simpa [Reader.step, ended, Reader.kept] using dropped
  | plain => exact kept_bare words word .plain c (by decide)
  | escaped =>
      by_cases ended : c = '\n'
      · simpa [Reader.step, ended, Reader.kept] using dropped
      · simpa [Reader.step, ended, Reader.kept] using added
  | single =>
      by_cases quote : c = '\''
      · simpa [Reader.step, quote, Reader.kept] using dropped
      · simpa [Reader.step, quote, Reader.kept] using added
  | double =>
      by_cases quote : c = '"'
      · simpa [Reader.step, quote, Reader.kept] using dropped
      by_cases escape : c = '\\'
      · have pending : List.Perm (words.flatten ++ (word ++ ['\\'])) ('\\' :: (words.flatten ++ word)) := by
          rw [← List.append_assoc]
          exact List.perm_append_singleton _ _
        simpa [Reader.step, quote, escape, Reader.kept] using pending.subperm
      · simpa [Reader.step, quote, escape, Reader.kept] using added
  | doubleEscaped =>
      have less : List.Subperm (words.flatten ++ word) (words.flatten ++ (word ++ ['\\'])) := by
        rw [← List.append_assoc]
        exact (List.sublist_append_left _ _).subperm
      by_cases special : c = '$' ∨ c = '\x60' ∨ c = '"' ∨ c = '\\'
      · simpa [Reader.step, special, Reader.kept, or_assoc] using added.trans ((List.subperm_cons c).mpr less)
      by_cases ended : c = '\n'
      · simpa [Reader.step, ended, Reader.kept] using less.trans (List.sublist_cons_self _ _).subperm
      · have both : List.Perm (words.flatten ++ c :: '\\' :: word) (c :: (words.flatten ++ (word ++ ['\\']))) := by
          refine List.perm_middle.trans (List.Perm.cons c ?_)
          exact List.Perm.append_left _ (List.perm_append_singleton _ _).symm
        simpa [Reader.step, special, ended, Reader.kept, or_assoc] using both.subperm

variable (p : Char → Bool)

theorem count_step (r : Reader) (c : Char) : (r.step c).kept.countP p ≤ r.kept.countP p + [c].countP p := by
  have fewer := (kept_step r c).countP_le p
  rwa [← List.singleton_append, List.countP_append, Nat.add_comm] at fewer

theorem count_foldl (r : Reader) (text : List Char) :
    (text.foldl Reader.step r).kept.countP p ≤ r.kept.countP p + text.countP p := by
  induction text generalizing r with
  | nil => exact Nat.le_refl _
  | cons c rest ih =>
      have first := count_step p r c
      have others := ih (r.step c)
      rw [List.foldl_cons, ← List.singleton_append, List.countP_append]
      omega

theorem count_finish {r : Reader} {words : List (List Char)} (finished : r.finish = some words) :
    words.flatten.countP p ≤ r.kept.countP p := by
  obtain ⟨read, word, mode⟩ := r
  cases mode with
  | gap | comment =>
      cases finished
      simp [Reader.kept]
  | plain =>
      cases finished
      simp [Reader.kept]
  | escaped | single | double | doubleEscaped => cases finished

def Keeps (r : Reader) (text : List Char) : Prop :=
  r.kept.countP p + text.countP p ≤ (text.foldl Reader.step r).kept.countP p

variable {p}

theorem Keeps.append {r : Reader} {s t : List Char} (keeps : Keeps p r (s ++ t)) :
    Keeps p r s ∧ Keeps p (s.foldl Reader.step r) t := by
  rw [Keeps, List.foldl_append, List.countP_append] at keeps
  have first := count_foldl p r s
  have second := count_foldl p (s.foldl Reader.step r) t
  exact ⟨by rw [Keeps]; omega, by rw [Keeps]; omega⟩

theorem not_keeps {r : Reader} {c : Char} (counted : p c = true) (lost : (r.step c).kept.Perm r.kept) :
    ¬Keeps p r [c] := by
  intro keeps
  rw [Keeps, List.foldl_cons, List.foldl_nil, lost.countP_eq, List.countP_singleton, if_pos counted] at keeps
  omega

end Keeping

section Outside

-- Neither a quote nor a separator: what a line must not lose if its words are to come back whole.
def isSolid (c : Char) : Bool := c != '\'' && c != '"' && !isSeparator c

inductive Mode.Outside : Mode → Prop
  | gap : Outside .gap
  | plain : Outside .plain
  | double : Outside .double
  | doubleEscaped : Outside .doubleEscaped

theorem bare_outside {words : List (List Char)} {word : List Char} {mode : Mode} {c : Char}
    (backslash : c ≠ '\\') (quote : c ≠ '\'') : (Reader.bare ⟨words, word, mode⟩ c).mode.Outside := by
  by_cases double : c = '"'
  · simpa [Reader.bare, double] using Mode.Outside.double
  by_cases separates : isSeparator c = true
  · simpa [Reader.bare, double, quote, backslash, separates] using Mode.Outside.gap
  · simpa [Reader.bare, double, quote, backslash, separates] using Mode.Outside.plain

theorem step_outside {r : Reader} {c : Char} (keeps : Keeps isSolid r [c]) (outside : r.mode.Outside)
    (quote : c ≠ '\'') : (r.step c).mode.Outside := by
  obtain ⟨words, word, mode⟩ := r
  cases outside with
  | gap =>
      by_cases separates : isSeparator c = true
      · simpa [Reader.step, separates] using Mode.Outside.gap
      have uncommented : c ≠ '#' := by
        rintro rfl
        exact not_keeps rfl (.refl _) keeps
      have backslash : c ≠ '\\' := by
        rintro rfl
        exact not_keeps rfl (.refl _) keeps
      simpa [Reader.step, separates, uncommented] using bare_outside backslash quote
  | plain =>
      have backslash : c ≠ '\\' := by
        rintro rfl
        exact not_keeps rfl (.refl _) keeps
      exact bare_outside backslash quote
  | double =>
      by_cases double : c = '"'
      · simpa [Reader.step, double] using Mode.Outside.plain
      by_cases backslash : c = '\\'
      · simpa [Reader.step, backslash] using Mode.Outside.doubleEscaped
      · simpa [Reader.step, double, backslash] using Mode.Outside.double
  | doubleEscaped =>
      by_cases special : c = '$' ∨ c = '\x60' ∨ c = '"' ∨ c = '\\'
      · simpa [Reader.step, special, or_assoc] using Mode.Outside.double
      by_cases ended : c = '\n'
      · simpa [Reader.step, ended] using Mode.Outside.double
      · simpa [Reader.step, special, ended, or_assoc] using Mode.Outside.double

theorem step_quote (r : Reader) (outside : r.mode.Outside) :
    (r.step '\'').mode = .single ∨ (r.step '\'').mode.Outside := by
  obtain ⟨words, word, mode⟩ := r
  cases outside with
  | gap | plain => exact Or.inl rfl
  | double | doubleEscaped => exact Or.inr .double

-- A reader that loses nothing solid comes to no backslash that counts and to no comment.
theorem foldl_steady {r : Reader} {text : List Char} (keeps : Keeps isSolid r text)
    (steady : r.mode = .single ∨ r.mode.Outside) :
    (text.foldl Reader.step r).mode = .single ∨ (text.foldl Reader.step r).mode.Outside := by
  induction text generalizing r with
  | nil => exact steady
  | cons c rest ih =>
      obtain ⟨first, others⟩ := Keeps.append (s := [c]) keeps
      refine ih others ?_
      obtain inside | outside := steady
      · obtain ⟨words, word, mode⟩ := r
        cases inside
        by_cases quote : c = '\''
        · exact Or.inr (by simpa [Reader.step, quote] using Mode.Outside.plain)
        · exact Or.inl (by simp [Reader.step, quote])
      · by_cases quote : c = '\''
        · rw [quote]
          exact step_quote r outside
        · exact Or.inr (step_outside first outside quote)

theorem foldl_escape_outside {r : Reader} {s : List Char} (keeps : Keeps isSolid r (escape s))
    (outside : r.mode.Outside) : ((escape s).foldl Reader.step r).mode.Outside := by
  induction s generalizing r with
  | nil => exact outside
  | cons c rest ih =>
      rw [escape] at keeps ⊢
      by_cases quote : c = '\''
      · rw [if_pos quote] at keeps ⊢
        obtain ⟨_, others⟩ := Keeps.append (s := ['\'', '"', '\'', '"', '\'']) keeps
        refine ih others ?_
        obtain ⟨words, word, mode⟩ := r
        cases outside with
        | gap | plain => exact .double
        | double | doubleEscaped => exact .plain
      · rw [if_neg quote] at keeps ⊢
        obtain ⟨first, others⟩ := Keeps.append (s := [c]) keeps
        exact ih others (step_outside first outside quote)

theorem finish_quote {r : Reader} (outside : r.mode.Outside) : (r.step '\'').finish = none := by
  obtain ⟨words, word, mode⟩ := r
  cases outside with
  | gap | plain | double | doubleEscaped => rfl

end Outside

section Alone

variable {words : List (List Char)}

theorem inert_of_keeps {word : List Char} {c : Char} (keeps : Keeps (fun _ => true) ⟨words, word, .plain⟩ [c]) :
    Inert c := by
  constructor
  · rintro rfl
    exact not_keeps rfl (.refl _) keeps
  · rintro rfl
    exact not_keeps rfl (.refl _) keeps
  · rintro rfl
    exact not_keeps rfl (.refl _) keeps
  · by_contra joined
    have separates : isSeparator c = true := by simpa using joined
    refine not_keeps rfl ?_ keeps
    rw [step_ending words word separates]
    simpa [Reader.kept] using ((List.reverse_perm word).append_right _).trans List.perm_append_comm

theorem inert_of_keeps_all {word u : List Char} (keeps : Keeps (fun _ => true) ⟨words, word, .plain⟩ u) :
    ∀ c ∈ u, Inert c := by
  induction u generalizing word with
  | nil => exact fun _ member => absurd member List.not_mem_nil
  | cons c rest ih =>
      obtain ⟨first, others⟩ := Keeps.append (s := [c]) keeps
      have inert := inert_of_keeps first
      rw [List.foldl_cons, List.foldl_nil, step_inert words word inert] at others
      intro d member
      obtain same | later := List.mem_cons.mp member
      · exact same ▸ inert
      · exact ih others d later

theorem plain_of_keeps {u : List Char} (keeps : Keeps (fun _ => true) ⟨words, [], .gap⟩ u) : u = [] ∨ Plain u := by
  cases u with
  | nil => exact Or.inl rfl
  | cons c rest =>
      obtain ⟨first, others⟩ := Keeps.append (s := [c]) keeps
      have joined : isSeparator c = false := by
        by_contra joined
        have separates : isSeparator c = true := by simpa using joined
        refine not_keeps rfl ?_ first
        rw [step_separator words separates]
      have uncommented : c ≠ '#' := by
        rintro rfl
        exact not_keeps rfl (.refl _) first
      have inert : Inert c := by
        refine ⟨?_, ?_, ?_, joined⟩
        · rintro rfl
          exact not_keeps rfl (.refl _) first
        · rintro rfl
          exact not_keeps rfl (.refl _) first
        · rintro rfl
          exact not_keeps rfl (.refl _) first
      rw [List.foldl_cons, List.foldl_nil, step_first words inert uncommented] at others
      refine Or.inr ⟨List.cons_ne_nil _ _, by simpa using uncommented, ?_⟩
      intro d member
      obtain same | later := List.mem_cons.mp member
      · exact same ▸ inert
      · exact inert_of_keeps_all others d later

end Alone

section Place

theorem spaced_solid {parts : List (List Char)} {text : List Char} (spaced : Spaced parts text) :
    text.countP isSolid = parts.flatten.countP isSolid := by
  have separator_counts : ∀ {c : Char}, isSeparator c = true → ¬isSolid c = true := by
    intro c separates
    simp [isSolid, separates]
  induction spaced with
  | empty => rfl
  | last part => simp
  | gap separates _ ih => rw [List.countP_cons_of_neg (separator_counts separates), ih]
  | part part separates _ ih =>
      rw [List.countP_append, List.countP_cons_of_neg (separator_counts separates), ih, List.flatten_cons,
        List.countP_append]

theorem escape_solid (s : List Char) : (escape s).countP isSolid = s.countP isSolid := by
  induction s with
  | nil => rfl
  | cons c rest ih =>
      rw [escape]
      by_cases quote : c = '\''
      · rw [if_pos quote, quote]
        calc List.countP isSolid ('\'' :: '"' :: '\'' :: '"' :: '\'' :: escape rest)
            = (escape rest).countP isSolid := rfl
          _ = rest.countP isSolid := ih
      · rw [if_neg quote, List.countP_cons, List.countP_cons, ih]

theorem spaced_apart {parts : List (List Char)} {text : List Char} (spaced : Spaced parts text)
    (plain : ∀ w ∈ parts, Plain w) : ∀ c ∈ text, Inert c ∨ isSeparator c = true := by
  induction spaced with
  | empty => exact fun _ member => absurd member List.not_mem_nil
  | last part => exact fun c member => Or.inl ((plain part List.mem_cons_self).inert c member)
  | gap separates _ ih =>
      intro c member
      obtain same | later := List.mem_cons.mp member
      · exact Or.inr (same ▸ separates)
      · exact ih plain c later
  | part part separates _ ih =>
      intro c member
      obtain inside | later := List.mem_append.mp member
      · exact Or.inl ((plain part List.mem_cons_self).inert c inside)
      obtain same | later := List.mem_cons.mp later
      · exact Or.inr (same ▸ separates)
      · exact ih (fun w member => plain w (List.mem_cons_of_mem _ member)) c later

def Reader.Tidy (r : Reader) : Prop := r.mode = .gap ∨ r.mode = .comment → r.word = []

theorem step_tidy {r : Reader} (tidy : r.Tidy) (c : Char) : (r.step c).Tidy := by
  obtain ⟨words, word, mode⟩ := r
  cases mode <;> simp only [Reader.step, Reader.bare] <;> split_ifs <;> simp_all [Reader.Tidy]

theorem foldl_tidy {r : Reader} (tidy : r.Tidy) (text : List Char) : (text.foldl Reader.step r).Tidy := by
  induction text generalizing r with
  | nil => exact tidy
  | cons c rest ih => exact ih (step_tidy tidy c)

theorem foldl_single {r : Reader} {text : List Char} (inside : r.mode = .single) (quoteless : '\'' ∉ text) :
    (text.foldl Reader.step r).mode = .single := by
  induction text generalizing r with
  | nil => exact inside
  | cons c rest ih =>
      obtain ⟨other, others⟩ := not_or.mp (List.mem_cons.not.mp quoteless)
      refine ih ?_ others
      obtain ⟨words, word, mode⟩ := r
      cases inside
      simp [Reader.step, Ne.symm other]

theorem quote_single {r : Reader} (inside : r.mode = .single) : (r.step '\'').mode = .plain := by
  obtain ⟨words, word, mode⟩ := r
  cases inside
  rfl

theorem quote_double {r : Reader} (inside : r.mode = .double) : (r.step '\'').mode = .double := by
  obtain ⟨words, word, mode⟩ := r
  cases inside
  rfl

theorem foldl_double {r : Reader} {text : List Char} (inside : r.mode = .double) (quiet : Quiet text) :
    (text.foldl Reader.step r).mode = .double := by
  obtain ⟨words, word, mode⟩ := r
  cases inside
  rw [foldl_quiet words word quiet]

variable {mid : List Char} {others : List (List Char)}

theorem left_in_gap {r : Reader} (tidy : r.Tidy) (steady : r.mode = .single ∨ r.mode.Outside)
    (plain : ∀ w ∈ others, Plain w) (spaced : Spaced others mid)
    (inside : ((' ' :: (mid ++ [' ', '\''])).foldl Reader.step r).mode = .single) :
    ∃ words, r.step ' ' = ⟨words, [], .gap⟩ ∧ words.flatten.Perm r.kept := by
  have apart : ∀ c ∈ mid ++ [' '], c ≠ '\'' ∧ c ≠ '"' ∧ c ≠ '\\' := by
    intro c member
    obtain between | last := List.mem_append.mp member
    · obtain inert | separates := spaced_apart spaced plain c between
      · exact ⟨inert.single, inert.double, inert.escape⟩
      · refine ⟨?_, ?_, ?_⟩ <;> rintro rfl <;> exact absurd separates (by decide)
    · rw [List.mem_singleton.mp last]
      decide
  have quoteless : '\'' ∉ mid ++ [' '] := fun member => (apart _ member).1 rfl
  have quiet : Quiet (mid ++ [' ']) := fun c member => (apart c member).2
  have cut : ' ' :: (mid ++ [' ', '\'']) = ' ' :: (mid ++ [' ']) ++ ['\''] := by simp
  rw [cut, List.foldl_append, List.foldl_cons, List.foldl_nil, List.foldl_cons] at inside
  obtain ⟨words, word, mode⟩ := r
  obtain single | outside := steady
  · cases single
    rw [quote_single (foldl_single rfl quoteless)] at inside
    cases inside
  · cases outside with
    | gap =>
        have closed : word = [] := tidy (Or.inl rfl)
        exact ⟨words, by rw [closed]; rfl, by simp [Reader.kept, closed]⟩
    | plain =>
        refine ⟨word.reverse :: words, step_ending words word rfl, ?_⟩
        simpa [Reader.kept] using ((List.reverse_perm word).append_right _).trans List.perm_append_comm
    | double | doubleEscaped =>
        rw [quote_double (foldl_double rfl quiet)] at inside
        cases inside

theorem whole_keeps (spaced : Spaced others mid) {words : List (List Char)} {u s : List Char}
    (finished : ((u ++ ' ' :: (mid ++ ' ' :: '\'' :: (escape s ++ ['\'']))).foldl Reader.step ⟨words, [], .gap⟩).finish =
      some (words.reverse ++ u :: (others ++ [s]))) :
    Keeps isSolid ⟨words, [], .gap⟩ (u ++ ' ' :: (mid ++ ' ' :: '\'' :: (escape s ++ ['\'']))) := by
  have given_out := count_finish isSolid finished
  have same_words : words.reverse.flatten.countP isSolid = words.flatten.countP isSolid :=
    (List.reverse_perm words).flatten.countP_eq _
  have unsolid : isSolid ' ' = false ∧ isSolid '\'' = false := by decide
  rw [Keeps]
  refine Nat.le_trans (Nat.le_of_eq ?_) given_out
  simp [Reader.kept, same_words, unsolid, spaced_solid spaced, escape_solid]

theorem quoted_spaced {parts : List Part} (texts : parts.map Part.text = others) (spaced : Spaced others mid)
    (s : List Char) :
    Spaced ((parts ++ [Part.quoted s]).map Part.text) (mid ++ ' ' :: '\'' :: (escape s ++ ['\''])) := by
  rw [List.map_append, texts]
  exact spaced.append rfl (.last _)

-- A quote at the end of the line can only end the last word, so the text in front has been read as a word.
theorem ended_alone (plain : ∀ w ∈ others, Plain w) (spaced : Spaced others mid) {words : List (List Char)}
    {u s : List Char}
    (finished : ((u ++ ' ' :: (mid ++ ' ' :: '\'' :: (escape s ++ ['\'']))).foldl Reader.step ⟨words, [], .gap⟩).finish =
      some (words.reverse ++ u :: (others ++ [s]))) :
    (u.foldl Reader.step ⟨words, [], .gap⟩).step ' ' = ⟨u :: words, [], .gap⟩ ∧
      (u :: words).flatten.Perm (u.foldl Reader.step ⟨words, [], .gap⟩).kept := by
  have cut : ' ' :: (mid ++ ' ' :: '\'' :: (escape s ++ ['\''])) =
      ' ' :: (mid ++ [' ', '\'']) ++ (escape s ++ ['\'']) := by simp
  obtain ⟨keeps_text, keeps_rest⟩ := (whole_keeps spaced finished).append
  rw [cut] at keeps_rest
  obtain ⟨keeps_between, keeps_last⟩ := keeps_rest.append
  have tidy : (u.foldl Reader.step ⟨words, [], .gap⟩).Tidy := foldl_tidy (fun _ => rfl) u
  have steady := foldl_steady keeps_text (Or.inr .gap)
  rw [List.foldl_append] at finished
  have single : ((' ' :: (mid ++ [' ', '\''])).foldl Reader.step (u.foldl Reader.step ⟨words, [], .gap⟩)).mode = .single := by
    refine (foldl_steady keeps_between steady).resolve_right fun outside => ?_
    have still := foldl_escape_outside keeps_last.append.1 outside
    rw [cut, List.foldl_append, List.foldl_append, List.foldl_cons, List.foldl_nil, finish_quote still] at finished
    cases finished
  obtain ⟨found, ended, same_kept⟩ := left_in_gap tidy steady plain spaced single
  have found_words : found = u :: words := by
    obtain ⟨parts, texts, read⟩ := parts_of_plain plain
    rw [List.foldl_cons, ended, finish_spaced (quoted_spaced texts spaced s), List.map_append, read,
      Option.some.injEq] at finished
    have first : found.reverse = words.reverse ++ [u] := by
      refine List.append_cancel_right (finished.trans ?_)
      simp [Part.word]
    simpa using congrArg List.reverse first
  rw [← found_words]
  exact ⟨ended, same_kept⟩

theorem plain_of_ended {words : List (List Char)} {u : List Char}
    (ended : (u.foldl Reader.step ⟨words, [], .gap⟩).step ' ' = ⟨u :: words, [], .gap⟩)
    (kept : (u :: words).flatten.Perm (u.foldl Reader.step ⟨words, [], .gap⟩).kept) : Plain u := by
  have keeps : Keeps (fun _ => true) ⟨words, [], .gap⟩ u := by
    have before : (Reader.kept ⟨words, [], .gap⟩).length = words.flatten.length := by simp [Reader.kept]
    have after := kept.length_eq
    rw [List.flatten_cons, List.length_append] at after
    rw [Keeps, List.countP_true, before]
    omega
  refine (plain_of_keeps keeps).resolve_left ?_
  rintro rfl
  rw [List.foldl_nil, step_separator words rfl] at ended
  exact absurd (congrArg Reader.words ended) (by simp)

theorem alone_iff (plain : ∀ w ∈ others, Plain w) (spaced : Spaced others mid) (words : List (List Char))
    (u s : List Char) :
    ((u ++ ' ' :: (mid ++ ' ' :: '\'' :: (escape s ++ ['\'']))).foldl Reader.step ⟨words, [], .gap⟩).finish =
      some (words.reverse ++ u :: (others ++ [s])) ↔ Plain u := by
  constructor
  · intro finished
    obtain ⟨ended, kept⟩ := ended_alone plain spaced finished
    exact plain_of_ended ended kept
  · intro alone
    obtain ⟨parts, texts, read⟩ := parts_of_plain plain
    have whole : Spaced ((Part.bare u alone :: (parts ++ [Part.quoted s])).map Part.text)
        (u ++ ' ' :: (mid ++ ' ' :: '\'' :: (escape s ++ ['\'']))) := .part u rfl (quoted_spaced texts spaced s)
    rw [finish_spaced whole, List.map_cons, List.map_append, read]
    rfl

end Place

end RemoteExec.Text.ShellWords
