import RemoteExec.Proofs.ClientConfig.Precedence

namespace RemoteExec.ClientConfig

section Pieces

-- What one byte of a pattern stands for: `*` for anything, `?` for one byte, any other for itself.
def Takes (p : UInt8) (piece : Bytes) : Prop :=
  if p = 42 then True else if p = 63 then piece.length = 1 else piece = [p]

def Fills (pattern text : Bytes) : Prop := ∃ pieces, List.Forall₂ Takes pattern pieces ∧ pieces.flatten = text

variable {p t : UInt8} {ps text ts : Bytes}

theorem fills_nil : Fills [] text ↔ text = [] := by
  constructor
  · intro fills
    obtain ⟨pieces, each, whole⟩ := fills
    cases each
    exact whole.symm
  · intro empty
    rw [empty]
    exact ⟨[], List.Forall₂.nil, rfl⟩

theorem fills_cons : Fills (p :: ps) text ↔ ∃ piece rest, Takes p piece ∧ Fills ps rest ∧ piece ++ rest = text := by
  constructor
  · intro fills
    obtain ⟨pieces, each, whole⟩ := fills
    cases each with
    | @cons _ piece _ later first rest => exact ⟨piece, later.flatten, first, ⟨later, rest, rfl⟩, whole⟩
  · intro parts
    obtain ⟨piece, rest, first, ⟨later, each, below⟩, whole⟩ := parts
    exact ⟨piece :: later, List.Forall₂.cons first each, by rw [List.flatten_cons, below, whole]⟩

theorem takes_star (piece : Bytes) : Takes 42 piece := trivial

theorem fills_star_nil : Fills (42 :: ps) [] ↔ Fills ps [] := by
  rw [fills_cons]
  constructor
  · intro parts
    obtain ⟨piece, rest, _, below, whole⟩ := parts
    rw [← (List.append_eq_nil_iff.mp whole).2]
    exact below
  · intro fills
    exact ⟨[], [], takes_star [], fills, rfl⟩

theorem fills_star_cons : Fills (42 :: ps) (t :: ts) ↔ Fills ps (t :: ts) ∨ Fills (42 :: ps) ts := by
  rw [fills_cons, fills_cons]
  constructor
  · intro parts
    obtain ⟨piece, rest, _, below, whole⟩ := parts
    cases piece with
    | nil =>
        rw [List.nil_append] at whole
        rw [← whole]
        exact Or.inl below
    | cons b later =>
        rw [List.cons_append] at whole
        injection whole with _ tail
        exact Or.inr ⟨later, rest, takes_star later, below, tail⟩
  · intro either
    cases either with
    | inl fills => exact ⟨[], t :: ts, takes_star [], fills, rfl⟩
    | inr more =>
        obtain ⟨piece, rest, _, below, whole⟩ := more
        exact ⟨t :: piece, rest, takes_star _, below, by rw [List.cons_append, whole]⟩

theorem takes_one (plain : p ≠ 42) {piece : Bytes} : Takes p piece ↔ ∃ b, piece = [b] ∧ (p = 63 ∨ p = b) := by
  rw [Takes, if_neg plain]
  by_cases any : p = 63
  · rw [if_pos any, List.length_eq_one_iff]
    simp only [any, true_or, and_true]
  · rw [if_neg any]
    constructor
    · intro own
      exact ⟨p, own, Or.inr rfl⟩
    · intro single
      obtain ⟨b, own, same⟩ := single
      rw [own, same.resolve_left any]

theorem fills_one_nil (plain : p ≠ 42) : ¬ Fills (p :: ps) [] := by
  rw [fills_cons]
  intro parts
  obtain ⟨piece, rest, takes, _, whole⟩ := parts
  obtain ⟨b, own, _⟩ := (takes_one plain).mp takes
  rw [own] at whole
  cases whole

theorem fills_one_cons (plain : p ≠ 42) : Fills (p :: ps) (t :: ts) ↔ (p = 63 ∨ p = t) ∧ Fills ps ts := by
  rw [fills_cons]
  constructor
  · intro parts
    obtain ⟨piece, rest, takes, below, whole⟩ := parts
    obtain ⟨b, own, same⟩ := (takes_one plain).mp takes
    rw [own, List.singleton_append] at whole
    injection whole with head tail
    rw [← head, ← tail]
    exact ⟨same, below⟩
  · intro both
    exact ⟨[t], ts, (takes_one plain).mpr ⟨t, rfl, both.1⟩, both.2, rfl⟩

-- Both arguments shrink: where a star stays, the text gets shorter.
theorem globMatches_iff (pattern text : Bytes) : globMatches pattern text = true ↔ Fills pattern text := by
  fun_induction globMatches pattern text with
  | case1 => simp only [fills_nil]
  | case2 t ts => simp only [fills_nil, reduceCtorEq]
  | case3 p ps ih =>
      by_cases star : p = 42
      · rw [star, fills_star_nil, ← ih]
        rfl
      · simp only [Bool.and_eq_true, beq_iff_eq, star, false_and, fills_one_nil star]
  | case4 ps t ts stays moves => rw [fills_star_cons, Bool.or_eq_true, stays, moves]
  | case5 p ps t ts plain ih =>
      rw [fills_one_cons plain, Bool.and_eq_true, Bool.or_eq_true, beq_iff_eq, beq_iff_eq, ih]

end Pieces

section Patterns

def Fits (pattern host : List Char) : Prop :=
  Fills (Bytes.ofString (String.ofList pattern)) (Bytes.ofString (String.ofList host))

theorem patternMatches_iff (pattern host : List Char) : patternMatches pattern host = true ↔ Fits pattern host :=
  globMatches_iff _ _

theorem negated_some_iff (pattern rest : List Char) : negated? pattern = some rest ↔ pattern = '!' :: rest := by
  cases pattern with
  | nil => simp [negated?]
  | cons c later =>
      by_cases marked : c = '!'
      · rw [marked, negated?, Option.some.injEq, List.cons.injEq, eq_self, true_and]
      · simp [negated?, marked]

theorem hostMatches_iff (patterns : List (List Char)) (host : List Char) :
    hostMatches patterns host = true ↔
      (∃ p ∈ patterns, (Text.lower p).head? ≠ some '!' ∧ Fits (Text.lower p) (Text.lower host)) ∧
        ∀ p ∈ patterns, ∀ rest, Text.lower p = '!' :: rest → ¬ Fits rest (Text.lower host) := by
  have vetoing : ∀ p : List Char, (negated? p).isSome = true ↔ ∃ rest, p = '!' :: rest := by
    intro p
    simp only [Option.isSome_iff_exists, negated_some_iff]
  have picked : ∀ p : List Char, (negated? p).isSome = false ↔ p.head? ≠ some '!' := by
    intro p
    rw [← Bool.not_eq_true, vetoing, ne_eq, List.head?_eq_some_iff]
  simp only [hostMatches, List.partition_eq_filter_filter, Bool.and_eq_true, List.any_eq_true, Bool.not_eq_true',
    List.any_eq_false, List.mem_filter, List.mem_map, Function.comp_apply]
  constructor
  · intro applies
    obtain ⟨⟨_, ⟨⟨p, member, rfl⟩, plain⟩, fits⟩, unvetoed⟩ := applies
    constructor
    · exact ⟨p, member, (picked _).mp plain, (patternMatches_iff _ _).mp fits⟩
    · intro q inside rest marked fits
      apply unvetoed (Text.lower q) ⟨⟨q, inside, rfl⟩, (vetoing _).mpr ⟨rest, marked⟩⟩
      rw [marked, List.tail_cons]
      exact (patternMatches_iff _ _).mpr fits
  · intro applies
    obtain ⟨⟨p, member, plain, fits⟩, unvetoed⟩ := applies
    constructor
    · exact ⟨Text.lower p, ⟨⟨p, member, rfl⟩, (picked _).mpr plain⟩, (patternMatches_iff _ _).mpr fits⟩
    · intro q marked matched
      obtain ⟨⟨raw, inside, rfl⟩, veto⟩ := marked
      obtain ⟨rest, spelled⟩ := (vetoing _).mp veto
      rw [spelled, List.tail_cons, patternMatches_iff] at matched
      exact unvetoed raw inside rest spelled matched

theorem hostMatches_members {one other : List (List Char)} (same : ∀ p, p ∈ one ↔ p ∈ other) (host : List Char) :
    hostMatches one host = hostMatches other host := by
  rw [Bool.eq_iff_iff, hostMatches_iff, hostMatches_iff]
  simp only [same]

end Patterns

section Blocks

variable {host : List Char} {line : List Char} {patterns : List (List Char)}

def heads? (line : List Char) : Option (List (List Char)) :=
  match stated line with
  | some (key, value) => if Text.sameWord key "host".toList then some (Text.words value) else none
  | none => none

theorem heads_some (host : List Char) (headed : heads? line = some patterns) (on : Bool) :
    gives on line = none ∧ opens host on line = hostMatches patterns host := by
  rw [heads?] at headed
  cases said : stated line with
  | none =>
      rw [said] at headed
      cases headed
  | some stating =>
      obtain ⟨key, value⟩ := stating
      simp only [said] at headed
      by_cases heading : Text.sameWord key "host".toList = true
      · rw [if_pos heading] at headed
        rw [← Option.some.inj headed]
        exact host_line host on said heading
      · rw [if_neg heading] at headed
        cases headed

theorem heads_none (host : List Char) (headless : heads? line = none) (on : Bool) :
    opens host on line = on ∧ gives false line = none := by
  rw [heads?] at headless
  cases said : stated line with
  | none => exact ⟨(silent_line host on said).2, (silent_line host false said).1⟩
  | some stating =>
      obtain ⟨key, value⟩ := stating
      simp only [said] at headless
      by_cases heading : Text.sameWord key "host".toList = true
      · rw [if_pos heading] at headless
        cases headless
      · exact ⟨(directive_line host on said heading).2, (directive_line host false said heading).1⟩

theorem given_off (host : List Char) {body : List (List Char)} (headless : ∀ line ∈ body, heads? line = none) :
    given host false body = [] ∧ body.foldl (opens host) false = false := by
  induction body with
  | nil => exact ⟨rfl, rfl⟩
  | cons line below ih =>
      obtain ⟨stays, silent⟩ := heads_none host (headless line List.mem_cons_self) false
      obtain ⟨nothing, off⟩ := ih fun other member => headless other (List.mem_cons_of_mem line member)
      rw [given, List.foldl_cons, stays, silent, nothing, off]
      exact ⟨rfl, rfl⟩

-- A line that opens a block makes what stands before it irrelevant.
theorem given_headed {below : List (List Char)} (headed : ∀ line, below.head? = some line → (heads? line).isSome)
    (on off : Bool) : given host on below = given host off below := by
  cases below with
  | nil => rfl
  | cons line later =>
      obtain ⟨patterns, heads⟩ := Option.isSome_iff_exists.mp (headed line rfl)
      obtain ⟨silent, starts⟩ := heads_some host heads on
      obtain ⟨quiet, begins⟩ := heads_some host heads off
      rw [given, given, silent, starts, quiet, begins]

theorem given_without {above body below : List (List Char)} {heading : List Char} (headed : heads? heading = some patterns)
    (headless : ∀ line ∈ body, heads? line = none) (next : ∀ line, below.head? = some line → (heads? line).isSome)
    (misses : hostMatches patterns host = false) (on : Bool) :
    given host on (above ++ below) = given host on (above ++ heading :: (body ++ below)) := by
  obtain ⟨silent, opened⟩ := heads_some host headed (above.foldl (opens host) on)
  obtain ⟨nothing, off⟩ := given_off host headless
  rw [given_append, given_append, given, silent, opened, misses, given_append, nothing, off, Option.toList_none,
    List.nil_append, List.nil_append, given_headed next]

theorem directivesFor_without {above below : ClientConfig} {block : HostBlock}
    (misses : hostMatches block.patterns host = false) :
    directivesFor (above ++ below) host = directivesFor (above ++ block :: below) host := by
  simp only [directivesFor, List.filter_append, List.filter_cons, misses, Bool.false_eq_true, if_false]

structure Removal (patterns : List (List Char)) (whole rest : String) where
  above : List (List Char)
  heading : List Char
  body : List (List Char)
  below : List (List Char)
  lines_whole : Text.lines whole.toList = above ++ heading :: (body ++ below)
  lines_rest : Text.lines rest.toList = above ++ below
  headed : heads? heading = some patterns
  headless : ∀ line ∈ body, heads? line = none
  next : ∀ line, below.head? = some line → (heads? line).isSome

theorem Removal.directives {whole rest : String} (removal : Removal patterns whole rest)
    (misses : hostMatches patterns host = false) :
    directivesFor (parse rest) host = directivesFor (parse whole) host := by
  rw [directivesFor_parse, directivesFor_parse, removal.lines_whole, removal.lines_rest]
  exact given_without removal.headed removal.headless removal.next misses true

theorem block_applies_iff (env : Environment) (host : String) :
    (∀ pattern text, globMatches pattern text = true ↔ Fills pattern text) ∧
    (∀ patterns, hostMatches patterns host.toList = true ↔
      (∃ p ∈ patterns, (Text.lower p).head? ≠ some '!' ∧ Fits (Text.lower p) (Text.lower host.toList)) ∧
        ∀ p ∈ patterns, ∀ rest, Text.lower p = '!' :: rest → ¬ Fits rest (Text.lower host.toList)) ∧
    (∀ one other : List (List Char), (∀ p, p ∈ one ↔ p ∈ other) →
      hostMatches one host.toList = hostMatches other host.toList) ∧
    (∀ (above : ClientConfig) (block : HostBlock) (below : ClientConfig),
      hostMatches block.patterns host.toList = false →
      resolve env (above ++ below) host = resolve env (above ++ block :: below) host) ∧
    ∀ patterns whole rest, Removal patterns whole rest → hostMatches patterns host.toList = false →
      resolve env (parse rest) host = resolve env (parse whole) host := by
  refine ⟨globMatches_iff, fun patterns => hostMatches_iff patterns host.toList, ?_, ?_, ?_⟩
  · intro one other same
    exact hostMatches_members same host.toList
  · intro above block below misses
    rw [resolve, resolve, directivesFor_without misses]
  · intro patterns whole rest removal misses
    rw [resolve, resolve, removal.directives misses]

def vetoing : List (List Char) := ["*.internal".toList, "!secret.internal".toList]

theorem vetoed_block_unseen :
    Fits "*.internal".toList "secret.internal".toList ∧
    hostMatches vetoing.reverse "Secret.internal".toList = hostMatches vetoing "Secret.internal".toList ∧
    hostMatches vetoing "Secret.internal".toList = false ∧
    resolve ⟨[]⟩ [⟨[['*']], []⟩] "Secret.internal" =
      resolve ⟨[]⟩ [⟨[['*']], []⟩, ⟨vetoing, [("port".toList, "2200".toList)]⟩] "Secret.internal" ∧
    resolve ⟨[]⟩ (parse "User deploy\nHost *\nPort 22\n") "Secret.internal" =
      resolve ⟨[]⟩ (parse "User deploy\nHost *.internal !secret.internal\nPort 2200\nHost *\nPort 22\n")
        "Secret.internal" := by
  obtain ⟨matched, _, members, outside, unseen⟩ := block_applies_iff ⟨[]⟩ "Secret.internal"
  have misses : hostMatches vetoing "Secret.internal".toList = false := by decide +kernel
  have removal : Removal vetoing
      "User deploy\nHost *.internal !secret.internal\nPort 2200\nHost *\nPort 22\n"
      "User deploy\nHost *\nPort 22\n" := {
    above := ["User deploy".toList]
    heading := "Host *.internal !secret.internal".toList
    body := ["Port 2200".toList]
    below := ["Host *".toList, "Port 22".toList]
    lines_whole := by decide +kernel
    lines_rest := by decide +kernel
    headed := by decide +kernel
    headless := by decide +kernel
    next := by decide +kernel }
  have fits := (matched (Bytes.ofString "*.internal") (Bytes.ofString "secret.internal")).mp (by decide +kernel)
  exact ⟨fits, members _ _ fun p => List.mem_reverse, misses,
    outside [⟨[['*']], []⟩] ⟨vetoing, [("port".toList, "2200".toList)]⟩ [] misses, unseen _ _ _ removal misses⟩

end Blocks
end RemoteExec.ClientConfig
