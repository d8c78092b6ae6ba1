import RemoteExec.ClientConfig
import RemoteExec.Proofs.Text.Lines

namespace RemoteExec.ClientConfig

section Reading

def stated (line : List Char) : Option (List Char × List Char) :=
  if (Text.trim line).head? == some '#' then none else splitDirective (Text.trim line)

theorem stated_trimmed {line other : List Char} (same : Text.trim line = Text.trim other) :
    stated line = stated other := by
  rw [stated, stated, same]

theorem readLine_silent {line : List Char} (silent : stated line = none) (blocks : List HostBlock) :
    readLine blocks line = blocks := by
  rw [stated] at silent
  rw [readLine]
  split at silent
  next comment => rw [if_pos comment]
  next other => rw [if_neg other, silent]

theorem readLine_stated {line key value : List Char} (said : stated line = some (key, value)) (b : HostBlock)
    (older : List HostBlock) :
    readLine (b :: older) line =
      if Text.sameWord key "host".toList then ⟨Text.words value, []⟩ :: b :: older
      else ⟨b.patterns, b.directives ++ [(Text.lower key, value)]⟩ :: older := by
  rw [stated] at said
  rw [readLine]
  split at said
  next => cases said
  next other => rw [if_neg other, said]

variable (host : List Char)

def opens (on : Bool) (line : List Char) : Bool :=
  match stated line with
  | none => on
  | some (key, value) => if Text.sameWord key "host".toList then hostMatches (Text.words value) host else on

def gives (on : Bool) (line : List Char) : Option (List Char × List Char) :=
  match stated line with
  | none => none
  | some (key, value) => if Text.sameWord key "host".toList || !on then none else some (Text.lower key, value)

-- What stands before any `Host` line is for every host.
def inForce (lines : List (List Char)) : Bool := lines.foldl (opens host) true

def given (on : Bool) : List (List Char) → List (List Char × List Char)
  | [] => []
  | line :: below => (gives on line).toList ++ given (opens host on line) below

variable (on : Bool) {line : List Char}

theorem silent_line (silent : stated line = none) : gives on line = none ∧ opens host on line = on := by
  rw [gives, opens, silent]
  exact ⟨rfl, rfl⟩

theorem host_line {key value : List Char} (said : stated line = some (key, value))
    (heading : Text.sameWord key "host".toList = true) :
    gives on line = none ∧ opens host on line = hostMatches (Text.words value) host := by
  rw [gives, opens, said]
  exact ⟨if_pos (by rw [heading, Bool.true_or]), if_pos heading⟩

theorem directive_line {key value : List Char} (said : stated line = some (key, value))
    (other : ¬Text.sameWord key "host".toList = true) :
    gives on line = (if on then some (Text.lower key, value) else none) ∧ opens host on line = on := by
  rw [gives, opens, said]
  refine ⟨?_, if_neg other⟩
  dsimp only
  rw [Bool.eq_false_iff.mpr other, Bool.false_or]
  cases on
  · rfl
  · rfl

variable {on} in
theorem gives_some {d : List Char × List Char} (gave : gives on line = some d) :
    line ≠ [] ∧ on = true ∧ opens host on line = on := by
  cases said : stated line with
  | none =>
      rw [(silent_line host on said).1] at gave
      cases gave
  | some stating =>
      obtain ⟨key, value⟩ := stating
      by_cases heading : Text.sameWord key "host".toList = true
      · rw [(host_line host on said heading).1] at gave
        cases gave
      · obtain ⟨gives_it, stays⟩ := directive_line host on said heading
        refine ⟨?_, ?_, stays⟩
        · rintro rfl
          cases said
        · by_contra off
          rw [gives_it, if_neg off] at gave
          cases gave

variable {host} {on}

theorem gives_trimmed {other : List Char} (same : Text.trim line = Text.trim other) :
    gives on line = gives on other := by
  rw [gives, gives, stated_trimmed same]

theorem opens_trimmed {other : List Char} (same : Text.trim line = Text.trim other) :
    opens host on line = opens host on other := by
  rw [opens, opens, stated_trimmed same]

theorem given_append (above below : List (List Char)) :
    given host on (above ++ below) = given host on above ++ given host (above.foldl (opens host) on) below := by
  induction above generalizing on with
  | nil => rfl
  | cons line above ih => rw [List.cons_append, given, given, ih, List.append_assoc, List.foldl_cons]

theorem everyHost : hostMatches [['*']] host = true := by
  have any_text : ∀ t, globMatches [42] t = true := by
    intro t
    induction t with
    | nil => simp [globMatches]
    | cons b rest ih => simp [globMatches, ih]
  have star : Bytes.ofString (String.ofList ['*']) = [42] := by decide +kernel
  have lowered : Text.lower ['*'] = ['*'] := by decide +kernel
  simp [hostMatches, lowered, negated?, patternMatches, star, any_text]

theorem directivesFor_newest (b : HostBlock) (older : List HostBlock) :
    directivesFor (b :: older).reverse host =
      directivesFor older.reverse host ++ if hostMatches b.patterns host then b.directives else [] := by
  rw [directivesFor, directivesFor, List.reverse_cons, List.filter_append, List.flatMap_append]
  by_cases on : hostMatches b.patterns host = true
  · simp [on]
  · simp [on]

-- Directives are added to the newest block only, so those of the older ones stand in front for good.
theorem directivesFor_readLines (lines : List (List Char)) (b : HostBlock) (older : List HostBlock) :
    directivesFor (lines.foldl readLine (b :: older)).reverse host =
      directivesFor (b :: older).reverse host ++ given host (hostMatches b.patterns host) lines := by
  induction lines generalizing b older with
  | nil => rw [given, List.append_nil, List.foldl_nil]
  | cons line below ih =>
      rw [List.foldl_cons, given]
      cases said : stated line with
      | none =>
          obtain ⟨gives_none, stays⟩ := silent_line host (hostMatches b.patterns host) said
          rw [readLine_silent said, ih, gives_none, stays, Option.toList_none, List.nil_append]
      | some stating =>
          obtain ⟨key, value⟩ := stating
          rw [readLine_stated said]
          by_cases heading : Text.sameWord key "host".toList = true
          · obtain ⟨gives_none, starts⟩ := host_line host (hostMatches b.patterns host) said heading
            have empty : directivesFor (⟨Text.words value, []⟩ :: b :: older).reverse host =
                directivesFor (b :: older).reverse host := by
              rw [directivesFor_newest, ite_self, List.append_nil]
            rw [if_pos heading, ih, gives_none, starts, empty, Option.toList_none, List.nil_append]
          · obtain ⟨gives_it, stays⟩ := directive_line host (hostMatches b.patterns host) said heading
            rw [if_neg heading, ih, gives_it, stays, directivesFor_newest, directivesFor_newest]
            dsimp only
            by_cases on : hostMatches b.patterns host = true
            · rw [if_pos on, if_pos on, if_pos on, Option.toList_some, List.append_assoc, List.append_assoc,
                List.append_assoc]
            · rw [if_neg on, if_neg on, if_neg on, Option.toList_none, List.nil_append]

theorem directivesFor_parse (content : String) :
    directivesFor (parse content) host = given host true (Text.lines content.toList) := by
  have before : directivesFor [(⟨[['*']], []⟩ : HostBlock)].reverse host = [] := by
    rw [directivesFor_newest, everyHost]
    rfl
  rw [parse, ofLines, directivesFor_readLines, everyHost, before, List.nil_append]

end Reading

section Setting

inductive Keyword where
  | hostname
  | port
  | user
  | proxyCommand
deriving DecidableEq

def Keyword.name : Keyword → String
  | .hostname => "hostname"
  | .port => "port"
  | .user => "user"
  | .proxyCommand => "proxycommand"

theorem Keyword.name_inj {k other : Keyword} (same : k.name = other.name) : k = other := by
  revert same
  cases k <;> cases other <;> decide

abbrev Keyword.Value : Keyword → Type
  | .port => Nat
  | .hostname | .user | .proxyCommand => String

def valueOf (s : HostSettings) : (k : Keyword) → Option k.Value
  | .hostname => s.hostname
  | .port => s.port
  | .user => s.user
  | .proxyCommand => s.proxyCommand

variable {env : Environment} {host : List Char} {k : Keyword}

def Keyword.read (host : List Char) : (k : Keyword) → List Char → Option k.Value
  | .hostname, v => some (String.ofList (fillHost host v))
  | .port, v => Decimal.readNat? 65535 v
  | .user, v => some (String.ofList v)
  | .proxyCommand, v => if Text.sameWord v "none".toList then none else some (String.ofList v)

def Keyword.sets (host : List Char) (k : Keyword) (d : List Char × List Char) : Option k.Value :=
  if String.ofList d.1 = k.name then k.read host d.2 else none

def identity (env : Environment) (d : List Char × List Char) : Option String :=
  if String.ofList d.1 = "identityfile" then some (expandTilde env d.2) else none

theorem apply_eq (s : HostSettings) (d : List Char × List Char) :
    apply env host s d =
      { hostname := s.hostname.or (Keyword.hostname.sets host d)
        port := s.port.or (Keyword.port.sets host d)
        user := s.user.or (Keyword.user.sets host d)
        identityFiles := s.identityFiles ++ (identity env d).toList
        proxyCommand := s.proxyCommand.or (Keyword.proxyCommand.sets host d) } := by
  simp only [apply, Keyword.sets, Keyword.name, identity, beq_iff_eq]
  by_cases hostname : String.ofList d.1 = "hostname"
  · simp [hostname, Keyword.read]
  by_cases port : String.ofList d.1 = "port"
  · simp [port, Keyword.read]
  by_cases user : String.ofList d.1 = "user"
  · simp [user, Keyword.read]
  by_cases identityfile : String.ofList d.1 = "identityfile"
  · simp [identityfile]
  by_cases proxycommand : String.ofList d.1 = "proxycommand"
  · simp [proxycommand, Keyword.read]
  · simp [hostname, port, user, identityfile, proxycommand]

theorem valueOf_apply (s : HostSettings) (d : List Char × List Char) :
    valueOf (apply env host s d) k = (valueOf s k).or (k.sets host d) := by
  rw [apply_eq]
  cases k
  · rfl
  · rfl
  · rfl
  · rfl

theorem valueOf_foldl (ds : List (List Char × List Char)) (s : HostSettings) :
    valueOf (ds.foldl (apply env host) s) k = (valueOf s k).or (ds.findSome? (k.sets host)) := by
  induction ds generalizing s with
  | nil => rw [List.findSome?_nil, Option.or_none, List.foldl_nil]
  | cons d below ih =>
      rw [List.foldl_cons, ih, valueOf_apply, Option.or_assoc, List.findSome?_cons]
      cases k.sets host d with
      | none => rw [Option.none_or]
      | some value => rw [Option.some_or]

theorem identityFiles_foldl (ds : List (List Char × List Char)) (s : HostSettings) :
    (ds.foldl (apply env host) s).identityFiles = s.identityFiles ++ ds.filterMap (identity env) := by
  induction ds generalizing s with
  | nil => rw [List.filterMap_nil, List.append_nil, List.foldl_nil]
  | cons d below ih =>
      rw [List.foldl_cons, ih, apply_eq, List.append_assoc, List.filterMap_cons]
      cases identity env d with
      | none => rfl
      | some file => rfl

theorem settings_ext {s t : HostSettings} (values : ∀ k, valueOf s k = valueOf t k)
    (files : s.identityFiles = t.identityFiles) : s = t := by
  have hostname : s.hostname = t.hostname := values .hostname
  have port : s.port = t.port := values .port
  have user : s.user = t.user := values .user
  have proxyCommand : s.proxyCommand = t.proxyCommand := values .proxyCommand
  cases s
  cases t
  cases hostname
  cases port
  cases user
  cases proxyCommand
  cases files
  rfl

theorem valueOf_parse (content host : String) :
    valueOf (resolve env (parse content) host) k =
      (given host.toList true (Text.lines content.toList)).findSome? (k.sets host.toList) := by
  rw [resolve, valueOf_foldl, directivesFor_parse]
  cases k
  · rfl
  · rfl
  · rfl
  · rfl

theorem identityFiles_parse (content host : String) :
    (resolve env (parse content) host).identityFiles =
      (given host.toList true (Text.lines content.toList)).filterMap (identity env) := by
  rw [resolve, identityFiles_foldl, directivesFor_parse]
  rfl

end Setting

section Deletion

theorem findSome?_without {α β : Type} {f : α → Option β} (above : List α) (d : α) (below : List α) :
    (above ++ below).findSome? f = (above ++ d :: below).findSome? f ↔
      (∃ e ∈ above, (f e).isSome) ∨ f d = none ∨ below.findSome? f = f d := by
  rw [List.findSome?_append, List.findSome?_append, List.findSome?_cons]
  cases first : above.findSome? f with
  | some hit =>
      obtain ⟨e, member, hits⟩ := List.exists_of_findSome?_eq_some first
      simpa using Or.inl ⟨e, member, by rw [hits]; rfl⟩
  | none =>
      have no_hit : ¬∃ e ∈ above, (f e).isSome := by
        rintro ⟨e, member, hits⟩
        rw [List.findSome?_eq_none_iff.mp first e member] at hits
        cases hits
      rw [Option.none_or, Option.none_or]
      cases f d with
      | none => simp
      | some value => simp [no_hit]

variable {env : Environment} {host : String} {cut : Text.Cut} {k : Keyword} {value : List Char}

theorem given_cut {host : List Char} {d : List Char × List Char}
    (gave : gives (inForce host (Text.lines cut.before)) cut.line = some d) :
    given host true (Text.lines cut.whole.toList) =
        given host true (Text.lines cut.before) ++ d :: given host true (Text.lines cut.after) ∧
      given host true (Text.lines cut.rest.toList) =
        given host true (Text.lines cut.before) ++ given host true (Text.lines cut.after) := by
  obtain ⟨written, on, stays⟩ := gives_some host gave
  obtain ⟨read, same, whole⟩ := cut.lines_whole written
  have reached : (Text.lines cut.before).foldl (opens host) true = true := on
  rw [on] at gave stays
  rw [whole, cut.lines_rest, given_append, given_append, reached, given, gives_trimmed same, opens_trimmed same, gave,
    stays]
  exact ⟨rfl, rfl⟩

theorem sets_named : k.sets host.toList (k.name.toList, value) = k.read host.toList value := by
  rw [Keyword.sets, String.ofList_toList]
  exact if_pos rfl

theorem sets_other {other : Keyword} (differ : k ≠ other) : other.sets host.toList (k.name.toList, value) = none := by
  rw [Keyword.sets, String.ofList_toList]
  exact if_neg fun same => differ (Keyword.name_inj same)

theorem sets_some {d : List Char × List Char} (sets : (k.sets host.toList d).isSome) :
    d.1 = k.name.toList ∧ (k.read host.toList d.2).isSome := by
  rw [Keyword.sets] at sets
  split at sets
  next named => exact ⟨by rw [← named, String.toList_ofList], sets⟩
  next => cases sets

theorem identity_named : identity env (k.name.toList, value) = none := by
  have other : k.name ≠ "identityfile" := by
    cases k <;> decide
  rw [identity, String.ofList_toList]
  exact if_neg other

theorem same_values_iff
    (gave : gives (inForce host.toList (Text.lines cut.before)) cut.line = some (k.name.toList, value)) :
    resolve env (parse cut.rest) host = resolve env (parse cut.whole) host ↔
      valueOf (resolve env (parse cut.rest) host) k = valueOf (resolve env (parse cut.whole) host) k := by
  obtain ⟨whole, rest⟩ := given_cut gave
  refine ⟨fun same => congrArg (valueOf · k) same, fun same => settings_ext (fun other => ?_) ?_⟩
  · by_cases differ : k = other
    · rw [← differ]
      exact same
    · rw [valueOf_parse, valueOf_parse, whole, rest, List.findSome?_append, List.findSome?_append, List.findSome?_cons,
        sets_other differ]
  · rw [identityFiles_parse, identityFiles_parse, whole, rest, List.filterMap_append, List.filterMap_append,
      List.filterMap_cons, identity_named]

theorem unseen_iff (gave : gives (inForce host.toList (Text.lines cut.before)) cut.line = some (k.name.toList, value)) :
    resolve env (parse cut.rest) host = resolve env (parse cut.whole) host ↔
      (∃ earlier, (k.name.toList, earlier) ∈ given host.toList true (Text.lines cut.before) ∧
        (k.read host.toList earlier).isSome) ∨
      k.read host.toList value = none ∨
      (given host.toList true (Text.lines cut.after)).findSome? (k.sets host.toList) = k.read host.toList value := by
  obtain ⟨whole, rest⟩ := given_cut gave
  rw [same_values_iff gave, valueOf_parse, valueOf_parse, whole, rest, findSome?_without, sets_named]
  refine or_congr ⟨?_, ?_⟩ Iff.rfl
  · rintro ⟨⟨key, earlier⟩, member, sets⟩
    obtain ⟨rfl, reads⟩ := sets_some sets
    exact ⟨earlier, member, reads⟩
  · rintro ⟨earlier, member, reads⟩
    exact ⟨_, member, by rwa [sets_named]⟩

theorem deletion_unseen_iff (env : Environment) (host : String) :
    (∀ (cut : Text.Cut) (k : Keyword) (value : List Char),
      gives (inForce host.toList (Text.lines cut.before)) cut.line = some (k.name.toList, value) →
      (resolve env (parse cut.rest) host = resolve env (parse cut.whole) host ↔
        (∃ earlier, (k.name.toList, earlier) ∈ given host.toList true (Text.lines cut.before) ∧
          (k.read host.toList earlier).isSome) ∨
        k.read host.toList value = none ∨
        (given host.toList true (Text.lines cut.after)).findSome? (k.sets host.toList) = k.read host.toList value) ∧
      (k = .hostname ∨ k = .user →
        (∃ earlier, (k.name.toList, earlier) ∈ given host.toList true (Text.lines cut.before)) →
        resolve env (parse cut.rest) host = resolve env (parse cut.whole) host)) ∧
    ∀ content,
      (∀ k, valueOf (resolve env (parse content) host) k =
        (given host.toList true (Text.lines content.toList)).findSome? (Keyword.sets host.toList k)) ∧
      (resolve env (parse content) host).identityFiles =
        (given host.toList true (Text.lines content.toList)).filterMap (identity env) := by
  constructor
  · intro cut k value gave
    refine ⟨unseen_iff gave, ?_⟩
    rintro always ⟨earlier, member⟩
    refine (unseen_iff gave).mpr (Or.inl ⟨earlier, member, ?_⟩)
    obtain rfl | rfl := always
    · rfl
    · rfl
  · exact fun content => ⟨fun k => valueOf_parse content host, identityFiles_parse content host⟩

theorem second_user_unseen :
    ∃ cut : Text.Cut, cut.whole = "Host web*\nUser deploy\nHost *\nUSER root\n" ∧
      cut.rest = "Host web*\nUser deploy\nHost *\n" ∧
      gives (inForce "web01".toList (Text.lines cut.before)) cut.line = some ("user".toList, "root".toList) ∧
      ("user".toList, "deploy".toList) ∈ given "web01".toList true (Text.lines cut.before) ∧
      resolve ⟨[]⟩ (parse cut.rest) "web01" = resolve ⟨[]⟩ (parse cut.whole) "web01" := by
  let cut : Text.Cut :=
    ⟨"Host web*\nUser deploy\nHost *\n".toList, "USER root".toList, true, [], Or.inr rfl, by decide, nofun⟩
  have gave : gives (inForce "web01".toList (Text.lines cut.before)) cut.line =
      some (Keyword.user.name.toList, "root".toList) := by decide +kernel
  have earlier : ("user".toList, "deploy".toList) ∈ given "web01".toList true (Text.lines cut.before) := by
    decide +kernel
  have unseen := ((deletion_unseen_iff ⟨[]⟩ "web01").1 cut .user "root".toList gave).2 (Or.inr rfl) ⟨_, earlier⟩
  exact ⟨cut, rfl, rfl, gave, earlier, unseen⟩

-- `none` and a value that is no port leave the setting open for the next line.
theorem second_proxy_heard :
    ∃ cut : Text.Cut, cut.whole = "Port abc\nPort 22\nProxyCommand none\nProxyCommand nc %h 22\n" ∧
      cut.rest = "Port abc\nPort 22\nProxyCommand none\n" ∧
      gives (inForce "h".toList (Text.lines cut.before)) cut.line = some ("proxycommand".toList, "nc %h 22".toList) ∧
      ("proxycommand".toList, "none".toList) ∈ given "h".toList true (Text.lines cut.before) ∧
      ∀ env, (resolve env (parse cut.whole) "h").proxyCommand = some "nc %h 22" ∧
        (resolve env (parse cut.rest) "h").proxyCommand = none ∧
        (resolve env (parse cut.whole) "h").port = some 22 := by
  let cut : Text.Cut := ⟨"Port abc\nPort 22\nProxyCommand none\n".toList, "ProxyCommand nc %h 22".toList, true, [],
    Or.inr rfl, by decide, nofun⟩
  refine ⟨cut, rfl, rfl, by decide +kernel, by decide +kernel, fun env => ⟨?_, ?_, ?_⟩⟩
  · exact (valueOf_parse (k := .proxyCommand) _ "h").trans (by decide +kernel)
  · exact (valueOf_parse (k := .proxyCommand) _ "h").trans (by decide +kernel)
  · exact (valueOf_parse (k := .port) _ "h").trans (by decide +kernel)

end Deletion
end RemoteExec.ClientConfig
