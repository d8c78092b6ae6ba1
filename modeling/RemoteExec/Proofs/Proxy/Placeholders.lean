import Mathlib.Data.List.Infix
import RemoteExec.Proxy.Placeholders

namespace RemoteExec.Proxy

inductive Place where
  | host
  | port
  | user
deriving DecidableEq

namespace Place

def letter : Place → Char
  | .host => 'h'
  | .port => 'p'
  | .user => 'r'

def mark (p : Place) : List Char := ['%', p.letter]

def value (r : Route) : Place → List Char
  | .host => r.host.toList
  | .port => (toString r.port).toList
  | .user => r.user.toList

theorem letter_ne_percent (p : Place) : p.letter ≠ '%' := by cases p <;> decide

theorem letter_injective {p q : Place} (same : p.letter = q.letter) : p = q := by
  cases p <;> cases q <;> first | rfl | exact absurd same (by decide)

end Place

def Kept (c : Char) (rest : List Char) : Prop := ∀ p : Place, c = '%' → rest.head? ≠ some p.letter

section Filling

variable (r : Route)

def filling (template : List Char) : List Char := fill r.host.toList (toString r.port).toList r.user.toList template

theorem filling_place (p : Place) (rest : List Char) : filling r (p.mark ++ rest) = p.value r ++ filling r rest := by
  cases p <;> rfl

theorem filling_kept {c : Char} {rest : List Char} (kept : Kept c rest) : filling r (c :: rest) = c :: filling r rest := by
  have apart : ∀ (p : Place) (after : List Char), c = '%' → rest = p.letter :: after → False := by
    rintro p after percent rfl
    exact kept p percent rfl
  rw [filling, fill]
  · rfl
  · exact apart .host
  · exact apart .port
  · exact apart .user

end Filling

theorem template_induction {motive : List Char → Prop} (nil : motive [])
    (place : ∀ p rest, motive rest → motive (Place.mark p ++ rest))
    (kept : ∀ c rest, Kept c rest → motive rest → motive (c :: rest)) (template : List Char) : motive template := by
  induction template using fill.induct with
  | case1 rest ih => exact place .host rest ih
  | case2 rest ih => exact place .port rest ih
  | case3 rest ih => exact place .user rest ih
  | case4 c rest host port user ih =>
      refine kept c rest ?_ ih
      intro p percent first
      obtain ⟨after, rfl⟩ := List.head?_eq_some_iff.mp first
      cases p with
      | host => exact host after percent rfl
      | port => exact port after percent rfl
      | user => exact user after percent rfl
  | case5 => exact nil

def Free (s : List Char) : Prop := ∀ p : Place, ¬p.mark <:+: s

theorem free_nil : Free [] := by
  intro p inside
  simp [Place.mark] at inside

theorem mark_prefix_iff {p : Place} {c : Char} {rest : List Char} :
    p.mark <+: c :: rest ↔ c = '%' ∧ rest.head? = some p.letter := by
  cases rest <;> simp [Place.mark, List.cons_prefix_cons, eq_comm]

theorem free_cons {c : Char} {rest : List Char} : Free (c :: rest) ↔ Kept c rest ∧ Free rest := by
  constructor
  · intro free
    exact ⟨fun p percent letter => free p (mark_prefix_iff.mpr ⟨percent, letter⟩).isInfix, fun p inside =>
      free p (List.infix_cons inside)⟩
  · rintro ⟨kept, free⟩ p inside
    obtain first | later := List.infix_cons_iff.mp inside
    · obtain ⟨percent, letter⟩ := mark_prefix_iff.mp first
      exact kept p percent letter
    · exact free p later

theorem Kept.append {c : Char} {s rest : List Char} (kept : Kept c s)
    (apart : s = [] → c = '%' → ∀ p : Place, rest.head? ≠ some p.letter) : Kept c (s ++ rest) := by
  intro p percent
  cases s with
  | nil => exact apart rfl percent p
  | cons d s => exact kept p percent

theorem Kept.left {c : Char} {s rest : List Char} (kept : Kept c (s ++ rest)) : Kept c s := by
  intro p percent
  cases s with
  | nil => simp
  | cons d s => exact kept p percent

theorem filling_append (r : Route) {first second : List Char}
    (joined : first.getLast? = some '%' → ∀ p : Place, second.head? ≠ some p.letter) :
    filling r (first ++ second) = filling r first ++ filling r second := by
  induction first using template_induction with
  | nil => rfl
  | place p rest ih =>
      have later : rest.getLast? = some '%' → ∀ q : Place, second.head? ≠ some q.letter := by
        intro ended
        exact joined (by rw [List.getLast?_append, ended]; rfl)
      rw [List.append_assoc, filling_place, filling_place, ih later, List.append_assoc]
  | kept c rest kept ih =>
      have later : rest.getLast? = some '%' → ∀ q : Place, second.head? ≠ some q.letter := by
        intro ended
        exact joined (by rw [List.getLast?_cons, ended]; rfl)
      have still : Kept c (rest ++ second) := by
        refine kept.append ?_
        rintro rfl rfl
        exact joined rfl
      rw [List.cons_append, filling_kept r still, filling_kept r kept, ih later, List.cons_append]

theorem filling_free (r : Route) {s : List Char} (free : Free s) : filling r s = s := by
  induction s with
  | nil => rfl
  | cons c rest ih =>
      obtain ⟨kept, free⟩ := free_cons.mp free
      rw [filling_kept r kept, ih free]

structure Cutting where
  pieces : List (List Char × Place)
  last : List Char
  between : ∀ piece ∈ pieces, Free piece.1
  behind : Free last

section Cutting

def marked (pieces : List (List Char × Place)) : List Char := pieces.flatMap fun piece => piece.1 ++ piece.2.mark

def valued (r : Route) (pieces : List (List Char × Place)) : List Char :=
  pieces.flatMap fun piece => piece.1 ++ piece.2.value r

def Cutting.text (c : Cutting) : List Char := marked c.pieces ++ c.last

def Cutting.filled (r : Route) (c : Cutting) : List Char := valued r c.pieces ++ c.last

theorem marked_cons (s : List Char) (p : Place) (pieces : List (List Char × Place)) (last : List Char) :
    marked ((s, p) :: pieces) ++ last = s ++ (p.mark ++ (marked pieces ++ last)) := by
  simp [marked]

theorem filling_pieces (r : Route) {pieces : List (List Char × Place)} (between : ∀ piece ∈ pieces, Free piece.1)
    {last : List Char} (behind : Free last) : filling r (marked pieces ++ last) = valued r pieces ++ last := by
  induction pieces with
  | nil => exact filling_free r behind
  | cons piece rest ih =>
      obtain ⟨s, p⟩ := piece
      obtain ⟨free, between⟩ := List.forall_mem_cons.mp between
      have joined : s.getLast? = some '%' → ∀ q : Place, (p.mark ++ (marked rest ++ last)).head? ≠ some q.letter := by
        intro _ q same
        exact q.letter_ne_percent (Option.some.inj same).symm
      rw [marked_cons, filling_append r joined, filling_free r free, filling_place, ih between]
      simp [valued]

theorem cutting_exists (template : List Char) : ∃ c : Cutting, c.text = template := by
  induction template using template_induction with
  | nil => exact ⟨⟨[], [], List.forall_mem_nil _, free_nil⟩, rfl⟩
  | place p rest ih =>
      obtain ⟨⟨pieces, last, between, behind⟩, rfl⟩ := ih
      exact ⟨⟨([], p) :: pieces, last, List.forall_mem_cons.mpr ⟨free_nil, between⟩, behind⟩, marked_cons _ _ _ _⟩
  | kept c rest kept ih =>
      obtain ⟨⟨pieces, last, between, behind⟩, rfl⟩ := ih
      cases pieces with
      | nil => exact ⟨⟨[], c :: last, List.forall_mem_nil _, free_cons.mpr ⟨kept, behind⟩⟩, rfl⟩
      | cons piece pieces =>
          obtain ⟨s, p⟩ := piece
          obtain ⟨free, between⟩ := List.forall_mem_cons.mp between
          rw [Cutting.text, marked_cons] at kept
          have longer : Free (c :: s) := free_cons.mpr ⟨kept.left, free⟩
          refine ⟨⟨(c :: s, p) :: pieces, last, List.forall_mem_cons.mpr ⟨longer, between⟩, behind⟩, ?_⟩
          simp [Cutting.text, marked_cons]

theorem nothing_left {s t x y : List Char} {p q : Place} (free : Free (s ++ t))
    (same : p.mark ++ x = t ++ (q.mark ++ y)) : t = [] := by
  cases t with
  | nil => rfl
  | cons c t =>
      obtain ⟨rfl, letters⟩ := List.cons_eq_cons.mp same
      cases t with
      | nil => exact absurd (List.cons_eq_cons.mp letters).1 p.letter_ne_percent
      | cons d t =>
          obtain ⟨rfl, _⟩ := List.cons_eq_cons.mp letters
          exact absurd ⟨s, t, by simp [Place.mark]⟩ (free p)

theorem first_place_unique {s t x y : List Char} {p q : Place} (first : Free s) (second : Free t)
    (same : s ++ (p.mark ++ x) = t ++ (q.mark ++ y)) : s = t ∧ p = q ∧ x = y := by
  have cut : s = t ∧ p.mark ++ x = q.mark ++ y := by
    obtain ⟨more, rfl, rest⟩ | ⟨more, rfl, rest⟩ := List.append_eq_append_iff.mp same
    · obtain rfl := nothing_left second rest
      exact ⟨(List.append_nil s).symm, rest⟩
    · obtain rfl := nothing_left first rest
      exact ⟨List.append_nil t, rest.symm⟩
  obtain ⟨same_text, same_rest⟩ := cut
  obtain ⟨_, same_rest⟩ := List.cons_eq_cons.mp same_rest
  obtain ⟨letter, rest⟩ := List.cons_eq_cons.mp same_rest
  exact ⟨same_text, Place.letter_injective letter, rest⟩

theorem pieces_unique {pieces others : List (List Char × Place)} {last final : List Char}
    (between : ∀ piece ∈ pieces, Free piece.1) (behind : Free last)
    (among : ∀ piece ∈ others, Free piece.1) (after : Free final)
    (same : marked pieces ++ last = marked others ++ final) : pieces = others ∧ last = final := by
  have marked_inside : ∀ (s : List Char) (p : Place) (x : List Char), ¬Free (s ++ (p.mark ++ x)) :=
    fun s p x free => free p ⟨s, x, by simp⟩
  induction pieces generalizing others with
  | nil =>
      cases others with
      | nil => exact ⟨rfl, same⟩
      | cons other others =>
          obtain ⟨t, q⟩ := other
          rw [marked_cons] at same
          exact absurd (same ▸ behind : Free (t ++ (q.mark ++ (marked others ++ final)))) (marked_inside _ _ _)
  | cons piece pieces ih =>
      obtain ⟨s, p⟩ := piece
      obtain ⟨free, between⟩ := List.forall_mem_cons.mp between
      rw [marked_cons] at same
      cases others with
      | nil => exact absurd (same ▸ after : Free (s ++ (p.mark ++ (marked pieces ++ last)))) (marked_inside _ _ _)
      | cons other others =>
          obtain ⟨t, q⟩ := other
          obtain ⟨free_other, among_rest⟩ := List.forall_mem_cons.mp among
          rw [marked_cons] at same
          obtain ⟨rfl, rfl, rest⟩ := first_place_unique free free_other same
          obtain ⟨rfl, ended⟩ := ih between among_rest rest
          exact ⟨rfl, ended⟩

theorem cutting_unique {c d : Cutting} (same : c.text = d.text) : c = d := by
  obtain ⟨pieces, last, between, behind⟩ := c
  obtain ⟨others, final, among, after⟩ := d
  obtain ⟨rfl, rfl⟩ := pieces_unique between behind among after same
  rfl

end Cutting

section Successive

-- What is left of a text when each occurrence of another in it is replaced, from left to right; as many characters as
-- `skip` says belong to an occurrence that has been replaced.
def replaceFrom (old new : List Char) : Nat → List Char → List Char
  | _, [] => []
  | skip + 1, _ :: rest => replaceFrom old new skip rest
  | 0, c :: rest =>
    if old.isPrefixOf (c :: rest) then new ++ replaceFrom old new (old.length - 1) rest
    else c :: replaceFrom old new 0 rest

def replaceAll (old new s : List Char) : List Char := replaceFrom old new 0 s

variable (p : Place) (new : List Char)

theorem replaceAll_place (rest : List Char) :
    replaceAll p.mark new (p.mark ++ rest) = new ++ replaceAll p.mark new rest := by
  cases p <;> rfl

theorem replaceAll_other {c : Char} {rest : List Char} (other : c = '%' → rest.head? ≠ some p.letter) :
    replaceAll p.mark new (c :: rest) = c :: replaceAll p.mark new rest := by
  have differs : ¬p.mark.isPrefixOf (c :: rest) = true := by
    rw [List.isPrefixOf_iff_prefix, mark_prefix_iff]
    exact fun ⟨percent, letter⟩ => other percent letter
  rw [replaceAll, replaceFrom, if_neg differs]
  rfl

theorem replaceAll_plain {s : List Char} (plain : '%' ∉ s) (rest : List Char) :
    replaceAll p.mark new (s ++ rest) = s ++ replaceAll p.mark new rest := by
  induction s with
  | nil => rfl
  | cons c s ih =>
      obtain ⟨other, plain⟩ := not_or.mp (List.mem_cons.not.mp plain)
      rw [List.cons_append, replaceAll_other p new fun same => absurd same.symm other, ih plain, List.cons_append]

theorem head_replaceAll {s : List Char} (plain : s.head? ≠ some '%') : (replaceAll p.mark new s).head? = s.head? := by
  cases s with
  | nil => rfl
  | cons c s =>
      have other : c ≠ '%' := fun same => plain (congrArg some same)
      rw [replaceAll_other p new fun same => absurd same other]
      rfl

theorem replaceAll_mark {p q : Place} (differs : q ≠ p) (new rest : List Char) :
    replaceAll p.mark new (q.mark ++ rest) = q.mark ++ replaceAll p.mark new rest := by
  have letter : replaceAll p.mark new (q.letter :: rest) = q.letter :: replaceAll p.mark new rest :=
    replaceAll_other p new fun percent => absurd percent q.letter_ne_percent
  have percent : replaceAll p.mark new ('%' :: q.letter :: rest) = '%' :: replaceAll p.mark new (q.letter :: rest) :=
    replaceAll_other p new fun _ same => differs (Place.letter_injective (Option.some.inj same))
  exact percent.trans (congrArg _ letter)

def successive (r : Route) (s : List Char) : List Char :=
  replaceAll Place.user.mark (Place.user.value r)
    (replaceAll Place.port.mark (Place.port.value r) (replaceAll Place.host.mark (Place.host.value r) s))

variable {r : Route}

theorem port_plain (r : Route) : '%' ∉ Place.port.value r := by
  intro member
  rw [Place.value, Nat.toString_eq_ofList_toDigits, String.toList_ofList] at member
  exact absurd (Nat.isDigit_of_mem_toDigits (by decide) (by decide) member) (by decide)

-- Nothing is replaced after the user, so it may have any characters.
theorem successive_place (host : '%' ∉ Place.host.value r) (p : Place) (rest : List Char) :
    successive r (p.mark ++ rest) = p.value r ++ successive r rest := by
  rw [successive]
  cases p with
  | host =>
      rw [replaceAll_place, replaceAll_plain _ _ host, replaceAll_plain _ _ host]
      rfl
  | port =>
      rw [replaceAll_mark (by decide), replaceAll_place, replaceAll_plain _ _ (port_plain r)]
      rfl
  | user =>
      rw [replaceAll_mark (by decide), replaceAll_mark (by decide), replaceAll_place]
      rfl

theorem successive_kept {c : Char} {rest : List Char} (kept : Kept c rest) (single : c = '%' → rest.head? ≠ some '%') :
    successive r (c :: rest) = c :: successive r rest := by
  have host_head : c = '%' → (replaceAll Place.host.mark (Place.host.value r) rest).head? = rest.head? :=
    fun percent => head_replaceAll _ _ (single percent)
  have port_head : c = '%' → (replaceAll Place.port.mark (Place.port.value r)
      (replaceAll Place.host.mark (Place.host.value r) rest)).head? = rest.head? := by
    intro percent
    rw [head_replaceAll _ _ (by rw [host_head percent]; exact single percent), host_head percent]
  rw [successive, replaceAll_other .host _ (kept .host),
    replaceAll_other .port _ fun percent => by rw [host_head percent]; exact kept .port percent,
    replaceAll_other .user _ fun percent => by rw [port_head percent]; exact kept .user percent]
  rfl

theorem filling_successive (host : '%' ∉ Place.host.value r) {template : List Char}
    (single : ¬['%', '%'] <:+: template) : filling r template = successive r template := by
  induction template using template_induction with
  | nil => rfl
  | place p rest ih =>
      have later : ¬['%', '%'] <:+: rest := fun inside => single (inside.trans (List.suffix_append _ _).isInfix)
      rw [filling_place, successive_place host, ih later]
  | kept c rest kept ih =>
      have later : ¬['%', '%'] <:+: rest := fun inside => single (List.infix_cons inside)
      have apart : c = '%' → rest.head? ≠ some '%' := by
        rintro rfl first
        obtain ⟨after, rfl⟩ := List.head?_eq_some_iff.mp first
        exact single ⟨[], after, rfl⟩
      rw [filling_kept r kept, successive_kept kept apart, ih later]

end Successive

theorem substitute_single_pass (template : String) (r : Route) :
    (∃! c : Cutting, c.text = template.toList) ∧
      (∀ c : Cutting, c.text = template.toList → (substitute template r).toList = c.filled r) ∧
      (∀ before after : String, (∀ p : Place, after.toList.head? ≠ some p.letter) →
        substitute (before ++ "%" ++ after) r = substitute before r ++ "%" ++ substitute after r) ∧
      (∀ first second : String, first.toList.getLast? ≠ some '%' →
        substitute (first ++ second) r = substitute first r ++ substitute second r) ∧
      (¬"%%".toList <:+: template.toList → '%' ∉ r.host.toList →
        (substitute template r).toList =
          replaceAll "%r".toList r.user.toList
            (replaceAll "%p".toList (toString r.port).toList (replaceAll "%h".toList r.host.toList template.toList))) := by
  have filled : ∀ s : String, (substitute s r).toList = filling r s.toList := fun s => String.toList_ofList
  refine ⟨?cut, ?pieces, ?percent, ?append, ?successive⟩
  case cut =>
    obtain ⟨c, text⟩ := cutting_exists template.toList
    exact ⟨c, text, fun d same => cutting_unique (same.trans text.symm)⟩
  case pieces =>
    intro c text
    rw [filled, ← text]
    exact filling_pieces r c.between c.behind
  case percent =>
    intro before after apart
    have kept : Kept '%' after.toList := fun p _ => apart p
    have joined : before.toList.getLast? = some '%' → ∀ p : Place, ('%' :: after.toList).head? ≠ some p.letter :=
      fun _ p same => p.letter_ne_percent (Option.some.inj same).symm
    rw [← String.toList_inj, filled, String.toList_append, String.toList_append, String.toList_append,
      String.toList_append, filled, filled, List.append_assoc, List.append_assoc]
    exact (filling_append r joined).trans (congrArg _ (filling_kept r kept))
  case append =>
    intro first second apart
    rw [← String.toList_inj, filled, String.toList_append, String.toList_append, filled, filled]
    exact filling_append r fun ended => absurd ended apart
  case successive =>
    intro single host
    rw [filled]
    exact filling_successive host single

theorem substitute_relay_line :
    (substitute "nc %h:%p %" ⟨"web01", 22, "bob"⟩).toList = "nc web01:22 %".toList ∧
      substitute ("nc %h:%p " ++ "%" ++ "") ⟨"web01", 22, "bob"⟩ =
        substitute "nc %h:%p " ⟨"web01", 22, "bob"⟩ ++ "%" ++ substitute "" ⟨"web01", 22, "bob"⟩ ∧
      substitute ("nc %h" ++ ":%p %") ⟨"web01", 22, "bob"⟩ =
        substitute "nc %h" ⟨"web01", 22, "bob"⟩ ++ substitute ":%p %" ⟨"web01", 22, "bob"⟩ ∧
      (substitute "nc %h:%p %" ⟨"web01", 22, "bob"⟩).toList =
        replaceAll "%r".toList "bob".toList
          (replaceAll "%p".toList (toString 22).toList (replaceAll "%h".toList "web01".toList "nc %h:%p %".toList)) := by
  obtain ⟨_, pieces, percent, append, successive⟩ := substitute_single_pass "nc %h:%p %" ⟨"web01", 22, "bob"⟩
  have between : ∀ piece ∈ [("nc ".toList, Place.host), (":".toList, Place.port)], Free piece.1 := by
    intro piece member p
    obtain rfl | member := List.mem_cons.mp member
    · cases p <;> decide
    · obtain rfl := List.mem_singleton.mp member
      cases p <;> decide
  have behind : Free " %".toList := fun p => by cases p <;> decide
  refine ⟨?_, percent "nc %h:%p " "" (fun p => by simp), append "nc %h" ":%p %" (by decide),
    successive (by decide) (by decide)⟩
  exact pieces ⟨[("nc ".toList, .host), (":".toList, .port)], " %".toList, between, behind⟩ rfl

-- Replacing one after another would look into a host that has a place in its name.
example : substitute "%h" ⟨"%p", 22, "bob"⟩ = "%p" ∧
    successive ⟨"%p", 22, "bob"⟩ "%h".toList = "22".toList := by decide +kernel

end RemoteExec.Proxy
