/-
  Routing/Proofs/Ways.lean
  ========================
  **All ways to match an expression, preferred ones first.**  `Regex.run` goes
  from place to place with continuations and keeps answers; nothing of that shows
  in its result. Here an expression stands for the list of all the ways in which
  it can match, in the order in which they are tried: alternatives are appended,
  sequences try every way of the second part after each way of the first, and a
  repetition puts going on before stopping or the other way round.

  `run_follows` says that `run` gives the first way after which the rest of the
  match succeeds, and `captures_anchored` that the groups of an expression which
  starts at the start of the text are those of its first way.
-/
import Routing.Regex.Capture
import Mathlib.Data.List.Basic

namespace Routing.Regex

/-- A way to match: the text that is matched and the groups in it. -/
structure Way where
  text : List Char
  groups : Groups
deriving DecidableEq, Repr

def Way.append (first second : Way) : Way :=
  ⟨first.text ++ second.text, first.groups ++ second.groups⟩

/-- The ways to match at a place, preferred ones first. A place is given by the
    character before it and the text after it. -/
abbrev Ways := Option Char → List Char → List Way

/-- The character before the end of `text`, which starts after `before`. -/
def lastOf (before : Option Char) (text : List Char) : Option Char :=
  text.getLast?.or before

namespace Ways

def nothing : Ways := fun _ _ => [⟨[], []⟩]

def andThen (first second : Ways) : Ways := fun before cs =>
  (first before cs).flatMap fun w =>
    (second (lastOf before w.text) (cs.drop w.text.length)).map w.append

def orElse (first second : Ways) : Ways := fun before cs =>
  first before cs ++ second before cs

/-- Going on first when greedy, stopping first otherwise. -/
def goOnOrStop (greedy : Bool) (more stop : Ways) : Ways :=
  if greedy then more.orElse stop else stop.orElse more

/-- The ways that match at least one character. -/
def solid (body : Ways) : Ways := fun before cs =>
  (body before cs).filter fun w => !w.text.isEmpty

def times (body : Ways) : Nat → Ways
  | 0 => nothing
  | count + 1 => body.andThen (body.times count)

def upTo (greedy : Bool) (body : Ways) : Nat → Ways
  | 0 => nothing
  | count + 1 => goOnOrStop greedy (body.andThen (upTo greedy body count)) nothing

/-- `body` any number of times, each time with at least one character; `count`
    bounds the characters left. -/
def many (greedy : Bool) (body : Ways) : Nat → Ways
  | 0 => nothing
  | count + 1 => goOnOrStop greedy (body.solid.andThen (many greedy body count)) nothing

end Ways

def ways : Regex → Ways
  | .empty => Ways.nothing
  | .chars s => fun _ cs =>
    match cs with
    | [] => []
    | c :: _ => if s.contains c then [⟨[c], []⟩] else []
  | .look l => fun before cs => if l.holds before cs.head? then [⟨[], []⟩] else []
  | .seq a b => (ways a).andThen (ways b)
  | .alt a b => (ways a).orElse (ways b)
  | .rep body least most greedy =>
    ((ways body).times least).andThen <|
      match most with
      | some most => Ways.upTo greedy (ways body) (most - least)
      | none => fun before cs => Ways.many greedy (ways body) cs.length before cs
  | .group index body => fun before cs =>
    (ways body before cs).map fun w => ⟨w.text, w.groups ++ [(index, w.text)]⟩

/-! ### Sequences -/

@[simp] theorem Way.append_mk_nil : Way.append ⟨[], []⟩ = id := by
  funext w
  simp [Way.append]

theorem Way.append_comp (a b : Way) : (a.append b).append = a.append ∘ b.append := by
  funext c
  simp [Way.append]

theorem lastOf_append (before : Option Char) (first second : List Char) :
    lastOf before (first ++ second) = lastOf (lastOf before first) second := by
  rw [lastOf, lastOf, lastOf, List.getLast?_append, Option.or_assoc]

theorem Ways.nothing_andThen (w : Ways) : nothing.andThen w = w := by
  funext before cs
  simp [andThen, nothing, lastOf]

theorem Ways.andThen_nothing (w : Ways) : w.andThen nothing = w := by
  funext before cs
  simp [andThen, nothing, Way.append]

theorem Ways.andThen_assoc (a b c : Ways) : (a.andThen b).andThen c = a.andThen (b.andThen c) := by
  funext before cs
  simp only [andThen, List.flatMap_assoc, List.map_flatMap]
  refine List.flatMap_congr fun first _ => ?_
  rw [List.flatMap_map]
  refine List.flatMap_congr fun second _ => ?_
  have htext : (first.append second).text = first.text ++ second.text := rfl
  rw [htext, lastOf_append, List.length_append, List.drop_drop, Way.append_comp, List.map_map]

/-! ### Every way matches what stands at its place -/

/-- Each way's text stands at the place where the way starts. -/
def Ways.Local (w : Ways) : Prop :=
  ∀ before cs, ∀ way ∈ w before cs, way.text <+: cs

namespace Ways

theorem local_nothing : nothing.Local := by
  intro before cs way h
  simp only [nothing, List.mem_singleton] at h
  subst h
  exact List.nil_prefix

theorem Local.andThen {first second : Ways} (h₁ : first.Local) (h₂ : second.Local) :
    (first.andThen second).Local := by
  intro before cs way h
  simp only [Ways.andThen, List.mem_flatMap, List.mem_map] at h
  obtain ⟨a, ha, b, hb, rfl⟩ := h
  obtain ⟨rest, rfl⟩ := h₁ before cs a ha
  rw [List.drop_left] at hb
  obtain ⟨tail, rfl⟩ := h₂ _ rest b hb
  exact ⟨tail, by simp [Way.append]⟩

theorem Local.orElse {first second : Ways} (h₁ : first.Local) (h₂ : second.Local) :
    (first.orElse second).Local := by
  intro before cs way h
  rcases List.mem_append.mp h with h | h
  · exact h₁ before cs way h
  · exact h₂ before cs way h

theorem Local.goOnOrStop {more stop : Ways} (greedy : Bool) (h₁ : more.Local) (h₂ : stop.Local) :
    (Ways.goOnOrStop greedy more stop).Local := by
  cases greedy with
  | true => exact h₁.orElse h₂
  | false => exact h₂.orElse h₁

theorem Local.solid {body : Ways} (h : body.Local) : body.solid.Local :=
  fun before cs way hway => h before cs way (List.mem_filter.mp hway).1

theorem Local.times {body : Ways} (h : body.Local) (count : Nat) : (body.times count).Local := by
  induction count with
  | zero => exact local_nothing
  | succ count ih => exact h.andThen ih

theorem Local.upTo {body : Ways} (greedy : Bool) (h : body.Local) (count : Nat) :
    (Ways.upTo greedy body count).Local := by
  induction count with
  | zero => exact local_nothing
  | succ count ih => exact (h.andThen ih).goOnOrStop greedy local_nothing

theorem Local.many {body : Ways} (greedy : Bool) (h : body.Local) (count : Nat) :
    (Ways.many greedy body count).Local := by
  induction count with
  | zero => exact local_nothing
  | succ count ih => exact (h.solid.andThen ih).goOnOrStop greedy local_nothing

end Ways

/-- **Ways never look behind the text that they match.** -/
theorem local_ways (r : Regex) : (ways r).Local := by
  induction r with
  | empty => exact Ways.local_nothing
  | chars s =>
    intro before cs way h
    cases cs with
    | nil => simp [ways] at h
    | cons c cs =>
      simp only [ways] at h
      split at h
      · rw [List.mem_singleton] at h
        subst h
        exact ⟨cs, rfl⟩
      · simp at h
  | look l => -- a test takes no character
    intro before cs way h
    simp only [ways] at h
    split at h
    · rw [List.mem_singleton] at h
      subst h
      exact List.nil_prefix
    · simp at h
  | seq a b ha hb => exact ha.andThen hb
  | alt a b ha hb => exact ha.orElse hb
  | rep body least most greedy ih => -- the least number of times, and then on as far as it may go
    refine (ih.times least).andThen ?_
    cases most with
    | some most => exact ih.upTo greedy (most - least)
    | none => exact fun before cs way h => ih.many greedy cs.length before cs way h
  | group index body ih =>
    intro before cs way h
    simp only [ways, List.mem_map] at h
    obtain ⟨w, hw, rfl⟩ := h
    exact ih before cs w hw

/-! ### Matching goes through the ways in order -/

theorem findSome?_flatMap {α β γ : Type} (l : List α) (f : α → List β) (g : β → Option γ) :
    (l.flatMap f).findSome? g = l.findSome? fun a => (f a).findSome? g := by
  induction l with
  | nil => rfl
  | cons a l ih =>
    rw [List.flatMap_cons, List.findSome?_append, ih, List.findSome?_cons]
    cases (f a).findSome? g <;> rfl

theorem findSome?_congr {α β : Type} {l : List α} {f g : α → Option β} (h : ∀ a ∈ l, f a = g a) :
    l.findSome? f = l.findSome? g := by
  induction l with
  | nil => rfl
  | cons a l ih =>
    rw [List.findSome?_cons, List.findSome?_cons, h a (by simp),
      ih fun b hb => h b (List.mem_cons_of_mem a hb)]

theorem findSome?_filter {α β : Type} (l : List α) (p : α → Bool) (f : α → Option β) :
    (l.filter p).findSome? f = l.findSome? fun a => if p a then f a else none := by
  induction l with
  | nil => rfl
  | cons a l ih =>
    rw [List.filter_cons, List.findSome?_cons]
    cases p a with
    | true => rw [if_pos rfl, List.findSome?_cons, ih, if_pos rfl]
    | false => rw [if_neg Bool.false_ne_true, ih, if_neg Bool.false_ne_true]

def before? (text : Array Char) (place : Nat) : Option Char :=
  if place = 0 then none else text[place - 1]?

/-- The answer after a way that starts at `place`: its groups, and those of the
    rest of the match. -/
def answerAfter (rest : Rest) (place : Nat) (way : Way) : Option Groups :=
  (rest.at? (place + way.text.length)).map (way.groups ++ ·)

/-- The answers of `step` are those after the first way that has one. -/
def Follows (text : Array Char) (step : Rest → Rest) (w : Ways) : Prop :=
  ∀ rest place, place ≤ text.size →
    (step rest).at? place =
      (w (before? text place) (text.toList.drop place)).findSome? (answerAfter rest place)

section

variable {text : Array Char} {place : Nat} {matched : List Char}

theorem place_add_le (hplace : place ≤ text.size) (h : matched <+: text.toList.drop place) :
    place + matched.length ≤ text.size := by
  have hsize : text.toList.length = text.size := Array.length_toList
  have := h.length_le
  rw [List.length_drop, hsize] at this
  omega

theorem drop_place_add : text.toList.drop (place + matched.length) =
    (text.toList.drop place).drop matched.length := by
  rw [List.drop_drop]

theorem slice_eq (h : matched <+: text.toList.drop place) :
    slice text place (place + matched.length) = matched := by
  obtain ⟨tail, htail⟩ := h
  rw [slice, Array.toList_extract, List.extract, Nat.add_sub_cancel_left, ← htail,
    List.take_left]

theorem before?_add (h : matched <+: text.toList.drop place) :
    before? text (place + matched.length) = lastOf (before? text place) matched := by
  rcases List.eq_nil_or_concat' matched with rfl | ⟨front, last, rfl⟩
  · simp [lastOf]
  · obtain ⟨tail, htail⟩ := h
    have hlast : text.toList[place + front.length]? = some last := by
      rw [← List.getElem?_drop, ← htail]
      simp
    have hplace : place + (front ++ [last]).length - 1 = place + front.length := by
      simp only [List.length_append, List.length_singleton]
      omega
    have hpos : place + (front ++ [last]).length ≠ 0 := by simp
    rw [before?, if_neg hpos, hplace, ← Array.getElem?_toList, hlast]
    simp [lastOf]

end

namespace Follows

variable {text : Array Char}

theorem id : Follows text (fun rest => rest) Ways.nothing := by
  intro rest place _
  simp [Ways.nothing, answerAfter]

theorem andThen {step₁ step₂ : Rest → Rest} {w₁ w₂ : Ways} (hlocal : w₁.Local)
    (h₁ : Follows text step₁ w₁) (h₂ : Follows text step₂ w₂) :
    Follows text (fun rest => step₁ (step₂ rest)) (w₁.andThen w₂) := by
  intro rest place hplace
  rw [h₁ (step₂ rest) place hplace, Ways.andThen, findSome?_flatMap]
  refine findSome?_congr fun a ha => ?_
  have hprefix := hlocal _ _ a ha
  rw [answerAfter, h₂ rest _ (place_add_le hplace hprefix), before?_add hprefix, drop_place_add,
    List.findSome?_map, List.map_findSome?]
  refine findSome?_congr fun b _ => ?_
  simp [answerAfter, Way.append, Option.map_map, Function.comp_def, Nat.add_assoc]

theorem goOnOrStop {more stop : Rest → Rest} {wmore wstop : Ways} (greedy : Bool)
    (hmore : Follows text more wmore) (hstop : Follows text stop wstop) :
    Follows text
      (fun rest => .direct fun place => choose greedy ((more rest).at? place) ((stop rest).at? place))
      (Ways.goOnOrStop greedy wmore wstop) := by
  intro rest place hplace
  rw [Rest.at?_direct, hmore rest place hplace, hstop rest place hplace]
  cases greedy with
  | true => simp [choose, Ways.goOnOrStop, Ways.orElse]
  | false => simp [choose, Ways.goOnOrStop, Ways.orElse]

theorem times {body : Rest → Rest} {w : Ways} (hlocal : w.Local) (h : Follows text body w)
    (count : Nat) : Follows text (exactly body count) (w.times count) := by
  induction count with
  | zero => exact id
  | succ count ih =>
    have hthen := h.andThen hlocal ih
    exact hthen

theorem upTo {body : Rest → Rest} {w : Ways} (greedy : Bool) (hlocal : w.Local)
    (h : Follows text body w) (count : Nat) :
    Follows text (atMost greedy body count) (Ways.upTo greedy w count) := by
  induction count with
  | zero => exact id
  | succ count ih => exact (h.andThen hlocal ih).goOnOrStop greedy id

/-- Answers that are only asked for after at least one character. -/
theorem solid {body : Rest → Rest} {w : Ways} (h : Follows text body w) :
    Follows text
      (fun rest => .direct fun place => (body (.direct fun stop =>
        if place < stop then rest.at? stop else none)).at? place)
      w.solid := by
  intro rest place hplace
  rw [Rest.at?_direct, h _ place hplace, Ways.solid, findSome?_filter]
  refine findSome?_congr fun way _ => ?_
  by_cases hempty : way.text = []
  · simp [answerAfter, hempty]
  · have hlt : place < place + way.text.length := by
      have := List.length_pos_iff.mpr hempty
      omega
    simp [answerAfter, hempty, hlt]

/-- The bound on the rounds is no bound on the match: each round takes a character. -/
theorem many {body : Rest → Rest} {w : Ways} (greedy : Bool) (hlocal : w.Local)
    (h : Follows text body w) (count : Nat) :
    Follows text (anyNumber greedy body count) (Ways.many greedy w count) := by
  induction count with
  | zero => exact id
  | succ count ih =>
    intro rest place hplace
    have hmore := (h.solid.andThen hlocal.solid ih).goOnOrStop greedy id rest place hplace
    simpa [anyNumber, Ways.many] using hmore

end Follows

theorem answerAfter_remember (size place : Nat) (rest : Rest) :
    answerAfter (rest.remember size) place = answerAfter rest place := by
  funext way
  rw [answerAfter, answerAfter, Rest.at?_remember]

/-- Keeping answers does not change them. -/
theorem Follows.remember {text : Array Char} {step : Rest → Rest} {w : Ways}
    (h : Follows text step w) : Follows text (fun rest => step (rest.remember text.size)) w := by
  intro rest place hplace
  rw [h _ place hplace, answerAfter_remember]

theorem getElem?_place (text : Array Char) (place : Nat) :
    text[place]? = (text.toList.drop place).head? := by
  rw [List.head?_drop, Array.getElem?_toList]

theorem run_chars_follows (text : Array Char) (s : CharClass) :
    Follows text (run text (.chars s)) (ways (.chars s)) := by
  intro rest place _
  rw [run, Rest.at?_direct, getElem?_place, ways]
  cases text.toList.drop place with
  | nil => rfl
  | cons c cs =>
    by_cases h : s.contains c
    · simp [h, answerAfter]
    · simp [h]

theorem run_look_follows (text : Array Char) (l : Look) :
    Follows text (run text (.look l)) (ways (.look l)) := by
  intro rest place _
  have hlook : (run text (.look l) rest).at? place =
      if l.holds (before? text place) (text.toList.drop place).head? then rest.at? place
      else none := by
    rw [run, Rest.at?_direct, getElem?_place text place]
    rfl
  rw [hlook]
  simp only [ways]
  by_cases h : l.holds (before? text place) (text.toList.drop place).head?
  · rw [if_pos h, if_pos h]
    simp [answerAfter]
  · rw [if_neg h, if_neg h]
    rfl

theorem run_group_follows {text : Array Char} {body : Regex} (index : Nat)
    (h : Follows text (run text body) (ways body)) :
    Follows text (run text (.group index body)) (ways (.group index body)) := by
  intro rest place hplace
  rw [run, Rest.at?_direct, h _ place hplace, ways, List.findSome?_map]
  refine findSome?_congr fun way hway => ?_
  have hslice := slice_eq (local_ways body _ _ way hway)
  simp [answerAfter, hslice, Option.map_map, Function.comp_def]

/-- **Matching an expression goes through its ways in order**, and takes the first
    one after which the rest of the match succeeds. -/
theorem run_follows (text : Array Char) (r : Regex) : Follows text (run text r) (ways r) := by
  induction r with
  | empty => exact Follows.id
  | chars s => exact run_chars_follows text s
  | look l => exact run_look_follows text l
  | seq a b ha hb =>
    have hthen := ha.andThen (local_ways a) hb
    exact hthen
  | alt a b ha hb => exact (ha.goOnOrStop true hb).remember
  | rep body least most greedy ih =>
    have hlocal := local_ways body
    cases most with
    | some most =>
      have hmore := (ih.upTo greedy hlocal (most - least)).remember
      have hthen := (ih.times hlocal least).andThen (hlocal.times least) hmore
      exact hthen
    | none =>
      have hmore : Follows text
          (fun rest => .direct fun place =>
            (anyNumber greedy (run text body) (text.size - place) rest).at? place)
          (fun before cs => Ways.many greedy (ways body) cs.length before cs) := by
        intro rest place hplace
        have hsize : text.toList.length = text.size := Array.length_toList
        rw [Rest.at?_direct, ih.many greedy hlocal _ rest place hplace, ← hsize,
          ← List.length_drop]
      have hthen := (ih.times hlocal least).andThen (hlocal.times least) hmore
      exact hthen
  | group index body ih => exact run_group_follows index ih

theorem isSome_before? {text : Array Char} {place : Nat} (hplace : place ≤ text.size)
    (hpos : place ≠ 0) : (before? text place).isSome := by
  have hlt : place - 1 < text.size := by omega
  simp [before?, hpos, hlt]

/-- The answers of an expression that starts at the start of the text: the groups
    of its first way there, and none at any other place. -/
theorem at?_run_anchored (r : Regex) (text : Array Char) (place : Nat) (hplace : place ≤ text.size) :
    (run text (.seq (.look .textStart) r) (.direct fun _ => some [])).at? place =
      if place = 0 then (ways r none text.toList).head?.map Way.groups else none := by
  have hanswer : answerAfter (.direct fun _ => some []) place = fun way => some way.groups := by
    funext way
    simp [answerAfter]
  rw [run_follows _ _ _ place hplace, hanswer]
  by_cases hzero : place = 0
  · subst hzero
    have hstart : ways (.seq (.look .textStart) r) none text.toList = ways r none text.toList := by
      simp [ways, Ways.andThen, Look.holds, lastOf]
    rw [if_pos rfl, before?, if_pos rfl, List.drop_zero, hstart]
    cases ways r none text.toList <;> rfl
  · have hbefore := isSome_before? hplace hzero
    have hnone : (before? text place).isNone = false := by
      rw [← Option.not_isSome, hbefore]
      rfl
    rw [if_neg hzero]
    simp [ways, Ways.andThen, Look.holds, hnone]

/-- **An expression that starts at the start of the text** has the groups of the
    first of its ways there. -/
theorem captures_anchored (r : Regex) (text : String) :
    (Regex.seq (.look .textStart) r).captures text =
      (ways r none text.toList).head?.map Way.groups := by
  have hstart := at?_run_anchored r text.toList.toArray 0 (Nat.zero_le _)
  have helse : ∀ place ∈ List.map Nat.succ (List.range text.toList.toArray.size),
      (run text.toList.toArray (.seq (.look .textStart) r) (.direct fun _ => some [])).at? place =
        none := by
    intro place hplace
    simp only [List.mem_map, List.mem_range] at hplace
    obtain ⟨n, hn, rfl⟩ := hplace
    rw [at?_run_anchored r _ _ (by omega), if_neg (Nat.succ_ne_zero n)]
  rw [captures]
  simp only [List.range_succ_eq_map, List.findSome?_cons, List.findSome?_eq_none_iff.mpr helse,
    hstart, if_true]
  cases (ways r none text.toList).head? <;> rfl

end Routing.Regex
