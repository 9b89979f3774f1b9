/-
  Routing/Proofs/NumericArguments.lean
  ====================================
  **Which arguments the numeric constraints take.**  A bound is a numeral, a range is two
  numerals with a comma between them, and a length is a whole number that fits 64 bits; blanks
  around each are dropped. `create_numeric` says that a constraint is made of exactly these
  arguments, what is reported of the others, and what becomes of a template that has one of the
  others.

  Only the first two parts of a range are looked at: what comes after a second comma is neither
  read nor reported.
-/
import Routing.Proofs.Scanning
import Routing.Proofs.Validation

namespace Routing.Number

/-! ### Numerals -/

def Digits (cs : List Char) : Prop :=
  cs ≠ [] ∧ ∀ c ∈ cs, c.isDigit

def IsSign (cs : List Char) : Prop :=
  cs ∈ [[], ['+'], ['-']]

def IsMagnitude (cs : List Char) : Prop :=
  Digits cs ∨ ∃ whole fraction, cs = whole ++ '.' :: fraction ∧ (∀ c ∈ whole, c.isDigit) ∧
    Digits fraction

def IsExponent (cs : List Char) : Prop :=
  cs = [] ∨ ∃ mark sign digits, cs = mark :: (sign ++ digits) ∧ mark ∈ ['e', 'E'] ∧ IsSign sign ∧
    Digits digits

def IsUnsigned (cs : List Char) : Prop :=
  ∃ magnitude exponent, cs = magnitude ++ exponent ∧ IsMagnitude magnitude ∧ IsExponent exponent

/-- An optional sign, digits with an optional fraction or a fraction alone, and an optional
    exponent. -/
def IsNumeral (cs : List Char) : Prop :=
  ∃ sign unsigned, cs = sign ++ unsigned ∧ IsSign sign ∧ IsUnsigned unsigned

theorem Digits.exists_cons {cs : List Char} (h : Digits cs) :
    ∃ c rest, cs = c :: rest ∧ c.isDigit := by
  obtain ⟨c, rest, rfl⟩ := List.exists_cons_of_ne_nil h.1
  exact ⟨c, rest, rfl, h.2 c List.mem_cons_self⟩

theorem isDigits_iff {cs : List Char} : Builtin.isDigits cs ↔ Digits cs := by
  simp [Builtin.isDigits, Digits]

theorem exists_sign (cs : List Char) : ∃ sign, IsSign sign ∧ cs = sign ++ (splitSign cs).2 := by
  unfold splitSign
  split
  · exact ⟨['-'], by simp [IsSign], rfl⟩
  · exact ⟨['+'], by simp [IsSign], rfl⟩
  · exact ⟨[], by simp [IsSign], rfl⟩

/-- A sign is split off what has no other sign in front. -/
theorem splitSign_append {sign cs : List Char} (hsign : IsSign sign)
    (hcs : ∀ c ∈ cs.head?, c ∉ ['+', '-']) : (splitSign (sign ++ cs)).2 = cs := by
  simp only [IsSign, List.mem_cons, List.not_mem_nil, or_false] at hsign
  rcases hsign with rfl | rfl | rfl
  · rw [List.nil_append]
    unfold splitSign
    split
    · exact absurd (by simp) (hcs '-' rfl)
    · exact absurd (by simp) (hcs '+' rfl)
    · rfl
  · rfl
  · rfl

theorem not_sign_of_isDigit {c : Char} (h : c.isDigit) : c ∉ ['+', '-'] := by
  intro hmem
  simp only [List.mem_cons, List.not_mem_nil, or_false] at hmem
  rcases hmem with rfl | rfl <;> exact absurd h (by decide)

theorem isSome_readExponent?_cons {mark : Char} {cs : List Char} :
    (readExponent? (mark :: cs)).isSome ↔ mark ∈ ['e', 'E'] ∧ Digits (splitSign cs).2 := by
  have hmark : mark ∈ ['e', 'E'] ↔ mark = 'e' ∨ mark = 'E' := by simp
  have hdigits : ((splitSign cs).2.isEmpty || !(splitSign cs).2.all Char.isDigit) =
      !Builtin.isDigits (splitSign cs).2 := by simp [Builtin.isDigits]
  rw [hmark, ← isDigits_iff]
  simp only [readExponent?, hdigits]
  by_cases h : mark = 'e' ∨ mark = 'E'
  · by_cases hall : Builtin.isDigits (splitSign cs).2
    · simp [h, hall]
    · simp [h, hall]
  · simp [h]

theorem isSome_readExponent?_iff {cs : List Char} : (readExponent? cs).isSome ↔ IsExponent cs := by
  constructor
  · intro h
    rcases cs with _ | ⟨mark, cs⟩
    · exact .inl rfl
    · obtain ⟨hmark, hdigits⟩ := isSome_readExponent?_cons.mp h
      obtain ⟨sign, hsign, hsplit⟩ := exists_sign cs
      exact .inr ⟨mark, sign, _, by rw [← hsplit], hmark, hsign, hdigits⟩
  · rintro (rfl | ⟨mark, sign, digits, rfl, hmark, hsign, hdigits⟩)
    · rfl
    · obtain ⟨c, rest, rfl, hc⟩ := hdigits.exists_cons
      rw [isSome_readExponent?_cons, splitSign_append hsign (by simpa using not_sign_of_isDigit hc)]
      exact ⟨hmark, hdigits⟩

/-- An exponent does not go on with digits or with a point. -/
theorem IsExponent.head {cs : List Char} (h : IsExponent cs) {c : Char}
    (hc : cs.head? = some c) : c.isDigit = false ∧ c ≠ '.' := by
  rcases h with rfl | ⟨mark, sign, digits, rfl, hmark, -, -⟩
  · cases hc
  · cases hc
    simp only [List.mem_cons, List.not_mem_nil, or_false] at hmark
    rcases hmark with rfl | rfl <;> decide

/-- A numeral starts with a digit or a point behind its sign. -/
theorem IsUnsigned.head {cs : List Char} (h : IsUnsigned cs) : ∀ c ∈ cs.head?, c ∉ ['+', '-'] := by
  obtain ⟨magnitude, exponent, rfl, hdigits | ⟨whole, fraction, rfl, hwhole, -⟩, -⟩ := h
  · obtain ⟨c, rest, rfl, hc⟩ := hdigits.exists_cons
    simpa using not_sign_of_isDigit hc
  · rcases whole with _ | ⟨c, whole⟩
    · simp
    · simpa using not_sign_of_isDigit (hwhole c List.mem_cons_self)

/-- What is read as a numeral is an unsigned one behind its sign. -/
theorem isUnsigned_of_isNumeral {cs : List Char} (h : isNumeral cs) :
    IsUnsigned (splitSign cs).2 := by
  unfold isNumeral Numeral.ofChars? at h
  generalize splitSign cs = signed at h ⊢
  obtain ⟨negative, cs⟩ := signed
  have htake (cs : List Char) : ∀ c ∈ cs.takeWhile Char.isDigit, c.isDigit := fun _ hc =>
    List.mem_takeWhile_imp hc
  have hcs := List.takeWhile_append_dropWhile (p := Char.isDigit) (l := cs)
  simp only at h
  split at h
  · next rest hpoint => -- a point ends the digits in front, which may be missing then
    have hrest := List.takeWhile_append_dropWhile (p := Char.isDigit) (l := rest)
    split at h
    · cases h
    · next hfraction =>
      rw [Option.isSome_map, isSome_readExponent?_iff] at h
      rw [List.isEmpty_iff] at hfraction
      refine ⟨_, _, ?_, .inr ⟨_, _, rfl, htake cs, hfraction, htake rest⟩, h⟩
      rw [List.append_assoc, List.cons_append, hrest, ← hpoint, hcs]
  · split at h
    · cases h
    · next hwhole =>
      rw [Option.isSome_map, isSome_readExponent?_iff] at h
      rw [List.isEmpty_iff] at hwhole
      exact ⟨_, _, hcs.symm, .inl ⟨hwhole, htake cs⟩, h⟩

theorem isNumeral_of_isUnsigned {cs : List Char} (h : IsUnsigned (splitSign cs).2) :
    isNumeral cs := by
  unfold isNumeral Numeral.ofChars?
  generalize splitSign cs = signed at h ⊢
  obtain ⟨negative, cs⟩ := signed
  obtain ⟨magnitude, exponent, rfl, hmagnitude, hexponent⟩ := h
  have hend {c : Char} (hc : exponent.head? = some c) := hexponent.head hc
  rcases hmagnitude with hdigits | ⟨whole, fraction, rfl, hwhole, hdigits⟩
  · -- digits alone: the exponent does not begin with a point
    obtain ⟨htaken, hleft⟩ := Template.takeWhile_run hdigits.2 fun c hc => (hend hc).1
    simp only [htaken, hleft]
    split
    · exact absurd rfl (hend rfl).2
    · rw [if_neg (by simpa using hdigits.1), Option.isSome_map, isSome_readExponent?_iff]
      exact hexponent
  · have hpoint : ∀ c, ('.' :: (fraction ++ exponent)).head? = some c → c.isDigit = false := by
      rintro c ⟨⟩
      rfl
    obtain ⟨htaken, hleft⟩ := Template.takeWhile_run hwhole hpoint
    obtain ⟨hfraction, hrest⟩ := Template.takeWhile_run hdigits.2 fun c hc => (hend hc).1
    rw [List.append_assoc, List.cons_append]
    simp only [htaken, hleft, hfraction, hrest]
    rw [if_neg (by simpa using hdigits.1), Option.isSome_map, isSome_readExponent?_iff]
    exact hexponent

/-- **The numerals are read**, and nothing else. -/
theorem isNumeral_iff {cs : List Char} : isNumeral cs ↔ IsNumeral cs := by
  constructor
  · intro h
    obtain ⟨sign, hsign, hsplit⟩ := exists_sign cs
    exact ⟨sign, _, hsplit, hsign, isUnsigned_of_isNumeral h⟩
  · rintro ⟨sign, unsigned, rfl, hsign, h⟩
    apply isNumeral_of_isUnsigned
    rwa [splitSign_append hsign h.head]

end Routing.Number

namespace Routing

open Number (Digits IsNumeral)

/-! ### Arguments -/

/-- A plus sign or nothing, and digits of a number below two to the sixty-fourth. -/
def IsLength (cs : List Char) : Prop :=
  ∃ plus digits, cs = plus ++ digits ∧ plus ∈ [[], ['+']] ∧ Digits digits ∧
    Number.valueOfDigits digits < Nat.pow 2 64

/-- The two parts that a range needs at least. What comes after them is not looked at. -/
def IsRange (parts : List String) : Prop :=
  ∃ low high more, parts = low :: high :: more ∧ IsNumeral (Text.trim low).toList ∧
    IsNumeral (Text.trim high).toList

/-- What the argument of a numeric constraint must be. -/
def NumericArgument (name argument : String) : Prop :=
  match name with
  | "min" | "max" => IsNumeral (Text.trim argument).toList
  | "range" => IsRange (Text.split ',' argument)
  | "length" | "minlength" | "maxlength" => IsLength (Text.trim argument).toList
  | _ => False

def numericFault (name argument : String) : ArgumentFault :=
  match name with
  | "min" | "max" => .notANumber
  | "range" => if (Text.split ',' argument).length = 1 then .notTwoNumbers else .notANumber
  | _ => .notALength

/-- Reading gives something if the argument is as it must be, and reports the fault
    otherwise. -/
def Reads {α : Type} (read : Except ArgumentFault α) (fits : Prop) (fault : ArgumentFault) :
    Prop :=
  fits ∧ (∃ x, read = .ok x) ∨ ¬ fits ∧ read = .error fault

namespace Reads

variable {α β : Type} {read : Except ArgumentFault α} {fits fits' : Prop} {fault : ArgumentFault}

theorem andThen {next : α → Except ArgumentFault β} (h : Reads read fits fault)
    (hnext : ∀ x, Reads (next x) fits' fault) : Reads (read >>= next) (fits ∧ fits') fault := by
  rcases h with ⟨hfits, x, rfl⟩ | ⟨hfits, rfl⟩
  · rcases hnext x with ⟨hfits', hread⟩ | ⟨hfits', hread⟩
    · exact .inl ⟨⟨hfits, hfits'⟩, hread⟩
    · exact .inr ⟨fun hboth => hfits' hboth.2, hread⟩
  · exact .inr ⟨fun hboth => hfits hboth.1, rfl⟩

theorem map (h : Reads read fits fault) (make : α → β) :
    Reads (read >>= fun x => .ok (make x)) fits fault := by
  rcases h with ⟨hfits, x, rfl⟩ | ⟨hfits, rfl⟩
  · exact .inl ⟨hfits, make x, rfl⟩
  · exact .inr ⟨hfits, rfl⟩

end Reads

namespace Builtin

/-- A number is read, blanks around it aside, exactly from a numeral. -/
theorem reads_number (argument : String) :
    Reads (readNumber argument) (IsNumeral (Text.trim argument).toList) .notANumber := by
  rw [← Number.isNumeral_iff, Number.isNumeral, readNumber, Number.ofText?]
  cases Number.Numeral.ofChars? (Text.trim argument).toList with
  | none => exact .inr ⟨by simp, rfl⟩
  | some numeral => exact .inl ⟨rfl, _, rfl⟩

def withoutPlus : List Char → List Char
  | '+' :: cs => cs
  | cs => cs

theorem isLength_iff {cs : List Char} :
    IsLength cs ↔
      isDigits (withoutPlus cs) ∧ Number.valueOfDigits (withoutPlus cs) < Nat.pow 2 64 := by
  rw [Number.isDigits_iff]
  constructor
  · rintro ⟨plus, digits, rfl, hplus, hdigits, hvalue⟩
    have hsame : withoutPlus (plus ++ digits) = digits := by
      simp only [List.mem_cons, List.not_mem_nil, or_false] at hplus
      rcases hplus with rfl | rfl
      · obtain ⟨c, rest, rfl, hc⟩ := hdigits.exists_cons
        unfold withoutPlus
        split
        · next heq =>
          cases heq
          exact absurd hc (by decide)
        · rfl
      · rfl
    rw [hsame]
    exact ⟨hdigits, hvalue⟩
  · unfold withoutPlus
    split
    · rintro ⟨hdigits, hvalue⟩
      exact ⟨['+'], _, rfl, by simp, hdigits, hvalue⟩
    · rintro ⟨hdigits, hvalue⟩
      exact ⟨[], cs, rfl, by simp, hdigits, hvalue⟩

/-- A length is read, blanks around it aside, exactly from digits that stay below the limit. -/
theorem reads_length (argument : String) :
    Reads (readLength argument) (IsLength (Text.trim argument).toList) .notALength := by
  unfold readLength
  generalize (Text.trim argument).toList = cs
  change Reads (let digits := withoutPlus cs
    if isDigits digits && decide (Number.valueOfDigits digits < Nat.pow 2 64) then
      .ok (Number.valueOfDigits digits) else .error .notALength) _ _
  rw [isLength_iff]
  simp only [Bool.and_eq_true, decide_eq_true_eq]
  split
  · next h => exact .inl ⟨h, _, rfl⟩
  · next h => exact .inr ⟨h, rfl⟩

/-- What is reported of a range depends on whether there is a second part. -/
theorem reads_range (argument : String) :
    Reads (readRange argument) (IsRange (Text.split ',' argument))
      (if (Text.split ',' argument).length = 1 then .notTwoNumbers else .notANumber) := by
  have hne : Text.split ',' argument ≠ [] := by simp [Text.split, Text.pieces_ne_nil]
  unfold readRange
  generalize Text.split ',' argument = parts at hne ⊢
  rcases parts with _ | ⟨low, _ | ⟨high, more⟩⟩
  · exact absurd rfl hne
  · -- one part: nothing of it is read
    exact .inr ⟨by simp [IsRange], rfl⟩
  · have hrange : IsRange (low :: high :: more) ↔ IsNumeral (Text.trim low).toList ∧
        IsNumeral (Text.trim high).toList := by simp [IsRange]
    rw [hrange, if_neg (by simp)]
    exact (reads_number low).andThen fun x => (reads_number high).map fun y => (x, y)

end Builtin

/-! ### Constraints of a set -/

namespace ConstraintSet

variable {set : ConstraintSet} {name argument : String}

def numericNames : List String :=
  ["min", "max", "range", "length", "minlength", "maxlength"]

/-- A built-in constraint is made if its argument can be read, and what its reading reports is
    reported of it. -/
theorem create_of_reads {factory : ConstraintFactory} {fits : Prop} {fault : ArgumentFault}
    (hfactory : set.factory? name = none) (hlookup : Builtin.factories.lookup name = some factory)
    (h : Reads (factory argument) fits fault) :
    ((∃ c, set.create name argument = .ok c) ↔ fits) ∧
      ∀ e, set.create name argument = .error e ↔ ¬ fits ∧ e = .invalidArgument fault := by
  have hfound : (set.factory? name <|> Builtin.factories.lookup name) = some factory := by
    rw [hfactory, hlookup]
    rfl
  rw [create, hfound]
  rcases h with ⟨hfits, c, hread⟩ | ⟨hfits, hread⟩
  · simp [hread, hfits]
  · simp [hread, hfits, eq_comm]

/-- **Each numeric constraint takes exactly the arguments of its kind.** -/
theorem exists_reads_numeric (hname : name ∈ numericNames) (argument : String) :
    ∃ factory, Builtin.factories.lookup name = some factory ∧
      Reads (factory argument) (NumericArgument name argument) (numericFault name argument) := by
  simp only [numericNames, List.mem_cons, List.not_mem_nil, or_false] at hname
  rcases hname with rfl | rfl | rfl | rfl | rfl | rfl
  · exact ⟨_, rfl, (Builtin.reads_number argument).map _⟩
  · exact ⟨_, rfl, (Builtin.reads_number argument).map _⟩
  · exact ⟨_, rfl, (Builtin.reads_range argument).map _⟩
  · exact ⟨_, rfl, (Builtin.reads_length argument).map _⟩
  · exact ⟨_, rfl, (Builtin.reads_length argument).map _⟩
  · exact ⟨_, rfl, (Builtin.reads_length argument).map _⟩

end ConstraintSet

/-! ### Templates -/

open Template (ConstraintNode ParameterNode PartNode SegmentNode)

def Asks (outline : List SegmentNode) (c : ConstraintNode) : Prop :=
  ∃ p, .parameter p ∈ partsOf outline ∧ c ∈ p.constraints

/-- Nothing in front of the constraint is at fault: no segment is all optional, the parts
    before its parameter are allowed, and so is the parameter with the constraints before it. -/
inductive Reaches (set : ConstraintSet) (outline : List SegmentNode) (c : ConstraintNode) : Prop
  | intro {before after : List PartNode} {p : ParameterNode} {made rest : List ConstraintNode}
      (hanchored : ¬ ∃ s ∈ outline, s.AllOptional)
      (hsplit : partsOf outline = before ++ .parameter p :: after)
      (hconstraints : p.constraints = made ++ c :: rest)
      (hbefore : AllAllowed set (.parameter p :: after) [] before)
      (hparameter : PartNode.Allowed set before after (.parameter { p with constraints := made }))

section

variable {set : ConstraintSet} {outline : List SegmentNode} {c : ConstraintNode}

/-- The first constraint that fails is what is reported. -/
theorem Reaches.outlineFault (h : Reaches set outline c) {fault : PatternFault}
    (hfails : c.Fails set fault) : OutlineFault set outline fault := by
  obtain ⟨hanchored, hsplit, hconstraints, hbefore, hparameter⟩ := h
  obtain ⟨hlast, hfresh, hmade⟩ := PartNode.allowed_parameter_iff.mp hparameter
  apply OutlineFault.part hanchored
  rw [hsplit]
  exact .append hbefore (.here (.constraint hlast hfresh hconstraints hmade hfails))

/-- A template is not accepted with a constraint that cannot be made. -/
theorem exists_compile_error {template : String}
    (houtline : Template.outline template = .ok outline) (hasks : Asks outline c)
    (hfails : ¬ ∃ made, set.create c.name c.argument = .ok made) :
    ∃ fault, RoutePattern.compile set template = .error ⟨fault, template⟩ := by
  rw [RoutePattern.compile, houtline]
  simp only
  cases hbind : bind set outline with
  | error fault => exact ⟨fault, rfl⟩
  | ok segments =>
    obtain ⟨p, hp, hc⟩ := hasks
    exact absurd ((bind_eq_ok_iff.mp hbind).1.constraints p hp c hc) hfails

end

/-- **Malformed numbers make no constraint.** A numeric constraint that is not hidden by a
    custom one is made of exactly the arguments that fit it; any other argument is reported,
    and a template that has it is rejected, for this argument if nothing comes first that is
    at fault. -/
theorem create_numeric {set : ConstraintSet} {name : String}
    (hname : name ∈ ConstraintSet.numericNames) (hfactory : set.factory? name = none)
    (argument : String) :
    ((∃ c, set.create name argument = .ok c) ↔ NumericArgument name argument) ∧
    (¬ NumericArgument name argument →
      set.create name argument = .error (.invalidArgument (numericFault name argument)) ∧
      ∀ template outline, Template.outline template = .ok outline →
        (Asks outline ⟨name, argument⟩ →
          ∃ fault, RoutePattern.compile set template = .error ⟨fault, template⟩) ∧
        (Reaches set outline ⟨name, argument⟩ →
          RoutePattern.compile set template =
            .error ⟨.invalidConstraintArgument name argument (numericFault name argument),
              template⟩)) := by
  obtain ⟨factory, hlookup, hreads⟩ := ConstraintSet.exists_reads_numeric hname argument
  obtain ⟨hok, herror⟩ := ConstraintSet.create_of_reads hfactory hlookup hreads
  refine ⟨hok, fun hmalformed => ?_⟩
  have hcreate := (herror _).mpr ⟨hmalformed, rfl⟩
  refine ⟨hcreate, fun template outline houtline => ⟨fun hasks => ?_, fun hreaches => ?_⟩⟩
  · exact exists_compile_error houtline hasks (mt hok.mp hmalformed)
  · have hbind := bind_eq_error_iff.mpr (hreaches.outlineFault (.argument hcreate))
    rw [RoutePattern.compile, houtline]
    simp only [hbind]

theorem create_numeric_min :
    let a : ParameterNode := ⟨"a", .required, [⟨"min", "inf"⟩], none⟩
    "min" ∈ ConstraintSet.numericNames ∧ ConstraintSet.empty.factory? "min" = none ∧
      ¬ NumericArgument "min" "inf" ∧
      Template.outline "/\x7ba:min(inf)\x7d" = .ok [⟨[.parameter a]⟩] ∧
      Reaches .empty [⟨[.parameter a]⟩] ⟨"min", "inf"⟩ ∧
      RoutePattern.compile .empty "/\x7ba:min(inf)\x7d" =
        .error ⟨.invalidConstraintArgument "min" "inf" .notANumber, "/\x7ba:min(inf)\x7d"⟩ := by
  intro a
  have hmalformed : ¬ NumericArgument "min" "inf" := by
    have hnumeral : ¬ IsNumeral (Text.trim "inf").toList := by
      rw [← Number.isNumeral_iff]
      decide
    exact hnumeral
  have houtline : Template.outline "/\x7ba:min(inf)\x7d" = .ok [⟨[.parameter a]⟩] := by
    decide +kernel
  have hreaches : Reaches .empty [⟨[.parameter a]⟩] ⟨"min", "inf"⟩ := by
    have hsplit : partsOf [⟨[.parameter a]⟩] = [] ++ .parameter a :: [] := rfl
    have hconstraints : a.constraints = [] ++ ⟨"min", "inf"⟩ :: [] := rfl
    refine .intro ?_ hsplit hconstraints trivial ?_
    · simp [Template.SegmentNode.AllOptional]
    · exact .parameter (fun _ => rfl) (by simp [declaredNames]) (by simp)
  have hname : "min" ∈ ConstraintSet.numericNames := by decide
  have hfactory : ConstraintSet.empty.factory? "min" = none := rfl
  obtain ⟨-, htemplate⟩ := (create_numeric hname hfactory "inf").2 hmalformed
  exact ⟨hname, hfactory, hmalformed, houtline, hreaches, (htemplate _ _ houtline).2 hreaches⟩

/-- **A third part of a range goes unnoticed.** -/
theorem not_forall_create_range :
    ¬ ∀ argument, (∃ c, ConstraintSet.empty.create "range" argument = .ok c) ↔
      ∃ low high, Text.split ',' argument = [low, high] ∧ IsNumeral (Text.trim low).toList ∧
        IsNumeral (Text.trim high).toList := by
  intro h
  have hnumeral : ∀ part ∈ ["1", "2"], IsNumeral (Text.trim part).toList := by
    intro part hpart
    rw [← Number.isNumeral_iff]
    revert part
    decide
  have hparts : Text.split ',' "1,2,3" = ["1", "2", "3"] := by decide
  have hrange : IsRange (Text.split ',' "1,2,3") :=
    ⟨"1", "2", ["3"], hparts, hnumeral "1" (by decide), hnumeral "2" (by decide)⟩
  have hfactory : ConstraintSet.empty.factory? "range" = none := rfl
  obtain ⟨hok, -⟩ := ConstraintSet.create_of_reads hfactory rfl
    ((Builtin.reads_range "1,2,3").map _)
  obtain ⟨low, high, heq, -⟩ := (h "1,2,3").mp (hok.mpr hrange)
  rw [hparts] at heq
  cases heq

end Routing
