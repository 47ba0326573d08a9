import AuthBroker.Json.Skip
import AuthBroker.Proofs.Json.Skipping

namespace AuthBroker.Json

/-! Documents that differ in one string.

Two documents are twins when they agree but for one string literal, which is the value of a member with a given name
and has as many octets in the one as in the other.  A reader takes the same steps in both: it goes by the octets up to
a quote, and what it makes of a literal shows in neither the octets that are left nor a fault.
-/

/-! ### Twins -/

/-- Where a document stands as to its quotes. -/
inductive Quotation
  | outside
  | inside
  /-- After a backslash. -/
  | escaped
deriving DecidableEq

namespace Quotation

def step : Quotation → UInt8 → Quotation
  | .outside, octet => if octet = 0x22 then .inside else .outside
  | .inside, octet => if octet = 0x22 then .outside else if octet = 0x5C then .escaped else .inside
  | .escaped, _ => .inside

/-- Where a document stands after octets. -/
def after (octets : List UInt8) : Quotation :=
  octets.foldl step .outside

end Quotation

/-- A string literal with its closing quote. -/
def Literal (literal : List UInt8) : Prop :=
  ∃ text, Quoted literal text

/-- Blanks and colons, then a literal that may differ. -/
inductive Veiled : List UInt8 → List UInt8 → Prop
  | lead {octet : UInt8} {octets octets' : List UInt8} (leads : isBlank octet = true ∨ octet = 0x3A)
      (more : Veiled octets octets') : Veiled (octet :: octets) (octet :: octets')
  | literal {literal literal' : List UInt8} (isLiteral : Literal literal) (isLiteral' : Literal literal')
      (size : literal.length = literal'.length) (after : List UInt8) :
      Veiled (0x22 :: literal ++ after) (0x22 :: literal' ++ after)

/-- Documents that agree up to a key of the name, and then but for one literal. -/
inductive Twins (name : String) : Quotation → List UInt8 → List UInt8 → Prop
  | same (quotation : Quotation) (octets : List UInt8) : Twins name quotation octets octets
  | octet {quotation : Quotation} {octets octets' : List UInt8} (octet : UInt8)
      (more : Twins name (quotation.step octet) octets octets') : Twins name quotation (octet :: octets) (octet :: octets')
  | key {spelling octets octets' : List UInt8} (quoted : Quoted spelling name) (veiled : Veiled octets octets') :
      Twins name .outside (0x22 :: spelling ++ octets) (0x22 :: spelling ++ octets')

/-- What follows a quote: the inside of a literal that is the same in both, or the key. -/
inductive Opened (name : String) : List UInt8 → List UInt8 → Prop
  | inside {octets octets' : List UInt8} (twins : Twins name .inside octets octets') : Opened name octets octets'
  | key {spelling octets octets' : List UInt8} (quoted : Quoted spelling name) (veiled : Veiled octets octets') :
      Opened name (spelling ++ octets) (spelling ++ octets')

/-- Before the key or after it. -/
def Kin (name : String) (octets octets' : List UInt8) : Prop :=
  Twins name .outside octets octets' ∨ Veiled octets octets'

/-- After a string.  Only after the key may the literal be next. -/
def Keyed (name text : String) (octets octets' : List UInt8) : Prop :=
  Twins name .outside octets octets' ∨ text = name ∧ Veiled octets octets'

variable {name : String} {quotation : Quotation} {octets octets' rest rest' : List UInt8} {octet : UInt8}
  {α β : Type}

theorem Veiled.size (veiled : Veiled octets octets') : octets.length = octets'.length := by
  induction veiled with
  | lead _ _ ih => exact congrArg (· + 1) ih
  | literal _ _ size after => simp [size]

theorem Veiled.of_blank {gap : List UInt8} (blank : Blank gap) (more : Veiled octets octets') :
    Veiled (gap ++ octets) (gap ++ octets') := by
  induction gap with
  | nil => exact more
  | cons octet gap ih =>
      have later : Blank gap := fun octet member => blank octet (List.mem_cons_of_mem _ member)
      exact .lead (.inl (blank octet List.mem_cons_self)) (ih later)

theorem Veiled.symm (veiled : Veiled octets octets') : Veiled octets' octets := by
  induction veiled with
  | lead leads _ ih => exact .lead leads ih
  | literal isLiteral isLiteral' size after => exact .literal isLiteral' isLiteral size.symm after

theorem Twins.size (twins : Twins name quotation octets octets') : octets.length = octets'.length := by
  induction twins with
  | same => rfl
  | octet _ _ ih => exact congrArg (· + 1) ih
  | key _ veiled => simp [veiled.size]

theorem Twins.symm (twins : Twins name quotation octets octets') : Twins name quotation octets' octets := by
  induction twins with
  | same quotation octets => exact .same quotation octets
  | octet octet _ ih => exact .octet octet ih
  | key quoted veiled => exact .key quoted veiled.symm

theorem Twins.of_append {tail tail' : List UInt8} (octets : List UInt8)
    (twins : Twins name (octets.foldl Quotation.step quotation) tail tail') :
    Twins name quotation (octets ++ tail) (octets ++ tail') := by
  induction octets generalizing quotation with
  | nil => exact twins
  | cons octet octets ih => exact .octet octet (ih twins)

/-- Within a literal both are at their end, or both go on with the same octet. -/
theorem Twins.view (twins : Twins name quotation octets octets') (within : quotation ≠ .outside) :
    octets = [] ∧ octets' = [] ∨ ∃ octet tail tail', octets = octet :: tail ∧ octets' = octet :: tail' ∧
      tail.length = tail'.length ∧ Twins name (quotation.step octet) tail tail' := by
  cases twins with
  | same =>
      cases octets with
      | nil => exact .inl ⟨rfl, rfl⟩
      | cons octet tail => exact .inr ⟨octet, tail, tail, rfl, rfl, rfl, .same _ tail⟩
  | octet octet more => exact .inr ⟨octet, _, _, rfl, rfl, more.size, more⟩
  | key _ _ => exact absurd rfl within

/-! ### Octet by octet -/

/-- A relation that goes along octet by octet up to a quote. -/
structure Keeps (related : List UInt8 → List UInt8 → Prop) : Prop where
  size : ∀ {octets octets'}, related octets octets' → octets.length = octets'.length
  next : ∀ {octet octets rest}, related (octet :: octets) rest →
    ∃ octets', rest = octet :: octets' ∧ (octet ≠ 0x22 → related octets octets')

variable {related : List UInt8 → List UInt8 → Prop}

/-- Both are at their end, or both go on with the same octet. -/
theorem Keeps.view (keeps : Keeps related) (both : related octets octets') : octets = [] ∧ octets' = [] ∨
    ∃ octet tail tail', octets = octet :: tail ∧ octets' = octet :: tail' ∧ tail.length = tail'.length ∧
      (octet ≠ 0x22 → related tail tail') := by
  have size := keeps.size both
  cases octets with
  | nil => exact .inl ⟨rfl, List.eq_nil_of_length_eq_zero size.symm⟩
  | cons octet tail =>
      obtain ⟨tail', rfl, more⟩ := keeps.next both
      exact .inr ⟨octet, tail, tail', rfl, rfl, Nat.succ.inj size, more⟩

theorem keeps_twins : Keeps (Twins name .outside) where
  size := Twins.size
  next := by
    intro octet octets rest twins
    cases twins with
    | same => exact ⟨octets, rfl, fun _ => .same _ octets⟩
    | @octet _ _ octets' _ more =>
        refine ⟨octets', rfl, fun notQuote => ?_⟩
        rwa [Quotation.step, if_neg notQuote] at more
    | key quoted veiled => exact ⟨_, rfl, fun notQuote => absurd rfl notQuote⟩

theorem keeps_veiled : Keeps Veiled where
  size := Veiled.size
  next := by
    intro octet octets rest veiled
    cases veiled with
    | lead leads more => exact ⟨_, rfl, fun _ => more⟩
    | literal isLiteral isLiteral' size after => exact ⟨_, rfl, fun notQuote => absurd rfl notQuote⟩

theorem keeps_kin : Keeps (Kin name) where
  size := by
    rintro octets octets' (twins | veiled)
    · exact twins.size
    · exact veiled.size
  next := by
    rintro octet octets rest (twins | veiled)
    · obtain ⟨octets', rfl, more⟩ := keeps_twins.next twins
      exact ⟨octets', rfl, fun notQuote => .inl (more notQuote)⟩
    · obtain ⟨octets', rfl, more⟩ := keeps_veiled.next veiled
      exact ⟨octets', rfl, fun notQuote => .inr (more notQuote)⟩

theorem Keyed.kin {text : String} (keyed : Keyed name text octets octets') : Kin name octets octets' :=
  keyed.imp id And.right

theorem Twins.opened (twins : Twins name .outside (0x22 :: octets) (0x22 :: octets')) : Opened name octets octets' := by
  generalize shape : 0x22 :: octets = whole at twins
  generalize shape' : 0x22 :: octets' = whole' at twins
  cases twins with
  | same =>
      obtain rfl := (List.cons.inj (shape.trans shape'.symm)).2
      exact .inside (.same _ _)
  | octet _ more =>
      cases shape
      cases shape'
      exact .inside more
  | key quoted veiled =>
      cases shape
      cases shape'
      exact .key quoted veiled

/-! ### Faults -/

/-- Two faults that tell the same, as far as their documents have the same lines. -/
structure Fault.Like (fault fault' : Fault) : Prop where
  cause : fault.cause = fault'.cause
  place : fault.place = fault'.place
  size : fault.rest.length = fault'.rest.length

/-- The lines of the documents end at the same octets. -/
def Aligned (octets octets' : List UInt8) : Prop :=
  List.Forall₂ (fun octet octet' => octet = 0x0A ↔ octet' = 0x0A) octets octets'

theorem Aligned.position (aligned : Aligned octets octets') : position octets = position octets' := by
  unfold Json.position
  generalize ((1, 0) : Nat × Nat) = start
  induction aligned generalizing start with
  | nil => rfl
  | @cons octet octet' _ _ same _ ih =>
      rw [List.foldl_cons, List.foldl_cons, if_congr same rfl rfl]
      exact ih _

theorem Fault.Like.diagnose {fault fault' : Fault} (like : fault.Like fault') (aligned : Aligned octets octets') :
    fault.diagnose octets = fault'.diagnose octets' := by
  obtain ⟨cause, place, rest⟩ := fault
  obtain ⟨_, _, rest'⟩ := fault'
  obtain ⟨rfl, rfl, size⟩ := like
  have upTo (count : Nat) : Json.position (octets.take count) = Json.position (octets'.take count) :=
    Aligned.position (List.forall₂_take count aligned)
  unfold Fault.diagnose
  dsimp only at size ⊢
  rw [aligned.length_eq, size, upTo, upTo]

theorem hex_noBreak {digits : List UInt8} {unit : Nat} (hex : Hex digits unit) : 0x0A ∉ digits := by
  have other {octet : UInt8} {value : Nat} (found : hexDigit? octet = some value) : 0x0A ≠ octet := by
    rintro rfl
    contradiction
  cases hex with
  | four first second third fourth => simp [other first, other second, other third, other fourth]

theorem looseContent_noBreak {body : List UInt8} (content : LooseContent body) : 0x0A ∉ body := by
  induction content with
  | nil => exact List.not_mem_nil
  | plain _ _ noControl _ ih =>
      refine List.not_mem_cons_of_ne_of_not_mem ?_ ih
      rintro rfl
      contradiction
  | letter known _ ih =>
      refine List.not_mem_cons_of_ne_of_not_mem (by decide) (List.not_mem_cons_of_ne_of_not_mem ?_ ih)
      rintro rfl
      contradiction
  | unit hex _ ih =>
      have noBreak := hex_noBreak hex
      simp [noBreak, ih]

/-- Literals of one size have no line ends to put them out of line. -/
theorem Literal.aligned {literal literal' : List UInt8} (isLiteral : Literal literal) (isLiteral' : Literal literal')
    (size : literal.length = literal'.length) : Aligned literal literal' := by
  have noBreak {literal : List UInt8} (isLiteral : Literal literal) : ∀ octet ∈ literal, octet ≠ 0x0A := by
    obtain ⟨_, body, content, rfl⟩ := isLiteral
    rintro _ member rfl
    rcases List.mem_append.mp member with member | member
    · exact looseContent_noBreak (looseContent_of_content content) member
    · exact absurd member (by decide)
  refine List.forall₂_iff_zip.mpr ⟨size, fun {octet octet'} member => ?_⟩
  obtain ⟨inOne, inOther⟩ := List.of_mem_zip member
  exact iff_of_false (noBreak isLiteral octet inOne) (noBreak isLiteral' octet' inOther)

theorem Aligned.refl (octets : List UInt8) : Aligned octets octets :=
  List.forall₂_same.mpr fun _ _ => Iff.rfl

theorem Aligned.append {tail tail' : List UInt8} (aligned : Aligned octets octets') (tails : Aligned tail tail') :
    Aligned (octets ++ tail) (octets' ++ tail') :=
  List.rel_append aligned tails

/-- Both readers give something, or both meet a fault that tells the same. -/
inductive Agree (related : α → α → Prop) : Except Fault α → Except Fault α → Prop
  | ok {found found' : α} (both : related found found') : Agree related (.ok found) (.ok found')
  | error {fault fault' : Fault} (like : fault.Like fault') : Agree related (.error fault) (.error fault')

theorem Agree.cases {result result' : Except Fault α} {found : α → α → Prop} (agree : Agree found result result') :
    (∃ fault fault', result = .error fault ∧ result' = .error fault' ∧ fault.Like fault') ∨
      ∃ value value', result = .ok value ∧ result' = .ok value' ∧ found value value' := by
  cases agree with
  | ok both => exact .inr ⟨_, _, rfl, rfl, both⟩
  | error like => exact .inl ⟨_, _, rfl, rfl, like⟩

theorem Agree.mono {result result' : Except Fault α} {found found' : α → α → Prop} (agree : Agree found result result')
    (weaker : ∀ {value value'}, found value value' → found' value value') : Agree found' result result' := by
  cases agree with
  | ok both => exact .ok (weaker both)
  | error like => exact .error like

theorem Agree.map {result result' : Except Fault α} {found : α → α → Prop} {found' : β → β → Prop}
    {put put' : α → β} (agree : Agree found result result')
    (puts : ∀ {value value'}, found value value' → found' (put value) (put' value')) :
    Agree found' (result.map put) (result'.map put') := by
  cases agree with
  | ok both => exact .ok (puts both)
  | error like => exact .error like

theorem agree_error {found : α → α → Prop} {cause : Cause} {place : Place} (size : rest.length = rest'.length) :
    Agree found (.error ⟨cause, place, rest⟩) (.error ⟨cause, place, rest'⟩) :=
  .error ⟨rfl, rfl, size⟩

/-- The same value, and what is left in each document. -/
def Along (related : List UInt8 → List UInt8 → Prop) (read read' : α × List UInt8) : Prop :=
  read.1 = read'.1 ∧ related read.2 read'.2

theorem Agree.along {result result' : Except Fault (α × List UInt8)} (agree : Agree (Along related) result result') :
    (∃ fault fault', result = .error fault ∧ result' = .error fault' ∧ fault.Like fault') ∨
      ∃ value rest rest', result = .ok (value, rest) ∧ result' = .ok (value, rest') ∧ related rest rest' := by
  obtain failed | ⟨⟨value, rest⟩, ⟨_, rest'⟩, found, found', rfl, both⟩ := agree.cases
  · exact .inl failed
  · exact .inr ⟨value, rest, rest', found, found', both⟩

end AuthBroker.Json
