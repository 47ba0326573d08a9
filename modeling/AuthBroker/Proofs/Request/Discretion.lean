import AuthBroker.Proofs.Attempt.Secrecy
import AuthBroker.Proofs.Json.Passing
import AuthBroker.Proofs.Request.Grammar
import AuthBroker.Request.Decode

namespace AuthBroker.Request

open AuthBroker.Json

/-! What the verdict on a payload tells of its password.

Two payloads that differ in nothing but the literal of the password are twins.  The reader keeps drafts that differ in
the password at most, and every other value that it reads is the same in both payloads.  So it comes to requests that
differ in the secret alone, or to the same failure in the same place.
-/

/-! ### Strings and lists -/

variable {name : String} {octets octets' rest rest' : List UInt8} {octet : UInt8} {first : Bool} {fuel : Nat}
  {field : Field} {draft draft' : Draft} {wire wire' : Wire} {expected : String}

/-- The fault of a value of the wrong type shows the value, which is the same in both. -/
theorem like_wrongType (twins : Twins name .outside (octet :: rest) (octet :: rest')) :
    (wrongType expected octet rest).Like (wrongType expected octet rest') := by
  have size : rest.length = rest'.length := Nat.succ.inj twins.size
  have more (notQuote : octet ≠ 0x22) : Twins name .outside rest rest' := by
    obtain ⟨_, shape, more⟩ := keeps_twins.next twins
    cases shape
    exact more notQuote
  have words (word : List UInt8) (notQuote : 0x22 ∉ word) (other : octet ≠ 0x22) :=
    keeps_twins.expectName notQuote (more other)
  unfold wrongType
  split_ifs with isNull isTrue isFalse isMinus isDigit isQuote isList isObject
  on_goal 4 =>
    obtain ⟨fault, fault', failed, failed', like⟩ | ⟨value, left, left', taken, taken', more⟩ :=
      (keeps_twins.number (more (by rw [isMinus]; decide))).along
    · rwa [failed, failed']
    · rw [taken, taken']
      exact ⟨rfl, rfl, more.size⟩
  on_goal 4 =>
    obtain ⟨fault, fault', failed, failed', like⟩ | ⟨value, left, left', taken, taken', more⟩ :=
      (keeps_twins.number twins).along
    · rwa [failed, failed']
    · rw [taken, taken']
      exact ⟨rfl, rfl, more.size⟩
  on_goal 4 =>
    rw [isQuote] at twins
    obtain ⟨fault, fault', failed, failed', like⟩ | ⟨value, left, left', taken, taken', more⟩ := twins.opened.along.along
    · rwa [failed, failed']
    · rw [taken, taken']
      exact ⟨rfl, rfl, keeps_kin.size more⟩
  on_goal 4 => exact ⟨rfl, rfl, congrArg (· + 1) size⟩
  on_goal 4 => exact ⟨rfl, rfl, congrArg (· + 1) size⟩
  on_goal 4 => exact ⟨rfl, rfl, congrArg (· + 1) size⟩
  on_goal 1 => have agree := words [0x75, 0x6C, 0x6C] (by decide) (by rw [isNull]; decide)
  on_goal 2 => have agree := words [0x72, 0x75, 0x65] (by decide) (by rw [isTrue]; decide)
  on_goal 3 => have agree := words [0x61, 0x6C, 0x73, 0x65] (by decide) (by rw [isFalse]; decide)
  all_goals
    obtain ⟨fault, fault', failed, failed', like⟩ | ⟨left, left', taken, taken', more⟩ := agree.cases
    · rwa [failed, failed']
    · rw [taken, taken']
      exact ⟨rfl, rfl, more.size⟩

theorem agree_readString (twins : Twins name .outside octets octets') :
    Agree (Along (Kin name)) (readString octets) (readString octets') := by
  unfold readString
  obtain ⟨ended, ended'⟩ | ⟨octet, tail, tail', shape, shape', whole, -, -⟩ := keeps_twins.dark twins
  · rw [ended, ended']
    exact agree_error rfl
  rw [shape, shape']
  dsimp only
  split_ifs with isQuote
  · rw [isQuote] at whole
    exact whole.opened.along
  · exact .error (like_wrongType whole)

/-- Where the literal is veiled, a string differs, and what comes after it does not. -/
theorem agree_readString_veiled (veiled : Veiled octets octets') :
    Agree (fun read read' => read.2 = read'.2) (readString octets) (readString octets') := by
  unfold readString
  obtain ⟨tail, tail', shape, shape', more⟩ | ⟨literal, literal', after, ⟨_, quoted⟩, ⟨_, quoted'⟩, -, shape, shape'⟩ :=
    veiled.view
  · rw [shape, shape']
    exact agree_error (congrArg (· + 1) more.size)
  · rw [shape, shape']
    dsimp only
    rw [if_pos rfl, if_pos rfl, string_eq_ok_iff.mpr ⟨literal, quoted, rfl⟩,
      string_eq_ok_iff.mpr ⟨literal', quoted', rfl⟩]
    exact .ok rfl

theorem agree_readStrings (due : Due name first octets octets') (held : List String) :
    Agree (Along (Kin name)) (readStrings fuel first held octets) (readStrings fuel first held octets') := by
  induction fuel generalizing first held octets octets' with
  | zero => exact agree_error due.size
  | succ fuel ih =>
      rw [readStrings, readStrings]
      obtain ⟨fault, fault', failed, failed', like⟩ | ⟨_, _, turned, turned', both⟩ := due.listTurn.cases
      · rw [failed, failed']
        exact .error like
      rw [turned, turned']
      cases both with
      | close twins => exact .ok ⟨rfl, .inl twins⟩
      | item twins =>
          obtain ⟨fault, fault', failed, failed', like⟩ | ⟨text, rest, rest', taken, taken', more⟩ :=
            (agree_readString twins).along
          · dsimp only
            rw [failed, failed']
            exact .error like
          · dsimp only
            rw [taken, taken']
            exact ih more.due _

theorem agree_readList (twins : Twins name .outside octets octets') :
    Agree (Along (Kin name)) (readList octets) (readList octets') := by
  unfold readList
  obtain ⟨ended, ended'⟩ | ⟨octet, tail, tail', shape, shape', whole, size, more⟩ := keeps_twins.dark twins
  · rw [ended, ended']
    exact agree_error rfl
  rw [shape, shape']
  dsimp only
  split_ifs with isNull isList
  · obtain ⟨fault, fault', failed, failed', like⟩ | ⟨rest, rest', taken, taken', more⟩ :=
      (keeps_twins.expectName (show 0x22 ∉ [0x75, 0x6C, 0x6C] by decide) (more (by rw [isNull]; decide))).cases
    · rw [failed, failed']
      exact .error like
    · rw [taken, taken']
      exact .ok ⟨rfl, .inl more⟩
  · have due : Due name true tail tail' := .inl (more (by rw [isList]; decide))
    obtain ⟨fault, fault', failed, failed', like⟩ | ⟨texts, rest, rest', taken, taken', more⟩ :=
      (agree_readStrings due []).along
    · rw [size, failed, failed']
      exact .error like
    · rw [size, taken, taken']
      exact .ok ⟨rfl, more⟩
  · exact .error (like_wrongType whole)

/-! ### Drafts -/

/-- The drafts differ in their passwords at most. -/
inductive Draft.Like : Draft → Draft → Prop
  | intro (draft : Draft) (password : Option String) (given : password.isSome = draft.password.isSome) :
      Draft.Like draft { draft with password }

/-- The records differ in their passwords at most. -/
inductive Wire.Like : Wire → Wire → Prop
  | intro (wire : Wire) (password : String) : Wire.Like wire { wire with password }

/-- What was read, and what is left, of two payloads. -/
def Read (name : String) {α : Type} (like : α → α → Prop) (read read' : α × List UInt8) : Prop :=
  like read.1 read'.1 ∧ Kin name read.2 read'.2

theorem Draft.Like.has (like : draft.Like draft') (field : Field) : draft.has field = draft'.has field := by
  cases like with
  | intro password given => cases field <;> first | rfl | exact given.symm

theorem Draft.Like.finish (like : draft.Like draft') :
    (∃ field, draft.finish = .error field ∧ draft'.finish = .error field) ∨
      ∃ wire wire', draft.finish = .ok wire ∧ draft'.finish = .ok wire' ∧ wire.Like wire' := by
  cases like with
  | intro password given =>
      obtain ⟨name, username, password', arguments, environment⟩ := draft
      cases name with
      | none => exact .inl ⟨.name, rfl, rfl⟩
      | some name =>
          cases username with
          | none => exact .inl ⟨.username, rfl, rfl⟩
          | some username =>
              cases password' with
              | none =>
                  obtain rfl : password = none := by simpa using given
                  exact .inl ⟨.password, rfl, rfl⟩
              | some password' =>
                  obtain ⟨password, rfl⟩ := Option.isSome_iff_exists.mp given
                  exact .inr ⟨_, _, rfl, rfl, .intro _ password⟩

/-- A field is read alike, and so is the password where its literal is veiled. -/
theorem agree_readField (like : draft.Like draft') (keyed : Keyed Field.password.key field.key octets octets') :
    Agree (Read Field.password.key Draft.Like) (draft.readField field octets) (draft'.readField field octets') := by
  obtain ⟨password, given⟩ := like
  rcases keyed with twins | ⟨isKey, veiled⟩
  · have strings := agree_readString twins
    have lists := agree_readList twins
    cases field with
    | name | username =>
        refine strings.map fun {read read'} both => ?_
        obtain ⟨text, rest⟩ := read
        obtain ⟨_, rest'⟩ := read'
        obtain ⟨rfl, kin⟩ := both
        exact ⟨.intro _ password given, kin⟩
    | password =>
        refine strings.map fun {read read'} both => ?_
        obtain ⟨text, rest⟩ := read
        obtain ⟨_, rest'⟩ := read'
        obtain ⟨rfl, kin⟩ := both
        exact ⟨.intro _ (some text) rfl, kin⟩
    | arguments | environment =>
        refine lists.map fun {read read'} both => ?_
        obtain ⟨texts, rest⟩ := read
        obtain ⟨_, rest'⟩ := read'
        obtain ⟨rfl, kin⟩ := both
        exact ⟨.intro _ password given, kin⟩
  · obtain rfl := key_injective isKey
    refine (agree_readString_veiled veiled).map fun {read read'} both => ?_
    obtain ⟨text, rest⟩ := read
    obtain ⟨text', rest'⟩ := read'
    obtain rfl : rest = rest' := both
    exact ⟨.intro _ (some text') rfl, .inl (.same _ rest)⟩

/-! ### Records -/

theorem length_afterObject (kin : Kin name octets octets') :
    (afterObject octets).length = (afterObject octets').length := by
  unfold afterObject
  obtain ⟨ended, ended'⟩ | ⟨octet, tail, tail', shape, shape', -, size, -⟩ := keeps_kin.dark kin
  · rw [ended, ended']
  · rw [shape, shape']
    dsimp only
    split_ifs
    · exact size
    · exact congrArg (· + 1) size

theorem agree_listEnd (kin : Kin name octets octets') : Agree (Kin name) (listEnd octets) (listEnd octets') := by
  unfold listEnd
  obtain ⟨ended, ended'⟩ | ⟨octet, tail, tail', shape, shape', -, size, more⟩ := keeps_kin.dark kin
  · rw [ended, ended']
    exact agree_error rfl
  rw [shape, shape']
  dsimp only
  split_ifs with isClosing isComma
  · exact .ok (more (by rw [isClosing]; decide))
  · obtain ⟨ended, ended'⟩ | ⟨next, later, later', shape, shape', -, size, -⟩ :=
      keeps_kin.dark (more (by rw [isComma]; decide))
    · rw [ended, ended']
      exact agree_error rfl
    · rw [shape, shape']
      dsimp only
      split_ifs <;> exact agree_error (congrArg (· + 1) size)
  · exact agree_error (congrArg (· + 1) size)

/-- Members are read alike: the literal stands after the key of the password, or in a value that is passed over. -/
theorem agree_readMembers (fuel : Nat) (due : Due Field.password.key first octets octets') (like : draft.Like draft') :
    Agree (Read Field.password.key Wire.Like) (readMembers fuel first draft octets)
      (readMembers fuel first draft' octets') := by
  induction fuel generalizing first draft draft' octets octets' with
  | zero => exact agree_error due.size
  | succ fuel ih =>
      rw [readMembers, readMembers]
      obtain ⟨fault, fault', failed, failed', like'⟩ | ⟨_, _, turned, turned', both⟩ := due.objectTurn.cases
      · rw [failed, failed']
        exact .error like'
      rw [turned, turned']
      cases both with
      | close twins =>
          dsimp only
          obtain ⟨field, missing, missing'⟩ | ⟨wire, wire', filled, filled', like⟩ := like.finish
          · rw [missing, missing']
            exact agree_error twins.size
          · rw [filled, filled']
            exact .ok ⟨like, .inl twins⟩
      | item opened =>
          dsimp only
          obtain ⟨fault, fault', failed, failed', like'⟩ | ⟨⟨key, rest⟩, ⟨_, rest'⟩, named, named', rfl, keyed⟩ :=
            opened.string.cases
          · rw [failed, failed']
            exact .error like'
          rw [named, named']
          dsimp only
          cases known : Field.ofKey? key with
          | none =>
              dsimp only
              obtain ⟨fault, fault', failed, failed', like'⟩ | ⟨left, left', divided, divided', more⟩ := keyed.colon.cases
              · rw [failed, failed']
                exact .error like'
              rw [divided, divided']
              dsimp only
              obtain ⟨fault, fault', failed, failed', like'⟩ | ⟨after, after', passed, passed', kin⟩ :=
                (more.kin.skip fuel).cases
              · rw [failed, failed']
                exact .error like'
              · rw [passed, passed']
                exact ih kin.due like
          | some field =>
              obtain rfl := ofKey?_eq_some_iff.mp known
              dsimp only
              rw [like.has field]
              split_ifs with repeated
              · exact agree_error (length_afterObject keyed.kin)
              obtain ⟨fault, fault', failed, failed', like'⟩ | ⟨left, left', divided, divided', more⟩ := keyed.colon.cases
              · rw [failed, failed']
                exact .error like'
              rw [divided, divided']
              dsimp only
              obtain ⟨fault, fault', failed, failed', like'⟩ | ⟨⟨_, after⟩, ⟨_, after'⟩, taken, taken', like', kin⟩ :=
                (agree_readField like more).cases
              · rw [failed, failed']
                exact .error like'
              · rw [taken, taken']
                exact ih kin.due like'

/-- Items are read alike.  A key among them is followed by a colon, which no list has. -/
theorem agree_readItems {index : Nat} (fields : List Field) (due : Due Field.password.key (index == 0) octets octets')
    (like : draft.Like draft') : Agree (Read Field.password.key Wire.Like) (readItems index draft octets fields)
      (readItems index draft' octets' fields) := by
  induction fields generalizing index draft draft' octets octets' with
  | nil =>
      rw [readItems, readItems]
      have kin : Kin Field.password.key octets octets' := due.imp id And.right
      obtain ⟨fault, fault', failed, failed', like'⟩ | ⟨rest, rest', ended, ended', kin⟩ := (agree_listEnd kin).cases
      · rw [failed, failed']
        exact .error like'
      rw [ended, ended']
      dsimp only
      obtain ⟨field, missing, missing'⟩ | ⟨wire, wire', filled, filled', like⟩ := like.finish
      · rw [missing, missing']
        exact agree_error (keeps_kin.size kin)
      · rw [filled, filled']
        exact .ok ⟨like, kin⟩
  | cons field fields ih =>
      rw [readItems, readItems]
      obtain ⟨fault, fault', failed, failed', like'⟩ | ⟨_, _, turned, turned', both⟩ := due.listTurn.cases
      · rw [failed, failed']
        exact .error like'
      rw [turned, turned']
      cases both with
      | close twins =>
          dsimp only
          obtain ⟨field, missing, missing'⟩ | ⟨wire, wire', filled, filled', like⟩ := like.finish
          · rw [missing, missing']
            exact agree_error twins.size
          · rw [filled, filled']
            exact .ok ⟨like, .inl twins⟩
      | item twins =>
          dsimp only
          obtain ⟨fault, fault', failed, failed', like'⟩ | ⟨⟨_, rest⟩, ⟨_, rest'⟩, taken, taken', like', kin⟩ :=
            (agree_readField like (.inl twins)).cases
          · rw [failed, failed']
            exact .error like'
          · rw [taken, taken']
            exact ih kin.due like'

theorem agree_readWire (twins : Twins Field.password.key .outside octets octets') :
    Agree Wire.Like (readWire octets) (readWire octets') := by
  unfold readWire
  obtain ⟨ended, ended'⟩ | ⟨octet, tail, tail', shape, shape', whole, size, more⟩ := keeps_twins.dark twins
  · rw [ended, ended']
    exact agree_error rfl
  rw [shape, shape']
  dsimp only
  have empty : Draft.empty.Like .empty := .intro .empty none rfl
  split_ifs with isObject isList
  on_goal 3 => exact .error (like_wrongType whole)
  on_goal 1 =>
    have due : Due Field.password.key true tail tail' := .inl (more (by rw [isObject]; decide))
    have agree := agree_readMembers (tail.length + 1) due empty
    rw [← size]
  on_goal 2 =>
    have due : Due Field.password.key ((0 : Nat) == 0) tail tail' := .inl (more (by rw [isList]; decide))
    have agree := agree_readItems Field.all due empty
  all_goals
    obtain ⟨fault, fault', failed, failed', like⟩ | ⟨⟨_, rest⟩, ⟨_, rest'⟩, taken, taken', like, kin⟩ := agree.cases
    · rw [failed, failed']
      exact .error like
    rw [taken, taken']
    dsimp only
    obtain ⟨fault, fault', failed, failed', like'⟩ | ⟨_, _, ended, ended', -⟩ := (keeps_kin.documentEnd kin).cases
    · rw [failed, failed']
      exact .error like'
    · rw [ended, ended']
      exact .ok like

/-! ### Requests -/

theorem ofWire_like (like : wire.Like wire') :
    (∃ request secret, ofWire wire = .ok request ∧ ofWire wire' = .ok (request.withSecret secret)) ∨
      ∃ failure, ofWire wire = .error failure ∧ ofWire wire' = .error failure := by
  obtain ⟨password⟩ := like
  unfold ofWire
  dsimp only
  split_ifs with isProbe isRun
  · exact .inl ⟨_, ⟨password⟩, rfl, rfl⟩
  · cases wire.arguments with
    | none => exact .inr ⟨_, rfl, rfl⟩
    | some arguments =>
        cases wire.environment with
        | none => exact .inr ⟨_, rfl, rfl⟩
        | some entries =>
            dsimp only
            cases parseEntries .empty entries with
            | error failure => exact .inr ⟨failure, rfl, rfl⟩
            | ok environment => exact .inl ⟨_, ⟨password⟩, rfl, rfl⟩
  · exact .inr ⟨_, rfl, rfl⟩

/-- What stands around the literal of a password.  Every string that begins before its key ends before it. -/
structure Surroundings where
  before : List UInt8
  key : List UInt8
  gap : List UInt8
  gap' : List UInt8
  after : List UInt8
  closed : Quotation.after before = .outside
  named : Quoted key Field.password.key
  blank : Blank gap
  blank' : Blank gap'

/-- The payload that has the literal there. -/
def Surroundings.payload (around : Surroundings) (literal : List UInt8) : List UInt8 :=
  around.before ++ 0x22 :: around.key ++ around.gap ++ 0x3A :: around.gap' ++ 0x22 :: literal ++ around.after

variable {literal literal' : List UInt8}

theorem Surroundings.twins (around : Surroundings) (isLiteral : Literal literal) (isLiteral' : Literal literal')
    (size : literal.length = literal'.length) :
    Twins Field.password.key .outside (around.payload literal) (around.payload literal') := by
  have veiled : Veiled _ _ := .of_blank around.blank' (.literal isLiteral isLiteral' size around.after)
  have key := Twins.key around.named (.of_blank around.blank (.lead (.inr rfl) veiled))
  rw [← around.closed] at key
  have twins := key.of_append around.before
  simpa [payload] using twins

theorem Surroundings.aligned (around : Surroundings) (isLiteral : Literal literal) (isLiteral' : Literal literal')
    (size : literal.length = literal'.length) : Aligned (around.payload literal) (around.payload literal') := by
  have start := Aligned.refl (around.before ++ 0x22 :: around.key ++ around.gap ++ 0x3A :: around.gap' ++ [0x22])
  have aligned := start.append ((isLiteral.aligned isLiteral' size).append (.refl around.after))
  simpa [payload] using aligned

/-- Of two payloads that differ in the literal of a password, and not in its size, either both are requests that differ
in the secret at most, or neither is, for the same reason and in the same place. -/
theorem decode_discreet (around : Surroundings) (isLiteral : Literal literal) (isLiteral' : Literal literal')
    (size : literal.length = literal'.length) :
    (∃ request secret, decode (around.payload literal) = .ok request ∧
      decode (around.payload literal') = .ok (request.withSecret secret)) ∨
    ∃ failure, decode (around.payload literal) = .error failure ∧ decode (around.payload literal') = .error failure := by
  have aligned := around.aligned isLiteral isLiteral' size
  unfold decode
  obtain ⟨fault, fault', failed, failed', like⟩ | ⟨wire, wire', read, read', like⟩ :=
    (agree_readWire (around.twins isLiteral isLiteral' size)).cases
  · rw [failed, failed']
    exact .inr ⟨_, rfl, by rw [like.diagnose aligned]⟩
  · rw [read, read']
    exact ofWire_like like

/-- A probe but for its password and its end. -/
def probeSurroundings (after : List UInt8) : Surroundings where
  before := Text.Utf8.bytes "\x7b\"name\":\"AuthOnly\",\"username\":\"al\","
  key := Text.Utf8.bytes "password\""
  gap := []
  gap' := [0x20]
  after := after
  closed := by decide +kernel
  named := quoted_of_string (by decide +kernel)
  blank := blank_nil
  blank' := by simp [Blank, isBlank]

/-- A password and one that is an escape, in a probe and in one with a comma at its end. -/
theorem decode_discreet_probe :
    (∃ request secret, decode ((probeSurroundings [0x7D]).payload (Text.Utf8.bytes "pw\"")) = .ok request ∧
      decode ((probeSurroundings [0x7D]).payload (Text.Utf8.bytes "\\n\"")) = .ok (request.withSecret secret)) ∧
    ∃ failure, decode ((probeSurroundings [0x2C, 0x7D]).payload (Text.Utf8.bytes "pw\"")) = .error failure ∧
      decode ((probeSurroundings [0x2C, 0x7D]).payload (Text.Utf8.bytes "\\n\"")) = .error failure := by
  have isLiteral : Literal (Text.Utf8.bytes "pw\"") := ⟨"pw", quoted_of_string (by decide +kernel)⟩
  have isLiteral' : Literal (Text.Utf8.bytes "\\n\"") := ⟨"\n", quoted_of_string (by decide +kernel)⟩
  have size : (Text.Utf8.bytes "pw\"").length = (Text.Utf8.bytes "\\n\"").length := by decide +kernel
  constructor
  · have accepted : decode ((probeSurroundings [0x7D]).payload (Text.Utf8.bytes "pw\"")) =
        .ok (.probe "al" ⟨"pw"⟩) := by decide +kernel
    rcases decode_discreet (probeSurroundings [0x7D]) isLiteral isLiteral' size with requests | ⟨failure, failed, -⟩
    · exact requests
    · rw [accepted] at failed
      contradiction
  · have refused : (decode ((probeSurroundings [0x2C, 0x7D]).payload (Text.Utf8.bytes "pw\""))).toOption = none := by
      decide +kernel
    rcases decode_discreet (probeSurroundings [0x2C, 0x7D]) isLiteral isLiteral' size with ⟨_, _, accepted, -⟩ | failures
    · rw [accepted] at refused
      contradiction
    · exact failures

end AuthBroker.Request
