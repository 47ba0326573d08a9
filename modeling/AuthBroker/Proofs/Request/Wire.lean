import AuthBroker.Proofs.Json.Reading
import AuthBroker.Proofs.Json.Writing
import AuthBroker.Request.Decode
import AuthBroker.Request.Encode

namespace AuthBroker.Request

open AuthBroker.Json

/-! The record of a written request is read back.

The members of a request come in the order of the wire.  Each of them is one turn of the
reader, which adds a field to the draft; a list of strings takes one turn an item.
-/

variable {fuel : Nat} {first : Bool} {draft draft' : Draft} {rest : List UInt8}

/-! ### Filling a payload -/

theorem foldl_write (buffer : Buffer) (pieces : List (List UInt8)) :
    (pieces.foldl Buffer.write buffer).octets.toList = buffer.octets.toList ++ pieces.flatten := by
  induction pieces generalizing buffer with
  | nil => simp
  | cons piece pieces ih =>
      have written : (buffer.write piece).octets.toList = buffer.octets.toList ++ piece := by
        unfold Buffer.write
        dsimp only
        split <;> simp
      rw [List.foldl_cons, ih, written, List.flatten_cons, List.append_assoc]

/-- A payload is the document of its request, however its storage was filled. -/
theorem encode_eq (request : Request) : request.encode = request.document.octets := by
  rw [encode, buffer, foldl_write]
  rfl

/-! ### Strings and lists -/

theorem readString_octets (text : String) (rest : List UInt8) :
    readString ((Value.string text).octets ++ rest) = .ok (text, rest) := by
  obtain ⟨spelling, quoted, octets⟩ := octets_string text
  have read : string (spelling ++ rest) = .ok (text, rest) :=
    string_eq_ok_iff.mpr ⟨spelling, quoted, rfl⟩
  rw [octets, List.cons_append, readString, dropBlank_of_dark (by decide)]
  simp [read]

theorem readStrings_octets (texts held : List String) (rest : List UInt8)
    (enough : texts.length < fuel) :
    readStrings fuel first held ((itemPieces first (texts.map .string)).flatten ++ 0x5D :: rest) =
      .ok (held.reverse ++ texts, rest) := by
  induction texts generalizing fuel first held with
  | nil =>
      cases fuel with
      | zero => contradiction
      | succ fuel =>
          have turned : listTurn first (0x5D :: rest) = .ok (.close rest) := listTurn_closing blank_nil
          simp [readStrings, itemPieces, turned]
  | cons text texts ih =>
      cases fuel with
      | zero => contradiction
      | succ fuel =>
          obtain ⟨spelling, -, octets⟩ := octets_string text
          have read := readString_octets text
            ((itemPieces false (texts.map .string)).flatten ++ 0x5D :: rest)
          have more : readStrings fuel false (text :: held)
              ((itemPieces false (texts.map .string)).flatten ++ 0x5D :: rest) =
              .ok ((text :: held).reverse ++ texts, rest) :=
            ih (text :: held) (Nat.lt_of_succ_lt_succ enough)
          rw [List.map_cons, flatten_items, List.append_assoc, List.append_assoc]
          rw [octets, List.cons_append] at read ⊢
          rw [readStrings, listTurn_lead (lead_commaBefore first) (by decide) (by decide)]
          simp only [read, more]
          simp

theorem length_items (first : Bool) (texts : List String) :
    texts.length ≤ (itemPieces first (texts.map .string)).flatten.length := by
  induction texts generalizing first with
  | nil => simp
  | cons text texts ih =>
      obtain ⟨spelling, -, octets⟩ := octets_string text
      have more := ih false
      rw [List.map_cons, flatten_items, octets]
      simp only [List.length_cons, List.length_append]
      omega

theorem readList_octets (texts : List String) (rest : List UInt8) :
    readList ((Value.array (texts.map .string)).octets ++ rest) = .ok (some texts, rest) := by
  have octets : (Value.array (texts.map .string)).octets ++ rest =
      0x5B :: ((itemPieces true (texts.map .string)).flatten ++ 0x5D :: rest) := by
    simp [Value.octets, Value.pieces]
  have enough := length_items true texts
  have read : readStrings (((itemPieces true (texts.map .string)).flatten ++ 0x5D :: rest).length + 1)
      true [] ((itemPieces true (texts.map .string)).flatten ++ 0x5D :: rest) = .ok (texts, rest) := by
    refine readStrings_octets texts [] rest ?_
    rw [List.length_append]
    omega
  rw [octets, readList, dropBlank_of_dark (by decide)]
  have notNull : (0x5B : UInt8) ≠ 0x6E := by decide
  simp only [notNull, if_true, if_false, read]

/-! ### Records -/

theorem flatten_members (first : Bool) (key : String) (value : Value)
    (members : List (String × Value)) :
    (memberPieces first ((key, value) :: members)).flatten = (commaBefore first).flatten ++
      ((stringPieces key).flatten ++ 0x3A :: (value.octets ++ (memberPieces false members).flatten)) := by
  simp [memberPieces, Value.octets]

/-- A member of a field that is still free fills it. -/
theorem readMembers_member (field : Field) (value : Value) (members : List (String × Value))
    (free : draft.has field = false)
    (filled : ∀ rest, draft.readField field (value.octets ++ rest) = .ok (draft', rest)) :
    readMembers (fuel + 1) first draft
        ((memberPieces first ((field.key, value) :: members)).flatten ++ rest) =
      readMembers fuel false draft' ((memberPieces false members).flatten ++ rest) := by
  obtain ⟨spelling, quoted, octets⟩ := exists_quoted field.key
  have known : Field.ofKey? field.key = some field := by cases field <;> decide
  have named (rest : List UInt8) : string (spelling ++ rest) = .ok (field.key, rest) :=
    string_eq_ok_iff.mpr ⟨spelling, quoted, rfl⟩
  have divided (rest : List UInt8) : colon (0x3A :: rest) = .ok rest :=
    colon_eq_ok_iff.mpr ⟨[], blank_nil, rfl⟩
  simp only [flatten_members, octets, List.append_assoc, List.cons_append]
  rw [readMembers, objectTurn_lead (lead_commaBefore first)]
  simp [named, known, free, divided, filled]

theorem readMembers_end {wire : Wire} (complete : draft.finish = .ok wire) :
    readMembers (fuel + 1) first draft ((memberPieces first []).flatten ++ 0x7D :: rest) =
      .ok (wire, rest) := by
  have turned : objectTurn first (0x7D :: rest) = .ok (.close rest) := objectTurn_closing blank_nil
  simp [readMembers, memberPieces, turned, complete]

theorem readMembers_texts (fuel : Nat) (name username password : String) (members : List (String × Value)) :
    readMembers (fuel + 3) true .empty ((memberPieces true (("name", .string name) ::
        ("username", .string username) :: ("password", .string password) :: members)).flatten ++ rest) =
      readMembers fuel false ⟨some name, some username, some password, none, none⟩
        ((memberPieces false members).flatten ++ rest) := by
  have filled (draft : Draft) (rest : List UInt8) : draft.readField .name
      ((Value.string name).octets ++ rest) = .ok ({ draft with name := some name }, rest) := by
    rw [Draft.readField, readString_octets]
    rfl
  have filled' (draft : Draft) (rest : List UInt8) : draft.readField .username
      ((Value.string username).octets ++ rest) = .ok ({ draft with username := some username }, rest) := by
    rw [Draft.readField, readString_octets]
    rfl
  have filled'' (draft : Draft) (rest : List UInt8) : draft.readField .password
      ((Value.string password).octets ++ rest) = .ok ({ draft with password := some password }, rest) := by
    rw [Draft.readField, readString_octets]
    rfl
  rw [show "name" = Field.name.key from rfl, readMembers_member .name _ _ rfl (filled _),
    show "username" = Field.username.key from rfl, readMembers_member .username _ _ rfl (filled' _),
    show "password" = Field.password.key from rfl, readMembers_member .password _ _ rfl (filled'' _)]
  rfl

theorem readMembers_lists (arguments environment : List String) (noArguments : draft.arguments = none)
    (noEnvironment : draft.environment = none) :
    readMembers (fuel + 2) false draft ((memberPieces false
        [("arguments", .array (arguments.map .string)),
          ("environment", .array (environment.map .string))]).flatten ++ rest) =
      readMembers fuel false
        { draft with arguments := some (some arguments), environment := some (some environment) }
        ((memberPieces false []).flatten ++ rest) := by
  have filled (draft : Draft) (rest : List UInt8) : draft.readField .arguments
      ((Value.array (arguments.map .string)).octets ++ rest) =
        .ok ({ draft with arguments := some (some arguments) }, rest) := by
    rw [Draft.readField, readList_octets]
    rfl
  have filled' (draft : Draft) (rest : List UInt8) : draft.readField .environment
      ((Value.array (environment.map .string)).octets ++ rest) =
        .ok ({ draft with environment := some (some environment) }, rest) := by
    rw [Draft.readField, readList_octets]
    rfl
  rw [show "arguments" = Field.arguments.key from rfl,
    readMembers_member .arguments _ _ (by simp [Draft.has, noArguments]) (filled _),
    show "environment" = Field.environment.key from rfl,
    readMembers_member .environment _ _ (by simp [Draft.has, noEnvironment]) (filled' _)]

theorem length_members (first : Bool) (members : List (String × Value)) :
    members.length ≤ (memberPieces first members).flatten.length := by
  induction members generalizing first with
  | nil => simp
  | cons member members ih =>
      obtain ⟨spelling, -, octets⟩ := exists_quoted member.1
      have more := ih false
      rw [flatten_members, octets]
      simp only [List.length_cons, List.length_append]
      omega

/-- A written object is read as a record when its members are. -/
theorem readWire_object {members : List (String × Value)} {wire : Wire}
    (record : ∀ fuel rest, readMembers (fuel + 1 + members.length) true .empty
      ((memberPieces true members).flatten ++ 0x7D :: rest) = .ok (wire, rest)) :
    readWire (Value.object members).octets = .ok wire := by
  have octets : (Value.object members).octets = 0x7B :: ((memberPieces true members).flatten ++ [0x7D]) := by
    simp [Value.octets, Value.pieces]
  have long := length_members true members
  obtain ⟨fuel, enough⟩ : ∃ fuel, ((memberPieces true members).flatten ++ [0x7D]).length + 1 =
      fuel + 1 + members.length := by
    rw [List.length_append]
    exact ⟨(memberPieces true members).flatten.length - members.length + 1, by
      rw [List.length_singleton]; omega⟩
  rw [octets, readWire, dropBlank_of_dark (by decide)]
  simp only [if_true, enough, record fuel [], documentEnd_eq_ok_iff.mpr blank_nil]

/-- The record that a request writes. -/
def wire : Request → Wire
  | .run username secret arguments environment =>
      ⟨runName, username, secret.exposed, some arguments, some (environment.entries.map entryText)⟩
  | .probe username secret => ⟨probeName, username, secret.exposed, none, none⟩

theorem readWire_encode (request : Request) : readWire request.encode = .ok request.wire := by
  rw [encode_eq]
  cases request with
  | probe username secret =>
      refine readWire_object fun fuel rest => ?_
      rw [List.length_cons, List.length_cons, List.length_singleton, readMembers_texts,
        readMembers_end rfl]
      rfl
  | run username secret arguments environment =>
      have written : environment.entries.map (fun entry => Value.string (entryText entry)) =
          (environment.entries.map entryText).map .string := by
        rw [List.map_map]
        rfl
      rw [document, written]
      refine readWire_object fun fuel rest => ?_
      rw [show fuel + 1 + List.length _ = fuel + 3 + 3 from rfl, readMembers_texts (fuel + 3),
        readMembers_lists _ _ rfl rfl]
      exact readMembers_end rfl

end AuthBroker.Request
