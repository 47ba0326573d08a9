import AuthBroker.Proofs.Frame.Delivery
import AuthBroker.Proofs.Json.Writing
import AuthBroker.Proofs.Reply.FailClosed

namespace AuthBroker.Reply

open AuthBroker.Frame AuthBroker.Stream

/-! Replies on their way to the broker.

A reply that was written is read with its own tag and its own text, whatever the text looks
like.  So a user or a module of the system that has a hand in the text of a refusal cannot
make an acceptance of it.
-/

variable {tag other : Tag} {text held : String} {catalog : Catalog} {codes : ExitCodes}

/-- How a reply refuses.  Its text stands in the failure as it was written. -/
inductive Refuses : Tag → String → Failure → Prop
  | pamInfo {text : String} : Refuses .pamInfo text (.credential .pamInfo text)
  | pamError {text : String} : Refuses .pamError text (.credential .pamError text)
  | systemError {text : String} : Refuses .systemError text (.credential .system text)
  | requestError {text : String} : Refuses .requestError text (.protocol (.requestRejected text))
  | executionError {key shown : String} : Refuses .executionError key (.execution key shown)

theorem carries_encode (tag : Tag) (text : String) : Carries (encode tag text) tag.name text :=
  ⟨.string text, [], Json.document_strings [tag.name, text], .string text⟩

theorem decode_written (tag : Tag) (text : String) : decode (encode tag text) = .tagged tag text :=
  decode_eq_tagged_iff.mpr (carries_encode tag text)

theorem encode_inj (same : encode tag text = encode other held) : tag = other ∧ text = held := by
  have decoded := congrArg decode same
  rw [decode_written, decode_written, Reply.tagged.injEq] at decoded
  exact decoded

theorem classify_refusal (refusal : tag ≠ .result) :
    ∃ failure, classify catalog codes (.tagged tag text) = .error failure ∧ Refuses tag text failure := by
  cases tag with
  | pamInfo => exact ⟨_, rfl, .pamInfo⟩
  | pamError => exact ⟨_, rfl, .pamError⟩
  | systemError => exact ⟨_, rfl, .systemError⟩
  | requestError => exact ⟨_, rfl, .requestError⟩
  | executionError => exact ⟨_, rfl, .executionError⟩
  | result => contradiction

/-- A reply arrives as it was written.  The stream that takes its frame never fails; what it
took is cut into any runs, with interruptions among them.  A result authenticates with its
text, and under any other tag the same text is a refusal. -/
theorem reply_arrives {State : Type} {writer : Writer State} {states : State → Prop} (tag : Tag)
    (text : String) (catalog : Catalog) (codes : ExitCodes) (state : State) (channel : Channel)
    (limit : Nat → Option Nat) (willing : writer.Willing states) (begins : states state)
    (carried : channel.pending = (writeTo writer (encode tag text) state).1.delivered)
    (interruptions : ∀ error, .failure error ∈ channel.events → error.isInterrupted = true)
    (through : ∀ turn, limit turn ≠ some 0) :
    decode (encode tag text) = .tagged tag text ∧ (decode (encode tag text)).tag? = some tag ∧
    (∀ other held, encode tag text = encode other held → tag = other ∧ text = held) ∧
    ((encode tag text).length ≤ maxSize →
      (writeTo writer (encode tag text) state).1.stage = .finished ∧
      ∃ payload, (Frame.read limit channel).1 = .ok payload ∧
        (tag = .result → classify catalog codes (decode payload) = .ok ⟨text⟩) ∧
        (tag ≠ .result → ∃ failure,
          classify catalog codes (decode payload) = .error failure ∧ Refuses tag text failure)) := by
  refine ⟨decode_written tag text, by rw [decode_written, tag?], fun other held => encode_inj, ?_⟩
  intro small
  obtain ⟨next, written, -⟩ := writeTo_willing willing begins small
  rw [written, Outgoing.delivered, List.reverse_reverse] at carried
  obtain ⟨rest, found, -⟩ := read_of_pending small carried interruptions through
  refine ⟨by rw [written], encode tag text, by rw [found], ?_, ?_⟩
  · intro result
    rw [decode_written, result, classify]
  · intro refusal
    rw [decode_written]
    exact classify_refusal refusal

/-- A message that ends its own list and starts one that would authenticate. -/
theorem reply_arrives_lookalike :
    let text := "\"],[\"rtvs-result\",\"/root"
    let channel : Channel :=
      ⟨[.octets (octets (encode .pamError text)), .failure (.plain .interrupted)]⟩
    ∃ payload, (Frame.read (fun _ => some 7) channel).1 = .ok payload ∧
      ∃ failure, classify .english .english (decode payload) = .error failure ∧
        Refuses .pamError text failure := by
  intro text channel
  have small : (encode .pamError text).length ≤ maxSize := by decide
  obtain ⟨next, written, -⟩ := writeTo_willing Sink.willing (by decide : Sink.unlimited.limit ≠ some 0 ∧
    Sink.unlimited.room = none ∧ Sink.unlimited.flushFailure = none) small
  have carried : channel.pending = (writeTo Sink.writer (encode .pamError text) Sink.unlimited).1.delivered := by
    rw [written, Outgoing.delivered, List.reverse_reverse]
    simp [channel, Channel.pending]
  obtain ⟨-, -, -, arrived⟩ := reply_arrives .pamError text .english .english Sink.unlimited channel
    (fun _ => some 7) Sink.willing (by decide) carried (by simp [channel, IoError.isInterrupted]) (by simp)
  obtain ⟨-, payload, found, -, refused⟩ := arrived small
  exact ⟨payload, found, refused (by decide)⟩

end AuthBroker.Reply
