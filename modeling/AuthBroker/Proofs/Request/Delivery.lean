import AuthBroker.Proofs.Exchange
import AuthBroker.Proofs.Frame.Delivery
import AuthBroker.Proofs.Request.RoundTrip

namespace AuthBroker.Request

open AuthBroker.Attempt AuthBroker.Frame AuthBroker.Stream

/-! Requests on their way to the helper.

The input of a helper is either one whole frame, which holds the request of the caller, or the
beginning of one, which holds no request at all.
-/

variable {broker : Broker} {request : Request} {limit : Nat → Option Nat} {channel : Channel}
  {octets : List UInt8}

/-- A run of an attempt for a request, in which the system takes no more than it is offered. -/
structure Delivery (broker : Broker) (request : Request) where
  ticks : List Tick
  modest : allModest broker ticks (launched request.mode request.encode) = true

namespace Delivery

def attempt (delivery : Delivery broker request) : Attempt :=
  (launched request.mode request.encode).follow broker delivery.ticks

/-- What the run puts on the input of the helper. -/
def input (delivery : Delivery broker request) : List UInt8 :=
  Attempt.input broker delivery.ticks (launched request.mode request.encode)

end Delivery

/-- A helper that reads one frame and decodes it. -/
def receive (limit : Nat → Option Nat) (channel : Channel) : Except ProtocolFailure Request × Channel :=
  match Frame.read limit channel with
  | (.ok payload, rest) => (decode payload, rest)
  | (.error error, rest) => (.error (.frame error), rest)

/-- These octets are all that the channel brings, cut into any runs, with interruptions among
them, and some at each call. -/
structure Brings (octets : List UInt8) (limit : Nat → Option Nat) (channel : Channel) : Prop where
  pending : channel.pending = octets
  interruptions : ∀ error, .failure error ∈ channel.events → error.isInterrupted = true
  through : ∀ turn, limit turn ≠ some 0

theorem receive_octets (named : request.Named) (small : request.encode.length ≤ maxSize)
    (brings : Brings (Frame.octets request.encode) limit channel) :
    ∃ rest, receive limit channel = (.ok request, rest) ∧ rest.pending = [] := by
  obtain ⟨rest, found, exhausted⟩ :=
    read_of_pending small brings.pending brings.interruptions brings.through
  refine ⟨rest, ?_, exhausted⟩
  rw [receive, found]
  exact congrArg (·, rest) (decode_named named)

theorem shortage_cases (held : List UInt8) :
    shortage held = .closed ∨ ∃ expected received, shortage held = .truncated expected received := by
  unfold shortage
  split_ifs
  · exact .inl rfl
  · exact .inr ⟨_, _, rfl⟩
  · exact .inr ⟨_, _, rfl⟩

theorem receive_short (short : Short octets) (brings : Brings octets limit channel) :
    ∃ error, (receive limit channel).1 = .error (.frame error) ∧
      (error = .closed ∨ ∃ expected received, error = .truncated expected received) := by
  have supply := supply_of_interruptions brings.interruptions
  rw [brings.pending] at supply
  obtain ⟨rest, found, -⟩ := read_short brings.through supply short
  exact ⟨shortage octets, by rw [receive, found], shortage_cases octets⟩

theorem Delivery.sends (delivery : Delivery broker request) (small : request.encode.length ≤ maxSize) :
    Sends request.encode delivery.input delivery.attempt :=
  (sends_launched request.mode small).follow delivery.modest

theorem Delivery.ended_oversized (delivery : Delivery broker request) {first : Tick} {later : List Tick}
    (oversized : maxSize < request.encode.length) (begun : delivery.ticks = first :: later) :
    delivery.attempt = (launched request.mode request.encode).fail (oversize request.mode request.encode first) := by
  rw [attempt, begun, follow_cons, step_oversized oversized]
  exact follow_over rfl later

/-- The attempts that a broker makes are such runs, and their helpers get what these put on
the input. -/
theorem exists_delivery {surroundings : Surroundings} {script : List Helper.Action}
    {cancellation : Cancellation} {exchange : Exchange}
    (made : (broker.attempt surroundings request script cancellation).exchange = some exchange) :
    ∃ delivery : Delivery broker request,
      (exchange.attempt = delivery.attempt ∨ ∃ cleanup, exchange.attempt = delivery.attempt.dismiss cleanup) ∧
      exchange.helper.request <+: delivery.input := by
  obtain ⟨completed, complete, handling⟩ := exchange_of_attempt made
  obtain ⟨ticks, joined⟩ : ∃ ticks, Exchange.Joined broker request.mode request.encode ticks completed :=
    complete ▸ Exchange.joined_start.run _
  have received (helper : Helper) : helper.request <+: helper.arrived := List.prefix_append _ _
  refine ⟨⟨ticks, joined.modest⟩, ?_⟩
  rcases handling with ⟨-, rfl⟩ | ⟨-, rfl⟩
  · exact ⟨.inl joined.follows, (received _).trans joined.arrived⟩
  · refine ⟨.inr ⟨_, congrArg (dismiss · _) joined.follows⟩, ?_⟩
    exact (received _).trans (Exchange.leaves_kill.arrived.trans joined.arrived)

/-- An attempt of a broker with a request that is too large. -/
theorem attempt_oversized {surroundings : Surroundings} {script : List Helper.Action}
    {cancellation : Cancellation} {exchange : Exchange} (oversized : maxSize < request.encode.length)
    (made : (broker.attempt surroundings request script cancellation).exchange = some exchange) :
    exchange.attempt.ending? = some (.failed (if cancellation = .before ∧ request.mode = .probe then .cancelled
      else .protocol (.frame (.tooLarge request.encode.length)))) ∧
    exchange.attempt.lifecycle = .failed ∧ exchange.helper.status ≠ none ∧
    exchange.attempt.child.observed ≠ none := by
  obtain ⟨completed, complete, handling⟩ := exchange_of_attempt made
  have attempt := Exchange.complete_oversized broker request.mode script Pipe.usualCapacity cancellation oversized
  rw [← complete] at attempt
  have unhanded : completed.attempt.ending? ≠ some .handedOff := by
    rw [attempt]
    simp [fail, finish, ending?]
  rcases handling with ⟨handed, -⟩ | ⟨-, rfl⟩
  · exact absurd handed unhanded
  · refine ⟨?_, ?_, Exchange.dismiss_gone unhanded⟩
    · rw [Exchange.dismiss, ending?_dismiss, attempt]
      rfl
    · rw [Exchange.dismiss, lifecycle_dismiss, attempt]
      split <;> rfl

/-- A payload has more octets than the password has characters. -/
theorem lt_length_encode (request : Request) : request.secret.exposed.length < request.encode.length := by
  have written := Json.length_lt_string request.secret.exposed
  rw [encode_eq]
  cases request with
  | _ =>
      simp only [Request.secret, document, Json.Value.octets, Json.Value.pieces, Json.memberPieces,
        List.flatten_cons, List.flatten_append, List.length_cons, List.length_append] at written ⊢
      omega

/-- What a helper gets is what the caller asked for.  A request that was sent is one frame on the
input, which is read back as the request under the message of its operation.  Until then the
attempt offers what comes next of the frame.  What cuts a request off leaves the helper a part
of the frame, which is read as no request.  Of a request
that is too large there is nothing: the attempt fails, because it is too large unless a probe
was cancelled before, and the helper is ended.  The attempts of a broker are such runs, and
the helper gets nothing else.  What a caller asks for are the credentials that it hands over,
and for a session also the arguments and the environment. -/
theorem request_arrives (broker : Broker) (request : Request) :
    (∀ delivery : Delivery broker request,
      (request.encode.length ≤ maxSize → .requestSent ∈ delivery.attempt.history →
        delivery.input = Frame.octets request.encode ∧
        (∃ wire, readWire request.encode = .ok wire ∧ (request.mode = .run → wire.name = "AuthAndRun") ∧
          (request.mode = .probe → wire.name = "AuthOnly")) ∧
        (request.Named → ∀ limit channel, Brings delivery.input limit channel →
          ∃ rest, receive limit channel = (.ok request, rest) ∧ rest.pending = [])) ∧
      (request.encode.length ≤ maxSize → .requestSent ∉ delivery.attempt.history →
        delivery.input <+: Frame.octets request.encode ∧ delivery.input ≠ Frame.octets request.encode ∧
        (delivery.attempt.ending? = none → ∃ offered, offered ≠ [] ∧
          delivery.attempt.call? = some (.write offered) ∧
          delivery.input ++ offered <+: Frame.octets request.encode) ∧
        (∀ ending, delivery.attempt.ending? = some ending →
          ∃ failure, ending = .failed failure ∧ CutsOff failure) ∧
        ∀ limit channel, Brings delivery.input limit channel →
          ∃ error, (receive limit channel).1 = .error (.frame error) ∧
            (error = .closed ∨ ∃ expected received, error = .truncated expected received)) ∧
      (maxSize < request.encode.length → delivery.input = [] ∧
        ∀ first later, delivery.ticks = first :: later →
          delivery.attempt.ending? = some (.failed (if first.cancelled ∧ request.mode = .probe then .cancelled
            else .protocol (.frame (.tooLarge request.encode.length)))) ∧
          delivery.attempt.lifecycle = .failed ∧
          ∀ cleanup, (∃ status, cleanup.poll = .ok (some status)) ∨
            (delivery.attempt.dismiss cleanup).child.calls = [.poll, .killGroup, .kill, .await])) ∧
    (∀ surroundings script cancellation exchange,
      (broker.attempt surroundings request script cancellation).exchange = some exchange →
      (∃ delivery : Delivery broker request,
        (exchange.attempt = delivery.attempt ∨
          ∃ cleanup, exchange.attempt = delivery.attempt.dismiss cleanup) ∧
        exchange.helper.request <+: delivery.input) ∧
      (maxSize < request.encode.length →
        exchange.attempt.ending? = some (.failed (if cancellation = .before ∧ request.mode = .probe
          then .cancelled else .protocol (.frame (.tooLarge request.encode.length)))) ∧
        exchange.attempt.lifecycle = .failed ∧ exchange.helper.status ≠ none ∧
        exchange.attempt.child.observed ≠ none)) ∧
    (∀ username secret, request = .probe username secret → ∀ surroundings script cancellation,
      broker.authenticateOnly surroundings ⟨username, secret⟩ script cancellation =
        broker.attempt surroundings request script cancellation) ∧
    ∀ username secret arguments environment, request = .run username secret arguments environment →
      ∀ surroundings script,
        broker.authenticateAndRun surroundings ⟨username, secret⟩ ⟨arguments, environment⟩ script =
          broker.attempt surroundings request script .never := by
  refine ⟨fun delivery => ⟨?_, ?_, ?_⟩, fun surroundings script cancellation exchange made => ⟨?_, ?_⟩, ?_, ?_⟩
  · intro small sent
    have whole := (delivery.sends small).eq_of_sent sent
    refine ⟨whole, ⟨request.wire, readWire_encode request, ?_, ?_⟩, ?_⟩
    · cases request <;> simp [Request.mode, Request.wire, runName]
    · cases request <;> simp [Request.mode, Request.wire, probeName]
    · intro named limit channel brings
      rw [whole] at brings
      exact receive_octets named small brings
  · intro small unsent
    have sends := delivery.sends small
    obtain ⟨rest, notEmpty, frame⟩ := sends.prefix_of_unsent unsent
    have short : Short delivery.input := Whole.short (frame ▸ whole_octets small) notEmpty
    refine ⟨⟨rest, frame⟩, ?_, sends.exists_offer unsent, fun ending => sends.cutsOff unsent,
      fun limit channel => receive_short short⟩
    intro whole
    rw [whole] at frame
    exact notEmpty (List.append_right_eq_self.mp frame)
  · intro oversized
    refine ⟨input_oversized oversized delivery.ticks, fun first later begun => ?_⟩
    rw [delivery.ended_oversized oversized begun]
    exact ⟨rfl, lifecycle_oversize, terminate_started⟩
  · exact exists_delivery made
  · exact fun oversized => attempt_oversized oversized made
  · rintro username secret rfl surroundings script cancellation
    rfl
  · rintro username secret arguments environment rfl surroundings script
    rfl

/-- A session whose request is taken in two pieces, and read in many. -/
theorem request_arrives_session :
    let request : Request := .run "ann" ⟨"pw"⟩ ["sh"] (.ofList [("TERM", "dumb")])
    let channel : Channel := ⟨[.octets (Frame.octets request.encode), .failure (.plain .interrupted)]⟩
    ∃ rest, receive (fun _ => some 3) channel = (.ok request, rest) ∧ rest.pending = [] := by
  intro request channel
  let ticks : List Tick := [⟨false, .wrote 4, false⟩, ⟨false, .wrote request.encode.length, false⟩]
  let delivery : Delivery (.english .standard) request := ⟨ticks, by decide +kernel⟩
  obtain ⟨whole, -, received⟩ := ((request_arrives (.english .standard) request).1 delivery).1
    (by decide +kernel) (by decide +kernel)
  have named : request.Named := by
    have entries : (Environment.ofList [("TERM", "dumb")]).entries = [("TERM", "dumb")] := by decide
    simp [request, Named, entries]
  refine received named (fun _ => some 3) channel ⟨?_, ?_, by simp⟩
  · rw [whole]
    simp [channel, Channel.pending]
  · simp [channel, IoError.isInterrupted]

/-- A probe with a password of one mebibyte whose caller has cancelled it before. -/
theorem oversized_cancelled :
    let request : Request := .probe "user" ⟨String.ofList (List.replicate 1048576 'p')⟩
    let files : FileTree := ⟨[(.ofString "/", .directory), (.ofString "/helper", .file true [])]⟩
    let report := (Broker.english (.withHelperPath (.ofString "/helper"))).attempt
      ⟨.ofString "/broker", files, .empty⟩ request [] .before
    maxSize < request.encode.length ∧ report.attempt.ending? = some (.failed .cancelled) ∧
      report.attempt.ending? ≠ some (.failed (.protocol (.frame (.tooLarge request.encode.length)))) := by
  have long : (String.ofList (List.replicate 1048576 'p')).length = maxSize := by
    rw [String.length_ofList, List.length_replicate]
    rfl
  generalize String.ofList (List.replicate 1048576 'p') = password at long
  intro request files report
  have oversized : maxSize < request.encode.length := long ▸ lt_length_encode request
  have started : (Launch.plan (.withHelperPath (.ofString "/helper")) (.ofString "/broker") .empty .probe).start
      files = .ok () := by
    decide +kernel
  obtain ⟨exchange, made, attempt⟩ : ∃ exchange, report.exchange = some exchange ∧
      report.attempt = exchange.attempt := exists_exchange [] .before started
  have ended := (attempt_oversized oversized made).1
  rw [if_pos ⟨rfl, rfl⟩, ← attempt] at ended
  refine ⟨oversized, ended, ?_⟩
  rw [ended]
  simp

end AuthBroker.Request
