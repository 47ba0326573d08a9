import AuthBroker.Broker
import AuthBroker.Credentials
import AuthBroker.Proofs.Attempt.Run
import AuthBroker.Proofs.Request.Wire

namespace AuthBroker

open AuthBroker.Stream

/-! What an attempt tells of its secret.

An attempt looks at how many octets of its request are left and never at what they are.  So it
makes the same steps when all of them are blinded, and two requests of one size cannot be told
apart by anything but the octets that go to the helper.
-/

def blind (octets : List UInt8) : List UInt8 :=
  octets.map fun _ => 0

theorem blind_eq {first second : List UInt8} (same : first.length = second.length) : blind first = blind second := by
  rw [blind, blind, List.map_const', List.map_const', same]

namespace Frame.Outgoing

def blind (outgoing : Outgoing) : Outgoing :=
  { outgoing with taken := AuthBroker.blind outgoing.taken, rest := AuthBroker.blind outgoing.rest }

theorem accept_blind (outgoing : Outgoing) (count : Nat) :
    outgoing.blind.accept count = (outgoing.accept count).blind := by
  obtain ⟨taken, rest, stage⟩ := outgoing
  cases stage with
  | writing =>
      cases count with
      | zero => rfl
      | succ count => simp [accept, blind, AuthBroker.blind, Nat.sub_eq_zero_iff_le]
  | _ => rfl

theorem refuse_blind (outgoing : Outgoing) (error : IoError) :
    outgoing.blind.refuse error = (outgoing.refuse error).blind := by
  obtain ⟨taken, rest, stage⟩ := outgoing
  cases stage with
  | writing =>
      unfold refuse
      dsimp only [blind]
      split <;> rfl
  | _ => rfl

theorem flushed_blind (outgoing : Outgoing) (failure : Option IoError) :
    outgoing.blind.flushed failure = (outgoing.flushed failure).blind := by
  obtain ⟨taken, rest, stage⟩ := outgoing
  cases stage with
  | flushing => cases failure <;> rfl
  | _ => rfl

theorem offered_blind (outgoing : Outgoing) : outgoing.blind.offered = AuthBroker.blind outgoing.offered := by
  unfold offered
  simp only [blind, AuthBroker.blind, ← List.map_take, List.length_map]
  split <;> simp

theorem start_blind {first second : List UInt8} (same : first.length = second.length) :
    (start first).blind = (start second).blind := by
  have frames : (octets first).length = (octets second).length := by simp [octets, lengthOctets, same]
  unfold start
  rw [same]
  split
  · rfl
  · simp [blind, blind_eq frames]

end Frame.Outgoing

namespace Attempt

variable {broker : Broker}

def Call.blind : Call → Call
  | .write octets => .write (AuthBroker.blind octets)
  | .wait => .wait
  | .read most => .read most

def blind (attempt : Attempt) : Attempt :=
  { attempt with outgoing := attempt.outgoing.blind }

@[simp]
theorem stage_blind (attempt : Attempt) : attempt.blind.stage = attempt.stage :=
  rfl

@[simp]
theorem heedsCancellation_blind (attempt : Attempt) :
    attempt.blind.heedsCancellation = attempt.heedsCancellation :=
  rfl

theorem transmit_blind (outgoing : Frame.Outgoing) (answer : Answer) :
    transmit outgoing.blind answer = (transmit outgoing answer).blind := by
  cases answer with
  | wrote count => rw [transmit, Frame.Outgoing.accept_blind, Frame.Outgoing.flushed_blind, transmit]
  | failed error => exact Frame.Outgoing.refuse_blind outgoing error
  | _ => rfl

theorem call?_blind (attempt : Attempt) : attempt.blind.call? = attempt.call?.map Call.blind := by
  obtain ⟨mode, lifecycle, stage, outgoing, child, log⟩ := attempt
  cases stage with
  | sending =>
      obtain ⟨taken, rest, stage⟩ := outgoing
      cases stage with
      | writing => exact congrArg (fun octets => some (Call.write octets)) (Frame.Outgoing.offered_blind _)
      | _ => rfl
  | _ => rfl

/-! ### Steps -/

theorem sent_blind (attempt : Attempt) : attempt.blind.sent = attempt.sent.blind := by
  obtain ⟨mode, lifecycle, stage, outgoing, child, log⟩ := attempt
  cases mode <;> rfl

theorem helperExited_blind (codes : ExitCodes) (attempt : Attempt) (status : WaitStatus) :
    attempt.blind.helperExited codes status = (attempt.helperExited codes status).blind := by
  unfold helperExited
  dsimp only
  split <;> rfl

theorem stepSending_blind (attempt : Attempt) (tick : Tick) :
    stepSending broker attempt.blind tick = (stepSending broker attempt tick).blind := by
  have transmitted : transmit attempt.blind.outgoing tick.answer =
      (transmit attempt.outgoing tick.answer).blind := transmit_blind _ _
  unfold stepSending
  simp only [transmitted]
  generalize transmit attempt.outgoing tick.answer = outgoing
  obtain ⟨taken, rest, stage⟩ := outgoing
  cases stage with
  | finished => exact sent_blind { attempt with outgoing := ⟨taken, rest, .finished⟩ }
  | failed error => rfl
  | _ =>
      -- the frame stays as it was left, whether its time is over or not
      cases tick.timedOut <;> simp [Frame.Outgoing.blind] <;> rfl

theorem stepWaiting_blind (attempt : Attempt) (tick : Tick) :
    stepWaiting broker attempt.blind tick = (stepWaiting broker attempt tick).blind := by
  unfold stepWaiting
  split
  · exact helperExited_blind broker.codes (attempt.await _) _
  · rfl
  · split <;> rfl

theorem stepReading_blind (attempt : Attempt) (incoming : Frame.Incoming) (tick : Tick) :
    stepReading broker attempt.blind incoming tick = (stepReading broker attempt incoming tick).blind := by
  unfold stepReading
  split
  · rfl
  · split <;> rfl

theorem step_blind (attempt : Attempt) (tick : Tick) :
    attempt.blind.step broker tick = (attempt.step broker tick).blind := by
  unfold step
  rw [heedsCancellation_blind, stage_blind]
  split
  · rfl
  · cases attempt.stage with
    | sending => exact stepSending_blind attempt tick
    | waiting => exact stepWaiting_blind attempt tick
    | reading incoming => exact stepReading_blind attempt incoming tick
    | _ => rfl

theorem follow_blind (ticks : List Tick) (attempt : Attempt) :
    attempt.blind.follow broker ticks = (attempt.follow broker ticks).blind := by
  induction ticks generalizing attempt with
  | nil => rfl
  | cons tick ticks ih => rw [follow_cons, follow_cons, step_blind, ih]

theorem dismiss_blind (attempt : Attempt) (cleanup : Child.Cleanup) :
    attempt.blind.dismiss cleanup = (attempt.dismiss cleanup).blind := by
  unfold dismiss
  rw [stage_blind]
  split <;> rfl

/-- How the system deals with an attempt, from the launch to the cleaning up. -/
structure Conduct where
  launch : Except IoError Unit
  ticks : List Tick
  cleanup : Child.Cleanup

/-- An attempt at a request, dealt with like this. -/
def undergo (broker : Broker) (executable : FilePath) (environment : Environment) (request : Request)
    (conduct : Conduct) : Attempt :=
  match conduct.launch with
  | .error error =>
      .unlaunched request.mode request.encode
        (.launch (Launch.plan broker.config executable environment request.mode).program error)
  | .ok () => ((launched request.mode request.encode).follow broker conduct.ticks).dismiss conduct.cleanup

/-- Two attempts are alike in all that anybody but the helper learns of them. -/
structure Alike (first second : Attempt) : Prop where
  lifecycle : first.lifecycle = second.lifecycle
  ending : first.ending? = second.ending?
  log : first.log = second.log
  child : first.child = second.child
  call : first.call?.map Call.blind = second.call?.map Call.blind

theorem Alike.of_blind {first second : Attempt} (same : first.blind = second.blind) : Alike first second where
  lifecycle := show first.blind.lifecycle = second.blind.lifecycle by rw [same]
  ending := show first.blind.ending? = second.blind.ending? by rw [same]
  log := show first.blind.log = second.blind.log by rw [same]
  child := show first.blind.child = second.blind.child by rw [same]
  call := by rw [← call?_blind, ← call?_blind, same]

theorem undergo_blind {executable : FilePath} {environment : Environment} {first second : Request}
    (sameMode : first.mode = second.mode) (size : first.encode.length = second.encode.length) (conduct : Conduct) :
    (undergo broker executable environment first conduct).blind =
      (undergo broker executable environment second conduct).blind := by
  have frames := Frame.Outgoing.start_blind size
  unfold undergo
  rw [sameMode]
  split
  · cases second.mode <;> exact congrArg (fun outgoing => Attempt.mk _ _ _ outgoing _ _) frames
  · have begun : (launched second.mode first.encode).blind = (launched second.mode second.encode).blind :=
      congrArg (fun outgoing => Attempt.mk _ _ _ outgoing _ _) frames
    rw [← dismiss_blind, ← dismiss_blind, ← follow_blind, ← follow_blind, begun]

end Attempt

namespace Request

/-- A request with another secret. -/
def withSecret (request : Request) (secret : Secret) : Request :=
  match request with
  | .run username _ arguments environment => .run username secret arguments environment
  | .probe username _ => .probe username secret

theorem mode_withSecret (request : Request) (secret : Secret) : (request.withSecret secret).mode = request.mode := by
  cases request <;> rfl

theorem length_encode_withSecret {request : Request} {secret : Secret}
    (size : (Json.Value.string secret.exposed).octets.length =
      (Json.Value.string request.secret.exposed).octets.length) :
    (request.withSecret secret).encode.length = request.encode.length := by
  rw [encode_eq, encode_eq]
  cases request <;>
  · simp only [withSecret, document, Json.Value.octets, Json.Value.pieces, Json.memberPieces, List.flatten_cons,
      List.flatten_append, List.length_append, Request.secret] at size ⊢
    omega

end Request

/-- The secret of a request shows neither in its debug form nor in that of its credentials.  Whatever the
system does and whenever, attempts at two requests that differ in their secrets alone, and not in the sizes
of these on the wire, come to the same end with the same log. -/
theorem Attempt.secret_unobservable (broker : Broker) (executable : FilePath) (environment : Environment)
    (request : Request) (secret : Secret) :
    (request.withSecret secret).debug = request.debug ∧
    (request.withSecret secret).credentials.debug = request.credentials.debug ∧
    ((Json.Value.string secret.exposed).octets.length =
        (Json.Value.string request.secret.exposed).octets.length →
      ∀ conduct, Alike (undergo broker executable environment (request.withSecret secret) conduct)
        (undergo broker executable environment request conduct)) := by
  refine ⟨?_, ?_, fun size conduct => ?_⟩
  -- a debug form does not look at the secret
  · cases request <;> rfl
  · cases request <;> rfl
  · exact .of_blind (undergo_blind (request.mode_withSecret secret) (Request.length_encode_withSecret size) conduct)

/-- The helper gets two different requests, fails and does not tell which it got. -/
theorem Attempt.secret_unobservable_quote :
    let broker := Broker.english .standard
    let executable := FilePath.ofString "/opt/broker"
    let request := Request.probe "alice" ⟨"ab"⟩
    let quote := request.withSecret ⟨"\""⟩
    let conduct : Conduct := ⟨.ok (), [⟨false, .wrote 4, false⟩, ⟨false, .wrote 7, false⟩,
      ⟨false, .wrote 47, false⟩, ⟨false, .exited (.ofCode 200), false⟩], ⟨.ok none, .ok (), .ok (), none⟩⟩
    (Json.Value.string "\"").octets.length = (Json.Value.string "ab").octets.length ∧ quote.encode ≠ request.encode ∧
      (undergo broker executable .empty request conduct).ending? = some (.failed (.helperExit (some 200)
        (broker.codes.describeCode 200))) ∧
      Alike (undergo broker executable .empty quote conduct) (undergo broker executable .empty request conduct) := by
  intro broker executable request quote conduct
  have size : (Json.Value.string "\"").octets.length = (Json.Value.string "ab").octets.length := by decide +kernel
  refine ⟨size, by decide +kernel, by decide +kernel, ?_⟩
  exact (secret_unobservable broker executable .empty request ⟨"\""⟩).2.2 size conduct

end AuthBroker
