import AuthBroker.Proofs.Attempt.Cleanup
import AuthBroker.Proofs.Attempt.ProbeVerdict
import AuthBroker.Proofs.WaitStatus

namespace AuthBroker.Attempt

/-! What the status of the helper decides.

A probe goes on to read a reply after an exit with code zero and after nothing else.  Any other status
is its failure, which has the diagnosis of the status, and has a code if the helper exited by itself.
-/

variable {broker : Broker} {payload : List UInt8} {attempt : Attempt} {tick : Tick} {status : WaitStatus}

theorem step_exited (broker : Broker) (calm : tick.cancelled = false) (stage : attempt.stage = .waiting)
    (answer : tick.answer = .exited status) :
    attempt.step broker tick = (attempt.await (.ok status)).helperExited broker.codes status := by
  rw [step_of_waiting calm stage, stepWaiting]
  simp only [answer]

theorem code_zero_iff :
    status.code?.map Int.ofNat = some exitOk ↔ status.Tells .exit ∧ status.secondOctet = 0 := by
  rw [code_eq_zero_iff, WaitStatus.kind_eq_exited_iff]
  exact and_congr_right fun _ => UInt32.toNat_inj (b := 0)

theorem stage_helperExited_iff (codes : ExitCodes) (attempt : Attempt) :
    (attempt.helperExited codes status).stage = .reading .start ↔
      status.Tells .exit ∧ status.secondOctet = 0 := by
  rw [← code_zero_iff, helperExited]
  split
  · rename_i zero
    exact iff_of_true rfl zero
  · rename_i other
    exact iff_of_false (by simp [fail, finish]) other

theorem ending?_helperExited (codes : ExitCodes) (attempt : Attempt)
    (unclean : ¬(status.Tells .exit ∧ status.secondOctet = 0)) :
    (attempt.helperExited codes status).ending? =
      some (.failed (.helperExit (status.code?.map Int.ofNat) (codes.describe status))) := by
  rw [helperExited, if_neg (mt code_zero_iff.mp unclean)]
  rfl

/-- The probe has seen its helper exit with code zero if it reads. -/
def Invited (attempt : Attempt) : Prop :=
  ∀ incoming, attempt.stage = .reading incoming →
    ∃ status, attempt.child.observed = some status ∧ status.Tells .exit ∧ status.secondOctet = 0

theorem Invited.past (unread : ∀ incoming, attempt.stage ≠ .reading incoming) : Invited attempt :=
  fun incoming stage => absurd stage (unread incoming)

theorem invited_helperExited (codes : ExitCodes) (fresh : attempt.child = .started) :
    Invited ((attempt.await (.ok status)).helperExited codes status) := by
  have observed : (attempt.await (.ok status)).child.observed = some status := by
    rw [await, fresh]
    rfl
  intro incoming stage
  by_cases clean : status.Tells .exit ∧ status.secondOctet = 0
  · rw [child_helperExited]
    exact ⟨status, observed, clean⟩
  · have ended := ending?_helperExited codes (attempt.await (.ok status)) clean
    rw [ending?, stage] at ended
    contradiction

theorem Invited.step (invited : Invited attempt) (untouched : Untouched .probe attempt) (tick : Tick) :
    Invited (attempt.step broker tick) := by
  rcases step_cases broker attempt tick with ⟨-, -, stepped⟩ | ⟨-, goes⟩
  · rw [stepped]
    exact .past (by simp [fail, finish])
  · generalize attempt.step broker tick = next at goes
    cases goes with
    | sent _ _ =>
        refine .past fun incoming => ?_
        unfold Attempt.sent
        split <;> simp [finish]
    | writes stage _ _ => exact .past (by simp [transmitted, stage])
    | waits _ => exact invited
    | exited stage _ => exact invited_helperExited _ (untouched.underway (.inr stage))
    | reads stage _ => exact fun _ _ => invited _ stage
    | ended _ => exact invited
    | _ => exact .past (by simp [fail, finish, expire])

theorem invited_follow (broker : Broker) (payload : List UInt8) (ticks : List Tick) :
    Invited ((launched .probe payload).follow broker ticks) := by
  -- from the last step on, since what is known of the child before it is a fact about the whole run before it
  induction ticks using List.reverseRecOn with
  | nil => exact .past (by simp [follow, launched, start, advance, note])
  | append_singleton ticks tick ih =>
      rw [follow_append]
      exact ih.step (untouched_follow broker .probe payload ticks) tick

/-- What the status of a helper decides, whatever word it is.  It tells exactly one of an exit, a death by
signal and something else, and it is taken for that.  An exit is diagnosed by its code alone, from the table or by
its number; a death by its signal, dumped or not and with any table; anything else without the table.  A probe that
learns the status goes on to read a reply just after an exit with code zero.  Else it fails for good with the
diagnosis of the status, and with a code just if there was an exit.  No probe reads a reply that has not seen an
exit with code zero. -/
theorem fate_decides (broker : Broker) (payload : List UInt8) (status : WaitStatus) :
    (∃! fate, status.Tells fate) ∧ status.Tells status.kind.fate ∧
    (status.Tells .exit → ∀ codes : ExitCodes,
      codes.describe status =
        (codes.lookup status.secondOctet.toNat).getD (Decimal.text status.secondOctet.toNat) ∧
      ∀ other : WaitStatus, other.Tells .exit → other.secondOctet = status.secondOctet →
        codes.describe other = codes.describe status) ∧
    (status.Tells .death → 1 ≤ status.lowBits.toNat ∧ status.lowBits.toNat ≤ 126 ∧
      ∀ (codes : ExitCodes) (dumped : WaitStatus), dumped.raw ||| 0x80 = status.raw ||| 0x80 →
        codes.describe dumped = "terminated by signal " ++ Decimal.text status.lowBits.toNat) ∧
    (status.Tells .other → ∀ codes others : ExitCodes, codes.describe status = others.describe status) ∧
    (∀ earlier tick later, ((launched .probe payload).follow broker earlier).stage = .waiting →
      tick.cancelled = false → tick.answer = .exited status →
      ((((launched .probe payload).follow broker earlier).step broker tick).stage = .reading .start ↔
        status.Tells .exit ∧ status.secondOctet = 0) ∧
      (¬(status.Tells .exit ∧ status.secondOctet = 0) → ∃ code,
        ((launched .probe payload).follow broker (earlier ++ tick :: later)).ending? =
          some (.failed (.helperExit code (broker.codes.describe status))) ∧
        (code = none ↔ ¬status.Tells .exit) ∧
        (status.Tells .exit → code = some (status.secondOctet.toNat : Int)))) ∧
    ∀ ticks, Invited ((launched .probe payload).follow broker ticks) := by
  refine ⟨status.existsUnique_tells, status.tells_fate_kind, fun tells codes => ?_, fun tells => ?_,
    fun tells codes others => ?_, ?_, invited_follow broker payload⟩
  · have described := WaitStatus.describe_of_exit codes tells
    refine ⟨described, fun other otherTells same => ?_⟩
    rw [described, WaitStatus.describe_of_exit codes otherTells, same]
  · obtain ⟨lower, upper⟩ := WaitStatus.bounds_of_death tells
    refine ⟨lower, upper, fun codes dumped same => ?_⟩
    obtain ⟨dumpedTells, low⟩ := WaitStatus.tells_death_of_dumped same tells
    rw [WaitStatus.describe_of_death codes dumpedTells, low]
  · rw [WaitStatus.describe_of_other codes tells, WaitStatus.describe_of_other others tells]
  · intro earlier tick later stage calm answer
    have stepped := step_exited broker calm stage answer
    refine ⟨by rw [stepped]; exact stage_helperExited_iff _ _, fun unclean => ?_⟩
    have ended := ending?_helperExited broker.codes
      (((launched .probe payload).follow broker earlier).await (.ok status)) unclean
    refine ⟨status.code?.map Int.ofNat, ?_, ?_, fun tells => ?_⟩
    · rw [follow_append, follow_cons, stepped, follow_over ended, ended]
    · rw [Option.map_eq_none_iff, WaitStatus.code?_eq_none_iff]
    · rw [WaitStatus.code?_of_exit tells]
      rfl

/-- A helper is killed and leaves a core dump. -/
theorem fate_decides_dumped :
    let broker := Broker.english .standard
    let status : WaitStatus := ⟨0x89⟩
    let sent : List Tick := [⟨false, .wrote 4, false⟩, ⟨false, .wrote 1, false⟩]
    ((launched .probe [7]).follow broker sent).stage = .waiting ∧ status.Tells .death ∧
      ((launched .probe [7]).follow broker (sent ++ [⟨false, .exited status, false⟩])).ending? =
        some (.failed (.helperExit none "terminated by signal 9")) := by
  intro broker status sent
  have waiting : ((launched .probe [7]).follow broker sent).stage = .waiting := by rfl
  have killed : status.Tells .death := .death (by decide) (by decide)
  have unexited : ¬status.Tells .exit := by
    intro tells
    cases tells with
    | exit unset => exact absurd unset (by decide)
  obtain ⟨-, -, -, dies, -, waited, -⟩ := fate_decides broker [7] status
  obtain ⟨-, -, described⟩ := dies killed
  obtain ⟨-, fails⟩ := waited sent ⟨false, .exited status, false⟩ [] waiting rfl rfl
  obtain ⟨code, ended, uncoded, -⟩ := fails fun clean => unexited clean.1
  have text : "terminated by signal " ++ Decimal.text status.lowBits.toNat = "terminated by signal 9" := by
    decide +kernel
  rw [uncoded.mpr unexited, described broker.codes status rfl, text] at ended
  exact ⟨waiting, killed, ended⟩

end AuthBroker.Attempt
