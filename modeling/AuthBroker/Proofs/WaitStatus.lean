import AuthBroker.ExitCodes
import Mathlib.Logic.ExistsUnique

namespace AuthBroker

/-! The bits of a status word.

The low seven bits tell what became of a process.  None of them is set for an exit, whose code is the
second octet; all of them are set in a word that tells of no end; and any other number is the signal
that the process died of.
-/

/-- What a status word can tell of a process. -/
inductive WaitStatus.Fate
  | exit
  | death
  /-- The process was stopped or went on, or nothing known became of it. -/
  | other
deriving DecidableEq, Repr

def WaitStatus.Kind.fate : Kind → Fate
  | .exited _ => .exit
  | .signaled _ => .death
  | .stopped _ => .other
  | .continued => .other
  | .unrecognised => .other

namespace WaitStatus

variable {status : WaitStatus} {codes : ExitCodes}

def lowBits (status : WaitStatus) : UInt32 :=
  status.raw &&& 0x7F

def secondOctet (status : WaitStatus) : UInt32 :=
  (status.raw >>> 8) &&& 0xFF

/-- The low bits of a word tell a fate. -/
inductive Tells (status : WaitStatus) : Fate → Prop
  | exit (unset : status.lowBits = 0) : Tells status .exit
  | death (notUnset : status.lowBits ≠ 0) (notFull : status.lowBits ≠ 0x7F) : Tells status .death
  | other (full : status.lowBits = 0x7F) : Tells status .other

theorem existsUnique_tells (status : WaitStatus) : ∃! fate, status.Tells fate := by
  by_cases unset : status.lowBits = 0
  · refine ⟨.exit, .exit unset, fun fate tells => ?_⟩
    cases tells with
    | exit _ => rfl
    | death notUnset _ => contradiction
    | other full =>
        rw [unset] at full
        contradiction
  · by_cases full : status.lowBits = 0x7F
    · refine ⟨.other, .other full, fun fate tells => ?_⟩
      cases tells with
      | exit _ => contradiction
      | death _ notFull => contradiction
      | other _ => rfl
    · refine ⟨.death, .death unset full, fun fate tells => ?_⟩
      cases tells with
      | exit _ => contradiction
      | death _ _ => rfl
      | other _ => contradiction

/-! ### The numbers in a word -/

theorem toNat_lowBits (status : WaitStatus) : status.lowBits.toNat = status.low := by
  rw [lowBits, UInt32.toNat_and]
  exact Nat.and_two_pow_sub_one_eq_mod status.raw.toNat 7

theorem toNat_secondOctet (status : WaitStatus) : status.secondOctet.toNat = status.high := by
  rw [secondOctet, UInt32.toNat_and, UInt32.toNat_shiftRight]
  exact (Nat.and_two_pow_sub_one_eq_mod _ 8).trans (congrArg (· % 256) (Nat.shiftRight_eq_div_pow _ 8))

/-- The mark of a core dump is not among the low bits. -/
theorem lowBits_dumped (status : WaitStatus) : lowBits ⟨status.raw ||| 0x80⟩ = status.lowBits := by
  refine UInt32.toNat_inj.mp ?_
  rw [lowBits, lowBits, UInt32.toNat_and, UInt32.toNat_and, UInt32.toNat_or, Nat.and_or_distrib_right]
  exact Nat.or_zero _

theorem low_eq_zero_iff : status.low = 0 ↔ status.lowBits = 0 := by
  rw [← toNat_lowBits]
  exact UInt32.toNat_inj (b := 0)

theorem low_eq_full_iff : status.low = 127 ↔ status.lowBits = 0x7F := by
  rw [← toNat_lowBits]
  exact UInt32.toNat_inj (b := 0x7F)

/-! ### Kinds and diagnoses -/

theorem kind_of_exit (tells : status.Tells .exit) : status.kind = .exited status.secondOctet.toNat := by
  cases tells with
  | exit unset => rw [kind, if_pos (low_eq_zero_iff.mpr unset), toNat_secondOctet]

theorem kind_of_death (tells : status.Tells .death) : status.kind = .signaled status.lowBits.toNat := by
  cases tells with
  | death notUnset notFull =>
      rw [kind, if_neg (mt low_eq_zero_iff.mp notUnset), if_pos (mt low_eq_full_iff.mp notFull), toNat_lowBits]

theorem kind_of_other (tells : status.Tells .other) :
    (∀ code, status.kind ≠ .exited code) ∧ ∀ signal, status.kind ≠ .signaled signal := by
  cases tells with
  | other full =>
      have low := low_eq_full_iff.mpr full
      rw [kind, low, if_neg (by decide), if_neg (by decide)]
      split
      · simp
      · split <;> simp

/-- The kind of a word is of the fate that its low bits tell. -/
theorem tells_fate_kind (status : WaitStatus) : status.Tells status.kind.fate := by
  obtain ⟨fate, tells, -⟩ := existsUnique_tells status
  cases fate with
  | exit => rwa [kind_of_exit tells]
  | death => rwa [kind_of_death tells]
  | other =>
      obtain ⟨notExited, notKilled⟩ := kind_of_other tells
      cases same : status.kind with
      | exited code => exact absurd same (notExited code)
      | signaled signal => exact absurd same (notKilled signal)
      | stopped _ => exact tells
      | continued => exact tells
      | unrecognised => exact tells

theorem kind_eq_exited_iff {code : Nat} :
    status.kind = .exited code ↔ status.Tells .exit ∧ status.secondOctet.toNat = code := by
  constructor
  · intro exited
    obtain ⟨fate, tells, -⟩ := existsUnique_tells status
    cases fate with
    | exit =>
        rw [kind_of_exit tells, Kind.exited.injEq] at exited
        exact ⟨tells, exited⟩
    | death =>
        rw [kind_of_death tells] at exited
        contradiction
    | other => exact absurd exited ((kind_of_other tells).1 code)
  · intro both
    obtain ⟨tells, rfl⟩ := both
    exact kind_of_exit tells

theorem code?_of_exit (tells : status.Tells .exit) : status.code? = some status.secondOctet.toNat := by
  rw [code?, kind_of_exit tells]

theorem code?_eq_none_iff : status.code? = none ↔ ¬ status.Tells .exit := by
  constructor
  · intro missing tells
    rw [code?_of_exit tells] at missing
    contradiction
  · intro otherwise
    obtain ⟨fate, tells, -⟩ := existsUnique_tells status
    cases fate with
    | exit => contradiction
    | death => rw [code?, kind_of_death tells]
    | other =>
        rw [code?]
        split
        · rename_i code exited
          exact absurd exited ((kind_of_other tells).1 code)
        · rfl

/-- A signal has a number above zero and below the full seven bits. -/
theorem bounds_of_death (tells : status.Tells .death) :
    1 ≤ status.lowBits.toNat ∧ status.lowBits.toNat ≤ 126 := by
  cases tells with
  | death notUnset notFull =>
      have notZero := mt low_eq_zero_iff.mp notUnset
      have notLast := mt low_eq_full_iff.mp notFull
      have below : status.low < 128 := Nat.mod_lt _ (by decide)
      rw [toNat_lowBits]
      omega

theorem describe_of_exit (codes : ExitCodes) (tells : status.Tells .exit) :
    codes.describe status =
      (codes.lookup status.secondOctet.toNat).getD (Decimal.text status.secondOctet.toNat) := by
  rw [ExitCodes.describe, kind_of_exit tells]
  rfl

theorem describe_of_death (codes : ExitCodes) (tells : status.Tells .death) :
    codes.describe status = "terminated by signal " ++ Decimal.text status.lowBits.toNat := by
  rw [ExitCodes.describe, kind_of_death tells]

theorem describe_of_other (codes : ExitCodes) (tells : status.Tells .other) :
    codes.describe status = status.text := by
  rw [ExitCodes.describe]
  split
  · rename_i code exited
    exact absurd exited ((kind_of_other tells).1 code)
  · rename_i signal killed
    exact absurd killed ((kind_of_other tells).2 signal)
  · rfl

/-- Words that differ in the mark of a core dump alone tell the same death. -/
theorem tells_death_of_dumped {dumped : WaitStatus} (same : dumped.raw ||| 0x80 = status.raw ||| 0x80)
    (tells : status.Tells .death) : dumped.Tells .death ∧ dumped.lowBits = status.lowBits := by
  have low : dumped.lowBits = status.lowBits := by
    rw [← lowBits_dumped, ← lowBits_dumped status, same]
  cases tells with
  | death notUnset notFull => exact ⟨.death (low ▸ notUnset) (low ▸ notFull), low⟩

end WaitStatus

end AuthBroker
