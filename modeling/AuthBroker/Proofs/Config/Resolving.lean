import AuthBroker.Config.Basic
import AuthBroker.Proofs.Text.Utf8

namespace AuthBroker.Config

/-! Resolving settings.

The path is looked at first and then the name; what is left out has its standard value, each field for itself.
-/

variable {settings : Settings} {config : Config} {text name : String} {path : FilePath}

theorem isAbsolute_ofString_iff : (FilePath.ofString text).isAbsolute = true ↔ text.toList.head? = some '/' := by
  rw [FilePath.isAbsolute, beq_iff_eq, FilePath.ofString, Text.Utf8.bytes]
  generalize text.toList = chars
  constructor
  · intro absolute
    cases chars with
    | nil => contradiction
    | cons char chars =>
        rw [Text.Utf8.encode_cons, List.head?_append_of_ne_nil _ (Text.Utf8.encodeChar_ne_nil char)] at absolute
        rcases (Text.Utf8.form_of_char char).low_or_high (List.mem_of_mem_head? absolute) with low | high
        · have same : char = '/' := Char.ext (UInt32.toNat_inj.mp low.symm)
          rw [same]
          rfl
        · exact absurd high (by decide)
  · intro slashed
    cases chars with
    | nil => contradiction
    | cons char chars =>
        rw [Option.some.inj slashed]
        rfl

theorem isBareName_iff : isBareName name = true ↔ name.toList ≠ [] ∧ '/' ∉ name.toList := by
  simp [isBareName]

/-- A field of a configuration has what the settings have for it, or the standard value. -/
def Fills (settings : Settings) (config : Config) : Field → Prop
  | .helperPath => config.helperPath = settings.helperPath
  | .helperName => config.helperName = settings.helperName.getD standard.helperName
  | .probeTimeout => config.probeTimeout = settings.probeTimeout.getD standard.probeTimeout
  | .replyReadTimeout => config.replyReadTimeout = settings.replyReadTimeout.getD standard.replyReadTimeout
  | .requestWriteTimeout => config.requestWriteTimeout = settings.requestWriteTimeout.getD standard.requestWriteTimeout
  | .forwardEnv => config.forwardEnv = settings.forwardEnv.getD standard.forwardEnv

theorem checkPath_of_absolute (absolute : ∀ path, settings.helperPath = some path → path.isAbsolute = true) :
    settings.checkPath = .ok settings.helperPath := by
  rw [Settings.checkPath]
  split
  · rename_i path given
    rw [if_pos (absolute path given), given]
  · rename_i missing
    rw [missing]

theorem resolve_of_relative (given : settings.helperPath = some path) (relative : ¬ path.isAbsolute = true) :
    settings.resolve = .error (.relativePath path) := by
  have failed : settings.checkPath = .error (.relativePath path) := by
    rw [Settings.checkPath, given]
    exact if_neg relative
  rw [Settings.resolve, failed]

theorem resolve_of_badName (absolute : ∀ path, settings.helperPath = some path → path.isAbsolute = true)
    (given : settings.helperName = some name) (bad : ¬ isBareName name = true) :
    settings.resolve = .error (.badName name) := by
  have failed : settings.checkName = .error (.badName name) := by
    rw [Settings.checkName, given]
    exact if_neg bad
  rw [Settings.resolve, checkPath_of_absolute absolute, failed]

theorem resolve_of_bare (absolute : ∀ path, settings.helperPath = some path → path.isAbsolute = true)
    (bare : ∀ name, settings.helperName = some name → isBareName name = true) :
    ∃ config, settings.resolve = .ok config ∧ ∀ field, Fills settings config field := by
  have checked : settings.checkName = .ok (settings.helperName.getD standard.helperName) := by
    rw [Settings.checkName]
    split
    · rename_i name given
      rw [if_pos (bare name given), given]
      rfl
    · rename_i missing
      rw [missing]
      rfl
  rw [Settings.resolve, checkPath_of_absolute absolute, checked]
  refine ⟨_, rfl, ?_⟩
  intro field
  cases field <;> rfl

/-- What is resolved has passed both checks. -/
theorem checked_of_resolve (resolved : settings.resolve = .ok config) :
    (∀ path, settings.helperPath = some path → path.isAbsolute = true) ∧
    (∀ name, settings.helperName = some name → isBareName name = true) ∧ ∀ field, Fills settings config field := by
  have absolute : ∀ path, settings.helperPath = some path → path.isAbsolute = true := by
    intro path given
    by_contra relative
    rw [resolve_of_relative given relative] at resolved
    contradiction
  have bare : ∀ name, settings.helperName = some name → isBareName name = true := by
    intro name given
    by_contra bad
    rw [resolve_of_badName absolute given bad] at resolved
    contradiction
  obtain ⟨found, resolved', fills⟩ := resolve_of_bare absolute bare
  rw [resolved, Except.ok.injEq] at resolved'
  exact ⟨absolute, bare, resolved' ▸ fills⟩

theorem eq_of_fills {other : Config} (fills : ∀ field, Fills settings config field)
    (fills' : ∀ field, Fills settings other field) : config = other := by
  have helperPath := (fills .helperPath).trans (fills' .helperPath).symm
  have helperName := (fills .helperName).trans (fills' .helperName).symm
  have probeTimeout := (fills .probeTimeout).trans (fills' .probeTimeout).symm
  have replyReadTimeout := (fills .replyReadTimeout).trans (fills' .replyReadTimeout).symm
  have requestWriteTimeout := (fills .requestWriteTimeout).trans (fills' .requestWriteTimeout).symm
  have forwardEnv := (fills .forwardEnv).trans (fills' .forwardEnv).symm
  obtain ⟨_, _, _, _, _, _⟩ := config
  obtain ⟨_, _, _, _, _, _⟩ := other
  dsimp only at *
  rw [helperPath, helperName, probeTimeout, replyReadTimeout, requestWriteTimeout, forwardEnv]

end AuthBroker.Config
