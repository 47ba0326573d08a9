import AuthBroker.Launch
import AuthBroker.Proofs.Config.Resolving
import AuthBroker.Proofs.FilePath

namespace AuthBroker.Launch

open AuthBroker.FilePath

/-! The place of the helper.

A configured path is taken as it is.  Without one, the helper goes by a bare name and is an entry of
the directory that the running broker is in, unless its name is one of the two by which a directory
leads to itself and back.
-/

variable {settings : Settings} {config : Config} {executable : FilePath} {name : String}

theorem slash_not_mem_ofString (clean : '/' ∉ name.toList) : slash ∉ (FilePath.ofString name).octets := by
  intro member
  rw [FilePath.ofString, Text.Utf8.bytes, Text.Utf8.encode, List.mem_flatMap] at member
  obtain ⟨char, within, among⟩ := member
  rcases (Text.Utf8.form_of_char char).low_or_high among with low | high
  · have same : char = '/' := Char.ext (UInt32.toNat_inj.mp low.symm)
    exact clean (same ▸ within)
  · exact absurd high (by decide)

theorem octets_ofString_inj (name other : String) :
    (FilePath.ofString name).octets = (FilePath.ofString other).octets ↔ name = other :=
  Text.Utf8.bytes_injective.eq_iff

theorem steps_ofString (bare : Config.isBareName name = true) :
    (FilePath.ofString name).steps = if name = "." then [] else [(FilePath.ofString name).octets] := by
  obtain ⟨notEmpty, clean⟩ := Config.isBareName_iff.mp bare
  have filled : (FilePath.ofString name).octets ≠ [] := by
    intro empty
    have same : name = "" := (octets_ofString_inj name "").mp empty
    exact notEmpty (same ▸ rfl)
  have idle : isIdle (FilePath.ofString name).octets = true ↔ name = "." := by
    rw [isIdle, Bool.or_eq_true, List.isEmpty_iff, beq_iff_eq, or_iff_right filled]
    exact octets_ofString_inj name "."
  rw [show FilePath.ofString name = ⟨(FilePath.ofString name).octets⟩ from rfl,
    steps_of_clean (slash_not_mem_ofString clean)]
  simp only [idle]

/-- A bare name below a directory: an entry of it, but for the two names that lead elsewhere. -/
theorem place_join_bare (base : FilePath) (bare : Config.isBareName name = true) :
    (base.join (.ofString name)).place =
      if name = "." then base.place
      else if name = ".." then base.place.dropLast
      else base.place ++ [(FilePath.ofString name).octets] := by
  obtain ⟨-, clean⟩ := Config.isBareName_iff.mp bare
  have relative : (FilePath.ofString name).isAbsolute = false := by
    rw [← Bool.not_eq_true, Config.isAbsolute_ofString_iff]
    exact fun slashed => clean (List.mem_of_mem_head? slashed)
  have joined := steps_join base relative
  rw [steps_ofString bare] at joined
  split
  · rename_i idle
    rw [if_pos idle, List.append_nil] at joined
    rw [place, place, joined]
  · rename_i leads
    rw [if_neg leads] at joined
    have goesBack : (FilePath.ofString name).octets = back ↔ name = ".." := octets_ofString_inj name ".."
    rw [place_of_steps_append joined, enter]
    simp only [goesBack]

theorem place_join_bare_eq_iff (base : FilePath) (bare : Config.isBareName name = true) :
    (base.join (.ofString name)).place = base.place ++ [(FilePath.ofString name).octets] ↔
      name ≠ "." ∧ name ≠ ".." := by
  have outside {place : List (List UInt8)} (short : place.length ≤ base.place.length) :
      place ≠ base.place ++ [(FilePath.ofString name).octets] := by
    intro same
    rw [same, List.length_append, List.length_singleton] at short
    omega
  rw [place_join_bare base bare]
  by_cases single : name = "."
  · rw [if_pos single]
    exact iff_of_false (outside (Nat.le_refl _)) fun both => both.1 single
  · rw [if_neg single]
    by_cases double : name = ".."
    · rw [if_pos double]
      refine iff_of_false (outside ?_) fun both => both.2 double
      rw [List.length_dropLast]
      exact Nat.sub_le _ _
    · rw [if_neg double]
      exact iff_of_true rfl ⟨single, double⟩

/-- Where the helper of accepted settings is looked for, from whatever absolute path the broker runs.  The path
is absolute, and a configured one is kept.  Without one it names an entry of the broker's own directory, unless the
name is one or two dots: these are accepted too, and lead to the directory itself and to the one before it. -/
theorem beside_broker_iff (resolved : settings.resolve = .ok config) (absolute : executable.isAbsolute = true) :
    let path := helperPath config executable
    let name := settings.helperName.getD Config.standard.helperName
    path.isAbsolute = true ∧
    (∀ given, settings.helperPath = some given → path = given) ∧
    (settings.helperPath = none →
      (path.place = executable.directory.place ++ [(FilePath.ofString name).octets] ↔ name ≠ "." ∧ name ≠ "..") ∧
      (name = "." → path.place = executable.directory.place) ∧
      (name = ".." → path.place = executable.directory.place.dropLast)) ∧
    (executable.steps.getLast? ≠ some back → executable.directory.place = executable.place.dropLast) := by
  intro path name
  obtain ⟨pathChecked, nameChecked, fills⟩ := Config.checked_of_resolve resolved
  have configured : config.helperPath = settings.helperPath := fills .helperPath
  have named : config.helperName = name := fills .helperName
  have bare : Config.isBareName name = true := by
    cases given : settings.helperName with
    | none =>
        rw [show name = Config.standard.helperName by simp only [name, given, Option.getD_none]]
        decide
    | some chosen =>
        rw [show name = chosen by simp only [name, given, Option.getD_some]]
        exact nameChecked chosen given
  have kept : ∀ given, settings.helperPath = some given → path = given := by
    intro given chosen
    simp only [path, helperPath, configured, chosen]
  have joined : settings.helperPath = none → path = executable.directory.join (.ofString name) := by
    intro missing
    simp only [path, helperPath, configured, missing, named]
    rfl
  refine ⟨?_, kept, fun missing => ?_, place_directory⟩
  · cases chosen : settings.helperPath with
    | none => exact joined chosen ▸ isAbsolute_join (isAbsolute_directory absolute)
    | some given => exact kept given chosen ▸ pathChecked given chosen
  · have placed := place_join_bare executable.directory bare
    rw [← joined missing] at placed
    refine ⟨?_, fun single => ?_, fun double => ?_⟩
    · rw [joined missing]
      exact place_join_bare_eq_iff executable.directory bare
    · rw [placed, if_pos single]
    · rw [placed, double]
      rfl

/-- A name is given, and the path of the broker has parts that lead nowhere. -/
theorem beside_broker_iff_named :
    let settings := { Settings.empty with helperName := some "..." }
    let executable := FilePath.ofString "/opt/./runas//broker"
    ∃ config, settings.resolve = .ok config ∧ executable.isAbsolute = true ∧
      (helperPath config executable).place = [Text.Utf8.bytes "opt", Text.Utf8.bytes "runas", Text.Utf8.bytes "..."] := by
  intro settings executable
  let config : Config := { Config.standard with helperName := "..." }
  have resolved : settings.resolve = .ok config := by rfl
  have absolute : executable.isAbsolute = true := by decide +kernel
  have beside := ((beside_broker_iff resolved absolute).2.2.1 rfl).1.mpr ⟨by decide, by decide⟩
  refine ⟨config, resolved, absolute, beside.trans ?_⟩
  decide +kernel

/-- A name of two dots is accepted, and leads out of the directory of the broker. -/
theorem two_dots_lead_out :
    let settings := { Settings.empty with helperName := some ".." }
    let executable := FilePath.ofString "/opt/runas/broker"
    ∃ config, settings.resolve = .ok config ∧
      (helperPath config executable).place = [Text.Utf8.bytes "opt"] ∧
      executable.directory.place = [Text.Utf8.bytes "opt", Text.Utf8.bytes "runas"] ∧
      (helperPath config executable).place ≠ executable.directory.place ++ [Text.Utf8.bytes ".."] :=
  ⟨{ Config.standard with helperName := ".." }, rfl, by decide +kernel, by decide +kernel, by decide +kernel⟩

end AuthBroker.Launch
