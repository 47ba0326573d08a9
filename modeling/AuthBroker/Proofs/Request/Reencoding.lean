import AuthBroker.Proofs.Request.Acceptance

namespace AuthBroker.Request

/-! Requests that were read are written in one way.

An entry that is read has a name in front of its first equals sign, so every name of the environment that is
read can be told from the text of its entry.  A request with such names is read back from its own payload.
-/

/-- The payload that the request of a payload has when it is written again. -/
def reencode (payload : List UInt8) : Except ProtocolFailure (List UInt8) :=
  (decode payload).map encode

variable {payload : List UInt8} {environment found : Environment} {entries : List String} {request : Request}

/-- A setting that is put into an environment takes the place of one of its name, or comes to the others. -/
theorem named_insert {entry name value : String} (sets : Sets entry (name, value))
    (before : ∀ entry ∈ environment.entries, entry.1 ≠ "" ∧ '=' ∉ entry.1.toList) :
    ∀ entry ∈ (environment.insert name value).entries, entry.1 ≠ "" ∧ '=' ∉ entry.1.toList := by
  intro entry member
  rcases Environment.mem_place member with rfl | earlier
  · exact ⟨sets.2, sets.1.2⟩
  · exact before entry earlier

/-- Each entry is put into the environment of those before it. -/
theorem named_of_parseEntries (parsed : parseEntries environment entries = .ok found)
    (before : ∀ entry ∈ environment.entries, entry.1 ≠ "" ∧ '=' ∉ entry.1.toList) :
    ∀ entry ∈ found.entries, entry.1 ≠ "" ∧ '=' ∉ entry.1.toList := by
  induction entries generalizing environment with
  | nil =>
      cases parsed
      exact before
  | cons entry entries ih =>
      rw [parseEntries] at parsed
      split at parsed
      · contradiction
      · rename_i name value one
        exact ih parsed (named_insert (parseEntry_eq_ok_iff.mp one) before)

theorem named_of_ofWire {wire : Wire} (accepted : ofWire wire = .ok request) : request.Named := by
  rw [ofWire] at accepted
  split_ifs at accepted with isProbe isRun
  · cases accepted
    trivial
  · split at accepted
    · contradiction
    · contradiction
    · split at accepted
      · contradiction
      · rename_i parsed
        cases accepted
        apply named_of_parseEntries parsed
        simp [Environment.empty]

theorem exists_wire (accepted : decode payload = .ok request) : ∃ wire, ofWire wire = .ok request := by
  rw [decode] at accepted
  split at accepted
  · contradiction
  · exact ⟨_, accepted⟩

/-- A request that was read, from whatever payload, is read again from its own payload.  So writing it once more
changes nothing. -/
theorem reencode_stable (payload : List UInt8) (request : Request) (accepted : decode payload = .ok request) :
    request.Named ∧
    decode request.encode = .ok request ∧
    reencode payload = .ok request.encode ∧
    reencode request.encode = .ok request.encode := by
  obtain ⟨wire, denoted⟩ := exists_wire accepted
  have named : request.Named := named_of_ofWire denoted
  have again : decode request.encode = .ok request := decode_named named
  refine ⟨named, again, ?_, ?_⟩
  · rw [reencode, accepted]
    rfl
  · rw [reencode, again]
    rfl

/-- A session with its members in another order, a setting given twice and equals signs in a value. -/
def scrambledSession : List UInt8 :=
  Text.Utf8.bytes ("\x7b \"environment\": [\"B=x=y\", \"A=1\", \"A=\"], \"arguments\": [], \"password\": \"\\u0070w\", " ++
    "\"name\": \"AuthAndRun\", \"username\": \"bob\" \x7d")

theorem reencode_stable_scrambled : ∃ environment request, environment.entries = [("A", ""), ("B", "x=y")] ∧
    request = .run "bob" ⟨"pw"⟩ [] environment ∧ decode scrambledSession = .ok request ∧
      decode request.encode = .ok request ∧ reencode request.encode = .ok request.encode := by
  have accepted : decode scrambledSession = .ok (.run "bob" ⟨"pw"⟩ [] (.ofList [("A", ""), ("B", "x=y")])) := by
    decide +kernel
  obtain ⟨-, again, -, stable⟩ := reencode_stable _ _ accepted
  exact ⟨_, _, by decide +kernel, rfl, accepted, again, stable⟩

end AuthBroker.Request
