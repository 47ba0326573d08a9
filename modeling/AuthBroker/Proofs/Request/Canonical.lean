import AuthBroker.Proofs.Request.Acceptance

namespace AuthBroker.Request

open AuthBroker.Text.Utf8 (Below below_iff)
open AuthBroker.Environment (Prevails)

/-! One payload for one request.

A payload lists the settings that prevail, in the order of the octets of their names, so it does not tell how an
environment came about.  Two requests with names that can be told never share a payload: it gives both back.
-/

/-- The entries of a session as they stand in its payload. -/
structure Listed (settings entries : List (String × String)) : Prop where
  ascending : entries.Pairwise fun entry later => Below entry.1 later.1
  prevailing : ∀ name value, (name, value) ∈ entries ↔ Prevails settings name value

theorem listed_ofList (settings : List (String × String)) : Listed settings (Environment.ofList settings).entries where
  ascending := by
    refine (Environment.ofList settings).ordered.imp fun below => ?_
    exact below_iff.mpr below
  prevailing name value := by
    rw [← Environment.get?_eq_some_iff, Environment.get?_ofList]

/-- The payload of a session is a record that lists the entries. -/
theorem document_encode (username : String) (secret : Secret) (arguments : List String) (environment : Environment) :
    Document (run username secret arguments environment).encode ⟨runName, username, secret.exposed, some arguments,
      some (environment.entries.map fun entry => entry.1 ++ "=" ++ entry.2)⟩ :=
  readWire_eq_ok_iff.mp (readWire_encode (run username secret arguments environment))

theorem encode_injective_of_named {request other : Request} (named : request.Named) (otherNamed : other.Named)
    (same : request.encode = other.encode) : request = other := by
  have read : decode request.encode = .ok request := decode_named named
  have otherRead : decode other.encode = .ok other := decode_named otherNamed
  rw [same, otherRead] at read
  exact (Except.ok.inj read).symm

/-- Settings that leave the same values make the same payload, which lists these values in the order of the octets
of their names; and requests with names that can be told have a payload of their own each. -/
theorem encode_canonical (first second : List (String × String))
    (same : ∀ name value, Prevails first name value ↔ Prevails second name value) :
    Listed first (Environment.ofList first).entries ∧
    (∀ username secret arguments,
      (run username secret arguments (.ofList first)).encode = (run username secret arguments (.ofList second)).encode ∧
      Document (run username secret arguments (.ofList first)).encode ⟨runName, username, secret.exposed, some arguments,
        some ((Environment.ofList first).entries.map fun entry => entry.1 ++ "=" ++ entry.2)⟩) ∧
    ∀ request other : Request, request.Named → other.Named → request.encode = other.encode → request = other := by
  refine ⟨listed_ofList first, fun username secret arguments => ⟨?_, ?_⟩, fun request other => encode_injective_of_named⟩
  · rw [Environment.ofList_congr same]
  · exact document_encode username secret arguments _

/-- A name comes before its extension, though the text of its entry comes after. -/
theorem encode_canonical_overridden :
    let first := [("A!", "x"), ("A", "1"), ("A", "2")]
    let second := [("A", "2"), ("A!", "x")]
    (run "bob" ⟨"pw"⟩ [] (.ofList first)).encode = (run "bob" ⟨"pw"⟩ [] (.ofList second)).encode ∧
      Document (run "bob" ⟨"pw"⟩ [] (.ofList first)).encode ⟨runName, "bob", "pw", some [], some ["A=2", "A!=x"]⟩ ∧
      Below "A!=x" "A=2" := by
  intro first second
  have entries : (Environment.ofList first).entries = [("A", "2"), ("A!", "x")] := by decide +kernel
  have alike : Environment.ofList first = .ofList second := by decide +kernel
  have same : ∀ name value, Prevails first name value ↔ Prevails second name value := by
    intro name value
    rw [← Environment.get?_ofList, ← Environment.get?_ofList, alike]
  obtain ⟨-, payload, -⟩ := encode_canonical first second same
  obtain ⟨equal, listed⟩ := payload "bob" ⟨"pw"⟩ []
  rw [entries] at listed
  exact ⟨equal, listed, below_iff.mpr (by decide +kernel)⟩

end AuthBroker.Request
