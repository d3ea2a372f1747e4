import LinkGate.Json
import LinkGate.Path

/-!
# Documents

The documents whose links are checked are listed one by one; they are not looked for.
-/

namespace LinkGate

structure Document where
  /-- From the root of the repository. -/
  path : Path
  /-- Whether links may be relative. If not, every target has to be a full address. -/
  allowLocal : Bool
deriving DecidableEq, Repr

/-- The documents that are checked when no list is given. The last one is shown outside of the
repository, where nothing relative can be found. -/
def Document.standard : List Document :=
  [⟨⟨"README.md"⟩, true⟩, ⟨⟨"ARCHITECTURE.md"⟩, true⟩, ⟨⟨"RELEASE_NOTES.md"⟩, true⟩,
    ⟨⟨"samples/hello_world/README.md"⟩, true⟩, ⟨⟨"samples/pet/README.md"⟩, true⟩,
    ⟨⟨"pypi_README.md"⟩, false⟩]

end LinkGate
