import ImportWeb.Proofs.Path.Location
import ImportWeb.Proofs.Path.Raw

/-!
Tidy paths: the root and then names, with one slash before each of them. This is what cleaning
makes of a path from the root, and for a text it says just that. Where one tidy path leads to
another through names, the second one has a key below the first.
-/

namespace ImportWeb

open Text

namespace RawPath

/-- Bytes that stand for a name in a path. -/
def IsName (bytes : List UInt8) : Prop :=
  slash ∉ bytes ∧ Path.component? dot bytes = some (.name bytes)

instance (bytes : List UInt8) : Decidable (IsName bytes) := inferInstanceAs (Decidable (_ ∧ _))

/-- Whether `p` lies strictly below `root`. -/
def IsBelow (root p : RawPath) : Prop :=
  root.components <+: p.components ∧ root.components ≠ p.components

instance (root p : RawPath) : Decidable (IsBelow root p) := inferInstanceAs (Decidable (_ ∧ _))

end RawPath

namespace Key

variable {P : Type} [FilePath P]

end Key

end ImportWeb
