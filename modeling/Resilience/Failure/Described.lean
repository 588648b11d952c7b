/-!
# Values with a text for people
-/

namespace Resilience

/-- Values with a text for people, as it stands in logs and in answers. -/
class Described (α : Type) where
  describe : α → String

export Described (describe)

end Resilience
