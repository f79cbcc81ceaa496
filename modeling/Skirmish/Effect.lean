import Skirmish.Rules
import Skirmish.Trace

/-!
# Effects

An effect leads from a world to an outcome under given rules. Effects follow one another; the order
of a sequence is the order in which its effects happen.
-/

namespace Skirmish

/-- A change of the world together with what is recorded about it. -/
abbrev Effect := Rules → World → Outcome

namespace Effect

def identity : Effect := fun _ w => ⟨w, []⟩

def andThen (e next : Effect) : Effect := fun rules w => (e rules w).andThen (next rules)

def sequence (effects : List Effect) : Effect := fun rules w =>
  Outcome.fold (fun e w => e rules w) effects w

end Effect

end Skirmish
