import GpuVirtmem.Lib.Run

/-!
# Machines that look private

Several users work on one machine. Each step is seen by at most one of them. If there is a state for
each user such that a step of the machine is a step of the user who sees it, and nothing to the
others, then what a user sees in a run of the machine is what a run of a machine of its own shows.

The relation `R` is between a state of the shared machine and the family of the private ones. It is
asked only that single steps keep it: that they do is where one shows that users do not get at each
other's part of the machine.
-/

namespace GpuVirtmem.Lib

variable {σ τ ε ι ω : Type*}

variable {step : σ → ε → σ → Prop} {alone : τ → ω → τ → Prop} {own : ι → ε → Option ω}
  {R : σ → (ι → τ) → Prop}

end GpuVirtmem.Lib
