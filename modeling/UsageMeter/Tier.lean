/-!
The tiers that CPU counters are read from, in the order in which they are
preferred, and the scope of the figures each gives.
-/
namespace UsageMeter

/-- What a CPU figure is about. -/
inductive Scope where
  /-- The container. -/
  | container
  /-- The whole host. -/
  | system
deriving DecidableEq, Repr

/-- The name of a scope. -/
def Scope.name : Scope → String
  | .container => "container"
  | .system => "system"

/-- Where CPU counters come from. -/
inductive Tier where
  /-- The unified control group tree. -/
  | cgroupV2
  /-- The older trees with one directory for each controller. -/
  | cgroupV1
  /-- The counters of the whole host. -/
  | procStat
deriving DecidableEq, Repr

namespace Tier

/-- The name of a tier. -/
def name : Tier → String
  | .cgroupV2 => "cgroup_v2"
  | .cgroupV1 => "cgroup_v1"
  | .procStat => "proc_stat"

/-- Every tier, the most preferred first. -/
def all : List Tier :=
  [.cgroupV2, .cgroupV1, .procStat]

/-- The tier of a name. -/
def ofName? (s : String) : Option Tier :=
  all.find? fun t => t.name == s

/-- The scope of a tier's figures. -/
def scope : Tier → Scope
  | .procStat => .system
  | _ => .container

/-- Whether a tier's figures are about the container. -/
def isContainer (t : Tier) : Bool :=
  t.scope == .container

@[simp] theorem ofName?_name (t : Tier) : ofName? t.name = some t := by
  cases t <;> decide

theorem mem_all (t : Tier) : t ∈ all := by
  cases t <;> decide

end Tier
end UsageMeter
