import UsageMeter.Kernel.CpuTicks
import UsageMeter.Kernel.ProcessStat
import UsageMeter.Sample

/-!
# Sums of words

Words are added up one after the other. The result is their sum as naturals, and it is
there exactly if that sum has room in 64 bits: a sum on the way never has less room
than the last one.
-/

namespace UsageMeter
open UsageMeter.Kernel

/-- The sum of words as a natural. -/
def exactSum (ws : List UInt64) : Nat := ws.foldr (fun w n => w.toNat + n) 0

theorem exactSum_cons (w : UInt64) (ws : List UInt64) :
    exactSum (w :: ws) = w.toNat + exactSum ws := rfl

theorem toNat_le_maxWord64 (w : UInt64) : w.toNat ≤ maxWord64 := Nat.le_of_lt_succ w.toNat_lt

/-- A natural that has room is a word. -/
theorem exists_word {n : Nat} (room : n ≤ maxWord64) : ∃ w : UInt64, w.toNat = n :=
  ⟨saturate n, (toNat_saturate n).trans (Nat.min_eq_left room)⟩

theorem addWords_eq_ok_iff {a b sum : UInt64} :
    addWords a b = .ok sum ↔ sum.toNat = a.toNat + b.toNat := by
  have bound := toNat_le_maxWord64 sum
  unfold addWords
  split
  · rename_i room
    have exact : (a + b).toNat = a.toNat + b.toNat := by
      rw [UInt64.toNat_add]
      unfold maxWord64 at room
      omega
    rw [Except.ok.injEq, ← exact, UInt64.toNat_inj]
    exact eq_comm
  · exact iff_of_false nofun (by omega)

/-- What gives the word of a natural gives nothing exactly if there is none. -/
theorem eq_error_iff_of_eq_ok_iff {r : Except SumOverflow UInt64} {n : Nat}
    (gives : ∀ w, r = .ok w ↔ w.toNat = n) (o : SumOverflow) : r = .error o ↔ maxWord64 < n := by
  cases r with
  | ok w =>
      have bound := toNat_le_maxWord64 w
      have exact := (gives w).mp rfl
      exact iff_of_false nofun (by omega)
  | error _ =>
      refine iff_of_true rfl (Nat.lt_of_not_le fun room => ?_)
      obtain ⟨w, exact⟩ := exists_word room
      cases (gives w).mpr exact

theorem addWords_eq_error_iff {a b : UInt64} (o : SumOverflow) :
    addWords a b = .error o ↔ maxWord64 < a.toNat + b.toNat :=
  eq_error_iff_of_eq_ok_iff (fun _ => addWords_eq_ok_iff) o

theorem addAll_eq_ok_iff {a sum : UInt64} {ws : List UInt64} :
    addAll a ws = .ok sum ↔ sum.toNat = a.toNat + exactSum ws := by
  induction ws generalizing a with
  | nil =>
      rw [addAll, Except.ok.injEq, ← UInt64.toNat_inj]
      exact eq_comm
  | cons w ws ih =>
      rw [addAll, exactSum_cons, ← Nat.add_assoc]
      cases added : addWords a w with
      | ok b =>
          rw [← addWords_eq_ok_iff.mp added]
          exact ih
      | error o =>
          have excess := (addWords_eq_error_iff o).mp added
          have bound := toNat_le_maxWord64 sum
          exact iff_of_false nofun (by omega)

/-! ## Clock ticks -/

namespace Kernel

/-- The counters of the time that was worked. -/
def CpuTicks.worked (t : CpuTicks) : List UInt64 :=
  [t.user, t.nice, t.system, t.irq, t.softirq, t.steal]

/-- The counters of all the time, in the order in which they are added. -/
def CpuTicks.passed (t : CpuTicks) : List UInt64 := t.worked ++ [t.idle, t.iowait]

/-- The ticks of a process, in both modes together. -/
def ProcessStat.ticks (stat : ProcessStat) : Nat :=
  stat.userTicks.toNat + stat.systemTicks.toNat

namespace CpuTicks
variable {t : CpuTicks} {n : UInt64}

theorem exactSum_passed (t : CpuTicks) :
    exactSum t.passed = exactSum t.worked + t.idle.toNat + t.iowait.toNat := by
  simp only [passed, worked, List.cons_append, List.nil_append, exactSum, List.foldr_cons,
    List.foldr_nil]
  omega

theorem active_eq_ok_iff : t.active = .ok n ↔ n.toNat = exactSum t.worked := addAll_eq_ok_iff

theorem active_eq_error_iff (o : SumOverflow) :
    t.active = .error o ↔ maxWord64 < exactSum t.worked :=
  eq_error_iff_of_eq_ok_iff (fun _ => active_eq_ok_iff) o

theorem total_eq_ok_iff : t.total = .ok n ↔ n.toNat = exactSum t.passed := by
  have bound := toNat_le_maxWord64 n
  rw [exactSum_passed, total]
  cases worked : t.active with
  | ok a =>
      have exact := active_eq_ok_iff.mp worked
      refine addAll_eq_ok_iff.trans ?_
      simp only [exactSum, List.foldr_cons, List.foldr_nil, exact]
      omega
  | error o =>
      have excess := (active_eq_error_iff o).mp worked
      exact iff_of_false nofun (by omega)

theorem total_eq_error_iff (o : SumOverflow) :
    t.total = .error o ↔ maxWord64 < exactSum t.passed :=
  eq_error_iff_of_eq_ok_iff (fun _ => total_eq_ok_iff) o

/-- The time worked is part of the time passed. -/
theorem active_le_total {a : UInt64} (active : t.active = .ok a) (total : t.total = .ok n) :
    a ≤ n := by
  rw [UInt64.le_iff_toNat_le, active_eq_ok_iff.mp active, total_eq_ok_iff.mp total,
    exactSum_passed]
  omega

end CpuTicks
end Kernel
end UsageMeter
