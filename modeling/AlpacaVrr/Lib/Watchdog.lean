import Mathlib.Data.List.Basic

/-!
# Watchdogs

Counting the ticks since the last sign of life, from a log of what happened.

A log has its latest entry in front. Some entries are ticks, and some are
signs. `since` counts the ticks in front of the first sign. A run of ticks that
is counted has no sign in it, so a log in which the ticks of every `n`
consecutive ones have a sign between them never counts up to `n`.

## Main definitions

* `Watchdog.since`: The number of ticks since the last sign.
* `Watchdog.Fed`: There is a sign among any `n` consecutive ticks.

## Theorems

* `Watchdog.quiet_of_le_since`: What is counted is a run without a sign.
* `Watchdog.since_lt_of_fed`: A watchdog that is fed does not go off.
-/

namespace Watchdog

variable {α : Type} (tick sign : α → Prop) [DecidablePred tick] [DecidablePred sign]

/-- The ticks since the last sign, or all of them. -/
def since : List α → Nat
  | [] => 0
  | a :: log => if sign a then 0 else if tick a then since log + 1 else since log

/-- Whenever `a`, the ticks of `m`, and `b` are `n` ticks in a row, there is a
    sign between `a` and `b`. -/
def Fed (n : Nat) (log : List α) : Prop :=
  ∀ later a m b earlier, log = later ++ a :: (m ++ b :: earlier) → tick a → tick b →
    m.countP (fun x => tick x) + 2 = n → ∃ x ∈ m, sign x

variable {tick sign}

theorem since_sign {a : α} (log : List α) (ha : sign a) : since tick sign (a :: log) = 0 := by
  rw [since, if_pos ha]

theorem since_tick {a : α} (log : List α) (hs : ¬ sign a) (ha : tick a) :
    since tick sign (a :: log) = since tick sign log + 1 := by
  rw [since, if_neg hs, if_pos ha]

theorem since_other {a : α} (log : List α) (hs : ¬ sign a) (ha : ¬ tick a) :
    since tick sign (a :: log) = since tick sign log := by
  rw [since, if_neg hs, if_neg ha]

/-- A tick that is counted is reached without a sign. The induction is on the
    log, and the tick is the first one when no other is left to count. -/
theorem quiet_of_le_since (k : Nat) (log : List α) (h : k + 1 ≤ since tick sign log) :
    ∃ m b earlier, log = m ++ b :: earlier ∧ tick b ∧ m.countP (fun x => tick x) = k ∧
      ∀ x ∈ m, ¬ sign x := by
  induction log generalizing k with
  | nil => exact absurd h (Nat.not_succ_le_zero k)
  | cons a log ih =>
      by_cases hs : sign a
      · rw [since_sign log hs] at h
        exact absurd h (Nat.not_succ_le_zero k)
      by_cases ha : tick a
      · rw [since_tick log hs ha] at h
        -- the newest tick is the one that is sought, or one more to count
        cases k with
        | zero => exact ⟨[], a, log, rfl, ha, rfl, fun x hx => absurd hx List.not_mem_nil⟩
        | succ k =>
            obtain ⟨m, b, earlier, hlog, hb, hcount, hquiet⟩ := ih k (Nat.le_of_succ_le_succ h)
            refine ⟨a :: m, b, earlier, by rw [hlog]; rfl, hb, ?_,
              List.forall_mem_cons.mpr ⟨hs, hquiet⟩⟩
            rw [List.countP_cons, hcount]
            simp [ha]
      · rw [since_other log hs ha] at h
        obtain ⟨m, b, earlier, hlog, hb, hcount, hquiet⟩ := ih k h
        refine ⟨a :: m, b, earlier, by rw [hlog]; rfl, hb, ?_,
          List.forall_mem_cons.mpr ⟨hs, hquiet⟩⟩
        rw [List.countP_cons, hcount]
        simp [ha]

/-- At a tick of a log that is fed, the count is below `n`. -/
theorem since_lt_of_fed {n : Nat} {a : α} {log : List α} (h : Fed tick sign n (a :: log))
    (hn : 2 ≤ n) (hs : ¬ sign a) (ha : tick a) : since tick sign (a :: log) < n := by
  by_contra hge
  rw [since_tick log hs ha] at hge
  have hcount : (n - 2) + 1 ≤ since tick sign log := by omega
  obtain ⟨m, b, earlier, hlog, hb, hm, hquiet⟩ := quiet_of_le_since (n - 2) log hcount
  obtain ⟨x, hx, hsign⟩ := h [] a m b earlier (by rw [hlog]; rfl) ha hb (by omega)
  exact hquiet x hx hsign

end Watchdog
