import AlpacaVrr.Lib.Reach
import AlpacaVrr.Core.Input

/-!
# Runs of a Node

What can happen to a node, one event after the other, and the states it can
get into.

An event runs one of the entry points of the module to its end: a packet
arrives, the work that hellos queued is done, the timer's work is done, or a
socket is connected or released. Each event comes with a kernel of its own, so
that its outcome is free. An event that faults has no successor state.

## Main definitions

* `vrr_init`: The state of a node after the module is loaded.
* `Event`, `Event.run`: The events and what they run.
* `Step`: One event with one kernel.
* `run_events`, `run_checked`: The state after a list of events.

## Theorems

* `reach_run_events`, `reach_run_checked`: Such a list is a run.
-/

namespace AlpacaVrr

open FaultState

/-- The node as `vrr_init` leaves it, with the contents of the memory that
    `pset_state_init` allocates. -/
def vrr_init (id : U32) (g : Nat → U32) (gm : Nat → MacAddr) : Node where
  me := id
  version := 1
  active := 0
  timeout := 0
  rt := RtTable.empty
  pset := []
  pstate := PsetState.init g gm
  vset := Vset.init
  pset_updates := []
  vrr_socks := vrr_sock_init

/-- A node about to run, with nothing on record. -/
def Sys.boot (n : Node) (k : Kernel) : Sys := ⟨n, k, [], [], [], []⟩

/-- The events of a node. -/
inductive Event where
  | vrr_rcv (skb : SkBuff)
  | pset_update_handler
  | vrr_workqueue_handler
  | vrr_hash_sock (sk : VrrSock)
  | vrr_unhash_sock (sk : VrrSock)
  deriving DecidableEq

/-- The computation an event runs. -/
def Event.run : Event → Vrr Unit
  | vrr_rcv skb => do
      let _ ← Vrr.vrr_rcv skb
      pure ()
  | pset_update_handler => Vrr.pset_update_handler
  | vrr_workqueue_handler => Vrr.vrr_workqueue_handler
  | vrr_hash_sock sk =>
      Vrr.set_node (fun n => { n with vrr_socks := AlpacaVrr.vrr_hash_sock n.vrr_socks sk })
  | vrr_unhash_sock sk =>
      Vrr.set_node (fun n => { n with vrr_socks := AlpacaVrr.vrr_unhash_sock n.vrr_socks sk })

/-- The event runs to its end, with this kernel. -/
def Step (s : Sys) (i : Event × Kernel) (t : Sys) : Prop :=
  i.1.run { s with kern := i.2 } = .ok ((), t)

/-- The state after a list of events, or `none` when one of them faults. -/
def run_events (s : Sys) : List (Event × Kernel) → Option Sys
  | [] => some s
  | i :: rest =>
      match i.1.run { s with kern := i.2 } with
      | .ok (_, t) => run_events t rest
      | .error _ => none

/-- Such a list is a run, and a condition on its events one on the steps. -/
theorem reach_run_events (P : Event × Kernel → Prop) (s t u : Sys) (l : List (Event × Kernel))
    (hs : Reach (fun s i t => Step s i t ∧ P i) s t) (hP : ∀ i ∈ l, P i)
    (h : run_events t l = some u) : Reach (fun s i t => Step s i t ∧ P i) s u := by
  induction l generalizing t with
  | nil =>
      rw [run_events, Option.some.injEq] at h
      rw [← h]
      exact hs
  | cons i rest ih =>
      -- an event that faults ends the list, and then nothing is left to show
      rw [run_events] at h
      cases hrun : i.1.run { t with kern := i.2 } with
      | error e =>
          rw [hrun] at h
          exact absurd h (by simp only [reduceCtorEq, not_false_eq_true])
      | ok p =>
          rw [hrun] at h
          exact ih p.2 (Reach.step i hs ⟨hrun, hP i List.mem_cons_self⟩)
            (fun j hj => hP j (List.mem_cons_of_mem i hj)) h

/-- A list of one event is a step. -/
theorem step_of_run_events (s t : Sys) (i : Event × Kernel) (h : run_events s [i] = some t) :
    Step s i t := by
  unfold run_events at h
  cases hrun : i.1.run { s with kern := i.2 } with
  | error e =>
      rw [hrun] at h
      exact absurd h (by simp only [reduceCtorEq, not_false_eq_true])
  | ok p =>
      rw [hrun] at h
      simp only [run_events, Option.some.injEq] at h
      rw [← h]
      exact hrun

/-- A kernel whose allocations succeed and whose memory is zero. -/
def Kernel.calm : Kernel where
  rb_insert_color := SearchTree.Rebalance.none
  kmalloc := fun _ => true
  random := fun _ => 0
  uninit := fun _ _ => 0
  sk_receive_skb := 0

/-- Node 1, freshly started. -/
def node_one : Sys := Sys.boot (vrr_init 1 (fun _ => 0) (fun _ => 0)) Kernel.calm

/-- A state that node 1 comes to. -/
theorem reach_of_eval (l : List (Event × Kernel)) (q : Sys → Bool)
    (h : (run_events node_one l).any q = true) : ∃ s, Reach Step node_one s ∧ q s = true := by
  obtain ⟨s, hs, hq⟩ := (Option.any_eq_true _ _).mp h
  have hrun := reach_run_events (fun _ => True) node_one node_one s l Reach.refl
    (fun _ _ => trivial) hs
  exact ⟨s, hrun.mono (fun _ _ _ hstep => hstep.1), hq⟩

/-- The state after a list of events that each pass a check, or `none` when
    one of them does not, or faults. -/
def run_checked (c : Sys → Event × Kernel → Bool) (s : Sys) : List (Event × Kernel) → Option Sys
  | [] => some s
  | i :: rest =>
      if c s i then (run_events s [i]).bind (fun t => run_checked c t rest) else none

/-- Such a list is a run whose steps pass the check. -/
theorem reach_run_checked (c : Sys → Event × Kernel → Bool) (s t u : Sys)
    (l : List (Event × Kernel)) (hs : Reach (fun s i t => Step s i t ∧ c s i = true) s t)
    (h : run_checked c t l = some u) : Reach (fun s i t => Step s i t ∧ c s i = true) s u := by
  induction l generalizing t with
  | nil =>
      rw [run_checked, Option.some.injEq] at h
      rw [← h]
      exact hs
  | cons i rest ih =>
      rw [run_checked] at h
      by_cases hc : c t i = true
      · rw [if_pos hc] at h
        obtain ⟨v, hv, h⟩ := Option.bind_eq_some_iff.mp h
        exact ih v (Reach.step i hs ⟨step_of_run_events t v i hv, hc⟩) h
      · rw [if_neg hc] at h
        cases h

/-- A state that node 1 comes to, each step passing a check. -/
theorem reach_of_check (c : Sys → Event × Kernel → Bool) (l : List (Event × Kernel))
    (q : Sys → Bool) (h : (run_checked c node_one l).any q = true) :
    ∃ s, Reach (fun s i t => Step s i t ∧ c s i = true) node_one s ∧ q s = true := by
  obtain ⟨s, hs, hq⟩ := (Option.any_eq_true _ _).mp h
  exact ⟨s, reach_run_checked c node_one node_one s l Reach.refl hs, hq⟩

/-- Whether a run comes to an end, and in a state that passes the check. -/
def ends_in {α : Type} (x : Vrr α) (s : Sys) (q : α → Sys → Bool) : Bool :=
  match x s with
  | .ok (a, t) => q a t
  | .error _ => false

theorem ok_of_ends_in {α : Type} {x : Vrr α} {s : Sys} {q : α → Sys → Bool}
    (h : ends_in x s q = true) : ∃ a t, x s = .ok (a, t) ∧ q a t = true := by
  unfold ends_in at h
  cases hrun : x s with
  | error e =>
      rw [hrun] at h
      exact absurd h Bool.false_ne_true
  | ok p =>
      rw [hrun] at h
      exact ⟨p.1, p.2, rfl, h⟩

/-- A packet of words in a frame, arriving at the device with address 0. -/
def frame (h_source : MacAddr) (pkt_type : U8) (src dst : U32) (data : List U32) : SkBuff :=
  ⟨build_packet 1 pkt_type src dst 0 data, h_source, 0⟩

end AlpacaVrr
