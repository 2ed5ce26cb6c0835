import AlpacaVrr.Lib.LinkedList
import AlpacaVrr.Core.System

/-!
# The Work Left by Hellos

`pset_update_handler` one list operation at a time, with hellos in between.

In `Core.Input` the handler runs to its end before anything else happens. In
the kernel it is a work item, and a packet may be received while it runs. The
lock that was declared for the list, `pset_updates_lock`, is taken by neither
side. Here the list is its `list_head`s, the handler is where it stands in its
loop, and `vrr_rcv_hello` may run between any two operations of it.

The loop is `list_for_each_safe(pos, q, &pset_updates.list)`. It holds two
addresses, that of the update it is at and that of the next one, which it
reads before it handles the first.

An update is known by the order in which it was allocated, so its address is
its number. The address that is no update's is the head of the list. Freed
memory may hold anything, which is the argument of `unlink`.

The list is not also kept in the node. Its field `pset_updates` is empty here,
except that a hello leaves its update there to be put into the list.

## Main definitions

* `Addr`, `Progress`, `Deferred`: The list, the handler, and the node.
* `Deferred.vrr_rcv_hello`, `Deferred.read`, `Deferred.process`,
  `Deferred.unlink`, `Deferred.advance`, `Deferred.finish`: The operations.
* `ListOp`, `ListOp.run`, `ListOp.Step`: One of them takes place.
* `Closing`: The handler will not look at the list again.
* `Accounted`: Every update was handled once or is still in the list.
* `ListOp.runs`, `ListOp.runs_checked`, `handler_ops`: Lists of operations.

## Theorems

* `Deferred.read_eq_some` and so on: When an operation takes place, and what
  it does.
* `reach_runs_checked`: Such a list is a run.
-/

namespace AlpacaVrr

open LinkedList

/-- The address of a `list_head`: `pset_updates.list`, or the one in the `n`th
    update. -/
abbrev Addr := Option Nat

/-- Where the handler is. An address is that of its variables `pos` and `q`. -/
inductive Progress where
  /-- Not running. -/
  | idle
  /-- At the test of the loop. -/
  | looking (pos q : Addr)
  /-- The update at `pos` has been handled. -/
  | handled (pos q : Addr)
  /-- The update at `pos` has been taken out of the list, and freed. -/
  | unlinked (q : Addr)
  deriving DecidableEq

/-- The node, the list of updates, and the handler. `updates` holds the
    updates allocated so far, and `processed` the numbers of those that were
    handled, in this order. -/
structure Deferred where
  links : Links Addr
  updates : List PsetUpdate
  processed : List Nat
  progress : Progress
  scheduled : Bool
  sys : Sys

/-- A packet is received, or the handler does the next operation. The
    handler's first read comes with the kernel it is going to run with. -/
inductive ListOp where
  | vrr_rcv_hello (skb : SkBuff) (k : Kernel)
  | read (k : Kernel)
  | process
  | unlink (poison : ListHead Addr)
  | advance
  | init_list_head

namespace Deferred

/-- The list as `vrr_init_rcv` leaves it, in memory that held anything. -/
def boot (links : Links Addr) (s : Sys) : Deferred where
  links := init_list_head links none
  updates := []
  processed := []
  progress := .idle
  scheduled := false
  sys := { s with node := { s.node with pset_updates := [] } }

/-- `list_add_tail(&update->list, &pset_updates.list)` and
    `schedule_work(&pset_updates_wq)`. -/
def enqueue (d : Deferred) (update : PsetUpdate) : Deferred :=
  { d with
    links := list_add_tail d.links (some d.updates.length) none
    updates := d.updates ++ [update]
    scheduled := true }

/-- The node after `vrr_rcv_hello`, with the update it wants to have queued. -/
def hello (d : Deferred) (skb : SkBuff) (k : Kernel) : Option Sys :=
  (Vrr.vrr_rcv_hello skb { d.sys with kern := k }).toOption.map Prod.snd

/-- `vrr_rcv_hello`, which leaves no update or one. -/
def vrr_rcv_hello (d : Deferred) (skb : SkBuff) (k : Kernel) : Option Deferred :=
  match d.hello skb k with
  | some s =>
      some (s.node.pset_updates.foldl enqueue
        { d with sys := { s with node := { s.node with pset_updates := [] } } })
  | none => none

/-- The first reads of the loop, when the handler is scheduled. -/
def read (d : Deferred) (k : Kernel) : Option Deferred :=
  match d.progress, d.scheduled with
  | .idle, true =>
      let pos := (d.links none).next
      some { d with
        scheduled := false
        sys := { d.sys with kern := k }
        progress := .looking pos (d.links pos).next }
  | _, _ => none

/-- The body of the loop up to the deletion. -/
def process (d : Deferred) : Option Deferred :=
  match d.progress with
  | .looking (some n) q =>
      match d.updates[n]? with
      | some tmp =>
          match Vrr.pset_update tmp d.sys with
          | .ok (_, s) => some { d with
              sys := s, processed := d.processed ++ [n], progress := .handled (some n) q }
          | .error _ => none
      | none => none
  | _ => none

/-- `list_del(pos)` and `kfree(tmp)`. -/
def unlink (d : Deferred) (poison : ListHead Addr) : Option Deferred :=
  match d.progress with
  | .handled pos q =>
      some { d with links := list_del d.links pos poison, progress := .unlinked q }
  | _ => none

/-- `pos = q, q = pos->next`. -/
def advance (d : Deferred) : Option Deferred :=
  match d.progress with
  | .unlinked q => some { d with progress := .looking q (d.links q).next }
  | _ => none

/-- The end of the loop, which is back at the head, and `INIT_LIST_HEAD`. -/
def finish (d : Deferred) : Option Deferred :=
  match d.progress with
  | .looking none _ => some { d with links := init_list_head d.links none, progress := .idle }
  | _ => none

end Deferred

/-- What an operation does. There is none when the handler is elsewhere, and
    when the operation faults. -/
def ListOp.run (d : Deferred) : ListOp → Option Deferred
  | vrr_rcv_hello skb k => d.vrr_rcv_hello skb k
  | read k => d.read k
  | process => d.process
  | unlink poison => d.unlink poison
  | advance => d.advance
  | init_list_head => d.finish

namespace Deferred

variable {d d' : Deferred}

theorem vrr_rcv_hello_eq_some {skb : SkBuff} {k : Kernel} (h : d.vrr_rcv_hello skb k = some d') :
    ∃ s, d.hello skb k = some s ∧ d' = s.node.pset_updates.foldl enqueue
      { d with sys := { s with node := { s.node with pset_updates := [] } } } := by
  unfold vrr_rcv_hello at h
  cases hs : d.hello skb k with
  | none =>
      rw [hs] at h
      cases h
  | some s =>
      rw [hs] at h
      exact ⟨s, rfl, (Option.some.inj h).symm⟩

theorem read_eq_some {k : Kernel} (h : d.read k = some d') :
    d.progress = .idle ∧ d.scheduled = true ∧ d' = { d with
      scheduled := false
      sys := { d.sys with kern := k }
      progress := .looking (d.links none).next (d.links (d.links none).next).next } := by
  unfold read at h
  split at h
  case h_1 hp hs => exact ⟨hp, hs, (Option.some.inj h).symm⟩
  case h_2 => cases h

theorem process_eq_some (h : d.process = some d') :
    ∃ n q tmp s, d.progress = .looking (some n) q ∧ d.updates[n]? = some tmp ∧
      Vrr.pset_update tmp d.sys = .ok ((), s) ∧ d' = { d with
        sys := s, processed := d.processed ++ [n], progress := .handled (some n) q } := by
  unfold process at h
  split at h
  case h_2 => cases h
  rename_i n q hp
  split at h
  case h_2 => cases h
  rename_i tmp htmp
  split at h
  case h_1 s hrun => exact ⟨n, q, tmp, s, hp, htmp, hrun, (Option.some.inj h).symm⟩
  case h_2 => cases h

theorem unlink_eq_some {poison : ListHead Addr} (h : d.unlink poison = some d') :
    ∃ pos q, d.progress = .handled pos q ∧
      d' = { d with links := list_del d.links pos poison, progress := .unlinked q } := by
  unfold unlink at h
  split at h
  case h_1 pos q hp => exact ⟨pos, q, hp, (Option.some.inj h).symm⟩
  case h_2 => cases h

theorem advance_eq_some (h : d.advance = some d') :
    ∃ q, d.progress = .unlinked q ∧
      d' = { d with progress := .looking q (d.links q).next } := by
  unfold advance at h
  split at h
  case h_1 q hp => exact ⟨q, hp, (Option.some.inj h).symm⟩
  case h_2 => cases h

theorem finish_eq_some (h : d.finish = some d') :
    ∃ q, d.progress = .looking none q ∧
      d' = { d with links := init_list_head d.links none, progress := .idle } := by
  unfold finish at h
  split at h
  case h_1 q hp => exact ⟨q, hp, (Option.some.inj h).symm⟩
  case h_2 => cases h

end Deferred

/-- The operation takes place. -/
def ListOp.Step (d : Deferred) (op : ListOp) (d' : Deferred) : Prop := op.run d = some d'

/-- The handler has read the head as the next address, or as this one. What is
    put behind its back from now on is overwritten by `INIT_LIST_HEAD`. -/
def Deferred.Closing (d : Deferred) : Prop :=
  match d.progress with
  | .idle => False
  | .looking pos q => pos = none ∨ q = none
  | .handled _ q => q = none
  | .unlinked q => q = none

/-- Every update has been handled once, or not yet and is in the list. -/
def Deferred.Accounted (d : Deferred) : Prop :=
  ∀ n < d.updates.length, d.processed.count n = 1 ∨
    d.processed.count n = 0 ∧ Reachable d.links none (some n)

/-- Unless the handler is closing, any operation will do. While it is, a hello
    may not leave an update. -/
def ListOp.Apart (d : Deferred) (op : ListOp) : Prop :=
  ∀ skb k s, op = .vrr_rcv_hello skb k → d.hello skb k = some s → d.Closing →
    s.node.pset_updates = []

/-- A list of operations, one after the other. -/
def ListOp.runs (d : Deferred) : List ListOp → Option Deferred
  | [] => some d
  | op :: ops =>
      match op.run d with
      | some d' => ListOp.runs d' ops
      | none => none

/-- A list of operations that each pass a check where they take place. -/
def ListOp.runs_checked (c : Deferred → ListOp → Bool) (d : Deferred) :
    List ListOp → Option Deferred
  | [] => some d
  | op :: ops => if c d op then (op.run d).bind (fun d' => ListOp.runs_checked c d' ops) else none

/-- Such a list is a run whose steps pass the check. -/
theorem reach_runs_checked (c : Deferred → ListOp → Bool) (d0 d e : Deferred) (ops : List ListOp)
    (hd : Reach (fun d op d' => op.Step d d' ∧ c d op = true) d0 d)
    (h : ListOp.runs_checked c d ops = some e) :
    Reach (fun d op d' => op.Step d d' ∧ c d op = true) d0 e := by
  induction ops generalizing d with
  | nil =>
      rw [ListOp.runs_checked, Option.some.injEq] at h
      rw [← h]
      exact hd
  | cons op ops ih =>
      rw [ListOp.runs_checked] at h
      by_cases hc : c d op = true
      · rw [if_pos hc] at h
        obtain ⟨d', hrun, hrest⟩ := Option.bind_eq_some_iff.mp h
        exact ih d' (Reach.step op hd ⟨hrun, hc⟩) hrest
      · rw [if_neg hc] at h
        cases h

/-- What the handler does on a list of `n` updates, when nothing comes in
    between. -/
def handler_ops (poison : ListHead Addr) : Nat → List ListOp
  | 0 => [.init_list_head]
  | n + 1 => .process :: .unlink poison :: .advance :: handler_ops poison n

end AlpacaVrr
