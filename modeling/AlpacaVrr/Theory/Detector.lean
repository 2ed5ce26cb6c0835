import AlpacaVrr.Lib.Watchdog
import AlpacaVrr.Theory.PsetEvents

/-!
# The Failure Detector

What the fail counts count, over whole runs.

Three procedures have a part in it. `detect_failures` counts every entry up,
`vrr_rcv` resets the count of the source of a packet, and
`pset_update_handler` adds entries with a count of zero. It may also take a
neighbour that is marked failed back to another state, and leaves its count as
it is. A run is any sequence of the three, and a log of what happened in it is
kept beside: the ticks, the sources of the packets whose type is known, and the
ids that come into the set.

The count of an entry is the number of ticks in the log since its id was last
seen, as a source or as a new id. It is a watchdog, and a neighbour that is
heard of often enough feeds it.

## Main definitions

* `Signal`: The three procedures.
* `Mark`, `marks`: The log, and what a signal adds to it.
* `ticks_since`: The ticks since an id was last seen.
* `life`: The part of the log since an id came into the set.
* `KeptAlive`: The id is heard of between the first and the last of any
  `VRR_FAIL_TIMEOUT` ticks of its life.
* `Tracked`: The counts are those of the log.

## Theorems

* `tracked_of_watched`: They are so at all times.
* `detector_accurate`: What a signal does to the entries, by their counts.
-/

namespace AlpacaVrr

open FaultState

/-- What the detector is made of. -/
inductive Signal where
  | vrr_rcv (skb : SkBuff)
  | pset_update_handler
  | detect_failures

def Signal.run : Signal → Vrr Unit
  | .vrr_rcv skb => do
      let _ ← Vrr.vrr_rcv skb
      pure ()
  | .pset_update_handler => Vrr.pset_update_handler
  | .detect_failures => Vrr.detect_failures

/-- An entry of the log. -/
inductive Mark where
  | tick
  | accepted (src : U32)
  | inserted (id : U32)
  deriving DecidableEq

/-- The ids in the second set but not in the first. -/
def newcomers (p q : Pset) : List U32 := (pset_ids q).filter (fun id => id ∉ pset_ids p)

/-- What a signal adds to the log. The type of a packet is all that is looked
    at before the count is reset. -/
def marks (p : Pset) (i : Signal) (q : Pset) : List Mark :=
  match i with
  | .vrr_rcv skb => if VRR_NPTYPES ≤ skb.pkt.vh.pkt_type then [] else [.accepted skb.pkt.src]
  | .pset_update_handler => (newcomers p q).map .inserted
  | .detect_failures => [.tick]

/-- A signal comes to its end, and is logged. -/
def Watched (s : Sys × List Mark) (i : Signal × Kernel) (t : Sys × List Mark) : Prop :=
  i.1.run { s.1 with kern := i.2 } = .ok ((), t.1) ∧
    t.2 = marks s.1.node.pset i.1 t.1.node.pset ++ s.2

/-- The ticks since the id was the source of a packet or came into the set. -/
def ticks_since (id : U32) (log : List Mark) : Nat :=
  Watchdog.since (· = .tick) (fun m => m = .accepted id ∨ m = .inserted id) log

/-- The log since the id came into the set. -/
def life (id : U32) (log : List Mark) : List Mark := log.takeWhile (· ≠ .inserted id)

/-- Among any `VRR_FAIL_TIMEOUT` ticks in a row of its life, a packet with the id
    as its source comes in between the first and the last. -/
def KeptAlive (id : U32) (log : List Mark) : Prop :=
  Watchdog.Fed (· = .tick) (· = .accepted id) VRR_FAIL_TIMEOUT (life id log)

/-- Each id once, and its count as the log has it. -/
structure Tracked (p : Pset) (log : List Mark) : Prop where
  distinct : (pset_ids p).Nodup
  inserted : ∀ e ∈ p, .inserted e.node ∈ log
  count : ∀ e ∈ p, e.fail_count = ticks_since e.node log
  below : ∀ e ∈ p, e.fail_count < 2 * VRR_FAIL_TIMEOUT

section Log

variable (id : U32) (log : List Mark)

theorem ticks_since_tick : ticks_since id (.tick :: log) = ticks_since id log + 1 :=
  Watchdog.since_tick log (by simp) rfl

theorem ticks_since_accepted (src : U32) :
    ticks_since id (.accepted src :: log) = if src = id then 0 else ticks_since id log := by
  by_cases h : src = id
  · rw [if_pos h]
    exact Watchdog.since_sign log (Or.inl (by rw [h]))
  · rw [if_neg h]
    exact Watchdog.since_other log (by simp [h]) (by simp)

theorem ticks_since_inserted (ids : List U32) :
    ticks_since id (ids.map .inserted ++ log) = if id ∈ ids then 0 else ticks_since id log := by
  induction ids with
  | nil => simp
  | cons x ids ih =>
      by_cases h : x = id
      · rw [if_pos (List.mem_cons.mpr (Or.inl h.symm))]
        exact Watchdog.since_sign _ (Or.inr (by rw [h]))
      · have hiff : id ∈ x :: ids ↔ id ∈ ids := by
          rw [List.mem_cons]
          exact or_iff_right (fun h' => h h'.symm)
        simp only [hiff]
        rw [← ih]
        exact Watchdog.since_other _ (by simp [h]) (by simp)

/-- For an id that has come into the set, the packets of its life decide. -/
theorem ticks_since_life (h : .inserted id ∈ log) :
    ticks_since id log = Watchdog.since (· = .tick) (· = .accepted id) (life id log) := by
  unfold ticks_since life
  induction log with
  | nil => exact absurd h List.not_mem_nil
  | cons m log ih =>
      -- the insertion ends the life, and the count with it
      by_cases hin : m = .inserted id
      · rw [List.takeWhile_cons_of_neg (by simp [hin])]
        exact Watchdog.since_sign log (Or.inr hin)
      · have hrest := ih ((List.mem_cons.mp h).resolve_left (fun h' => hin h'.symm))
        rw [List.takeWhile_cons_of_pos (by simp [hin])]
        simp only [Watchdog.since, hin, or_false, hrest]

end Log

/-- With the ids distinct, an edit in place is an edit of the entries with the
    id. -/
theorem on_first_eq_map (node : U32) (f : PsetEntry → PsetEntry) (p : Pset)
    (h : (pset_ids p).Nodup) :
    on_first node f p = p.map (fun e => if e.node = node then f e else e) := by
  induction p with
  | nil => rfl
  | cons tmp rest ih =>
      obtain ⟨hnew, hrest⟩ := List.nodup_cons.mp h
      unfold on_first
      by_cases hid : tmp.node = node
      · have hsame : rest.map (fun e => if e.node = node then f e else e) = rest := by
          conv_rhs => rw [← List.map_id rest]
          refine List.map_congr_left (fun e he => if_neg (fun heq => hnew ?_))
          rw [hid, ← heq]
          exact List.mem_map_of_mem he
        rw [if_pos hid, List.map_cons, if_pos hid, hsame]
      · rw [if_neg hid, List.map_cons, if_neg hid, ih hrest]

/-- The set after a signal. -/
def pset_signalled (n : Node) : Signal → Pset
  | .vrr_rcv skb => pset_received n.pset skb
  | .pset_update_handler => n.pset_updates.foldl updated n.pset
  | .detect_failures => n.pset.filterMap counted

theorem signal_pset (n : Node) (i : Signal) :
    Triple (fun s => s.node = n) i.run (fun _ s => s.node.pset = pset_signalled n i)
      (fun _ => True) := by
  cases i with
  | vrr_rcv skb =>
      exact Triple.bind ((Vrr.vrr_rcv_pset n.pset skb).pre (fun s hs => congrArg Node.pset hs))
        (fun _ => Triple.pure _ (fun s hs => hs))
  | pset_update_handler =>
      exact (Vrr.pset_update_handler_pset n.pset n.pset_updates).pre
        (fun s hs => ⟨congrArg Node.pset hs, congrArg Node.pset_updates hs⟩)
  | detect_failures =>
      exact (Vrr.detect_failures_pset n.pset).pre (fun s hs => congrArg Node.pset hs)

theorem pset_of_watched {s t : Sys} {log log' : List Mark} {i : Signal × Kernel}
    (hstep : Watched (s, log) i (t, log')) :
    t.node.pset = pset_signalled s.node i.1 ∧
      log' = marks s.node.pset i.1 (pset_signalled s.node i.1) ++ log := by
  have hpset := (signal_pset s.node i.1).ok (s := { s with kern := i.2 }) rfl hstep.1
  refine ⟨hpset, ?_⟩
  rw [← hpset]
  exact hstep.2

section Steps

variable {p : Pset} {log : List Mark}

theorem tracked_received (h : Tracked p log) (skb : SkBuff) :
    Tracked (pset_received p skb) (marks p (.vrr_rcv skb) (pset_received p skb) ++ log) := by
  unfold pset_received marks
  simp only
  split_ifs
  · exact h
  -- the source's entry is reset, and the source is the latest mark
  have hreset : ∀ e ∈ pset_reset_fail_count p skb.pkt.src, ∃ e₀ ∈ p, e.node = e₀.node ∧
      e.fail_count = if skb.pkt.src = e₀.node then 0 else e₀.fail_count := by
    intro e he
    unfold pset_reset_fail_count at he
    rw [on_first_eq_map _ _ p h.distinct] at he
    obtain ⟨e₀, he₀, rfl⟩ := List.mem_map.mp he
    refine ⟨e₀, he₀, ?_⟩
    by_cases hid : e₀.node = skb.pkt.src
    · rw [if_pos hid, if_pos hid.symm]
      exact ⟨rfl, rfl⟩
    · rw [if_neg hid, if_neg (fun heq => hid heq.symm)]
      exact ⟨rfl, rfl⟩
  refine ⟨?_, fun e he => ?_, fun e he => ?_, fun e he => ?_⟩
  · rw [pset_ids_reset_fail_count]
    exact h.distinct
  · obtain ⟨e₀, he₀, hid, _⟩ := hreset e he
    rw [hid]
    exact List.mem_cons_of_mem _ (h.inserted e₀ he₀)
  · obtain ⟨e₀, he₀, hid, hcount⟩ := hreset e he
    rw [List.singleton_append, ticks_since_accepted, hid, hcount, h.count e₀ he₀]
  · obtain ⟨e₀, he₀, _, hcount⟩ := hreset e he
    have hlt := h.below e₀ he₀
    rw [hcount]
    split_ifs
    · exact Nat.lt_of_le_of_lt (Nat.zero_le _) hlt
    · exact hlt

/-- The id and the count of each entry. -/
def counts (p : Pset) : List (U32 × Nat) := p.map (fun e => (e.node, e.fail_count))

theorem counts_updated (p : Pset) (tmp : PsetUpdate) :
    counts (updated p tmp) =
      if pset_contains p tmp.node then counts p else (tmp.node, 0) :: counts p :=
  map_updated _ (fun _ _ _ => rfl) p tmp

theorem ids_of_counts (p : Pset) : pset_ids p = (counts p).map Prod.fst := by
  rw [counts, List.map_map]
  rfl

/-- Updates keep the counts, and a new id starts at zero. -/
theorem counts_updates (l : List PsetUpdate) (p : Pset) :
    pset_ids p ⊆ pset_ids (l.foldl updated p) ∧
      ∀ x ∈ counts (l.foldl updated p), x ∈ counts p ∨ x.1 ∉ pset_ids p ∧ x.2 = 0 := by
  induction l generalizing p with
  | nil => exact ⟨fun _ h => h, fun _ h => Or.inl h⟩
  | cons tmp l ih =>
      -- one update, and the others by induction from the set it leaves
      have hone : pset_ids p ⊆ pset_ids (updated p tmp) ∧
          ∀ x ∈ counts (updated p tmp), x ∈ counts p ∨ x.1 ∉ pset_ids p ∧ x.2 = 0 := by
        rw [ids_of_counts (updated p tmp), counts_updated]
        by_cases hpresent : pset_contains p tmp.node = true
        · rw [if_pos hpresent, ← ids_of_counts]
          exact ⟨fun _ h => h, fun _ h => Or.inl h⟩
        · rw [if_neg hpresent, List.map_cons, ← ids_of_counts]
          refine ⟨List.subset_cons_self _ _, fun x hx => ?_⟩
          rcases List.mem_cons.mp hx with rfl | hx
          · exact Or.inr ⟨fun hin => hpresent ((pset_contains_iff p _).mpr hin), rfl⟩
          · exact Or.inl hx
      refine ⟨fun x hx => (ih (updated p tmp)).1 (hone.1 hx), fun x hx => ?_⟩
      rcases (ih (updated p tmp)).2 x hx with hold | ⟨hnew, hzero⟩
      · exact hone.2 x hold
      · exact Or.inr ⟨fun hin => hnew (hone.1 hin), hzero⟩

theorem distinct_updates (h : (pset_ids p).Nodup) (l : List PsetUpdate) :
    (pset_ids (l.foldl updated p)).Nodup := by
  induction l generalizing p with
  | nil => exact h
  | cons tmp l ih => exact ih (distinct_updated h tmp)

theorem tracked_updates (h : Tracked p log) (l : List PsetUpdate) :
    Tracked (l.foldl updated p)
      (marks p .pset_update_handler (l.foldl updated p) ++ log) := by
  -- an entry is an old one with its count, or a newcomer that starts at zero
  have hcases : ∀ e ∈ l.foldl updated p,
      (∃ e₀ ∈ p, e₀.node = e.node ∧ e₀.fail_count = e.fail_count) ∨
        e.node ∈ newcomers p (l.foldl updated p) ∧ e.fail_count = 0 := by
    intro e he
    have hmem : (e.node, e.fail_count) ∈ counts (l.foldl updated p) := List.mem_map_of_mem he
    rcases (counts_updates l p).2 _ hmem with hold | ⟨hnew, hzero⟩
    · obtain ⟨e₀, he₀, heq⟩ := List.mem_map.mp hold
      rw [Prod.mk.injEq] at heq
      exact Or.inl ⟨e₀, he₀, heq⟩
    · refine Or.inr ⟨List.mem_filter.mpr ⟨List.mem_map_of_mem he, ?_⟩, hzero⟩
      exact decide_eq_true hnew
  -- an id that was there before is no newcomer
  have hold : ∀ e₀ ∈ p, e₀.node ∉ newcomers p (l.foldl updated p) := by
    intro e₀ he₀ hin
    exact of_decide_eq_true (List.mem_filter.mp hin).2 (List.mem_map_of_mem he₀)
  unfold marks
  refine ⟨distinct_updates h.distinct l, fun e he => ?_, fun e he => ?_, fun e he => ?_⟩
  · rcases hcases e he with ⟨e₀, he₀, hid, _⟩ | ⟨hnew, _⟩
    · rw [← hid]
      exact List.mem_append_right _ (h.inserted e₀ he₀)
    · exact List.mem_append_left _ (List.mem_map_of_mem hnew)
  · rw [ticks_since_inserted]
    rcases hcases e he with ⟨e₀, he₀, hid, hcount⟩ | ⟨hnew, hzero⟩
    · rw [← hid, if_neg (hold e₀ he₀), ← hcount]
      exact h.count e₀ he₀
    · rw [if_pos hnew]
      exact hzero
  · rcases hcases e he with ⟨e₀, he₀, _, hcount⟩ | ⟨_, hzero⟩
    · rw [← hcount]
      exact h.below e₀ he₀
    · rw [hzero]
      exact by decide

/-- What a tick leaves has been counted up, and was not due. -/
theorem mem_counted {e : PsetEntry} (he : e ∈ p.filterMap counted) :
    ∃ e₀ ∈ p, e = (Vrr.fail_entry e₀).1 ∧ e.node = e₀.node ∧ e.fail_count = e₀.fail_count + 1 ∧
      e.fail_count < 2 * VRR_FAIL_TIMEOUT := by
  obtain ⟨e₀, he₀, hc⟩ := List.mem_filterMap.mp he
  obtain ⟨rfl, hlt⟩ := counted_eq_some hc
  refine ⟨e₀, he₀, rfl, Vrr.fail_entry_node e₀, Vrr.fail_entry_count e₀, ?_⟩
  rw [Vrr.fail_entry_count]
  exact hlt

theorem tracked_counted (h : Tracked p log) : Tracked (p.filterMap counted) (.tick :: log) := by
  refine ⟨h.distinct.sublist (ids_counted p), fun e he => ?_, fun e he => ?_, fun e he => ?_⟩
  · obtain ⟨e₀, he₀, _, hid, _⟩ := mem_counted he
    rw [hid]
    exact List.mem_cons_of_mem _ (h.inserted e₀ he₀)
  · obtain ⟨e₀, he₀, _, hid, hcount, _⟩ := mem_counted he
    rw [hid, hcount, ticks_since_tick, h.count e₀ he₀]
  · obtain ⟨_, _, _, _, _, hlt⟩ := mem_counted he
    exact hlt

end Steps

/-- A signal keeps the counts in step with the log. -/
theorem tracked_signalled {n : Node} {log : List Mark} (h : Tracked n.pset log) (i : Signal) :
    Tracked (pset_signalled n i) (marks n.pset i (pset_signalled n i) ++ log) := by
  cases i with
  | vrr_rcv skb => exact tracked_received h skb
  | pset_update_handler => exact tracked_updates h n.pset_updates
  | detect_failures => exact tracked_counted h

/-- In every run from an empty set they are in step. -/
theorem tracked_of_watched {s₀ s : Sys} {log : List Mark} (h₀ : s₀.node.pset = [])
    (hrun : Reach Watched (s₀, []) (s, log)) : Tracked s.node.pset log := by
  refine hrun.invariant (fun x => Tracked x.1.node.pset x.2) ?_ (fun x i y hx hstep => ?_)
  · rw [h₀]
    exact ⟨List.nodup_nil, fun _ he => absurd he List.not_mem_nil,
      fun _ he => absurd he List.not_mem_nil, fun _ he => absurd he List.not_mem_nil⟩
  · obtain ⟨hpset, hlog⟩ := pset_of_watched hstep
    rw [hpset, hlog]
    exact tracked_signalled hx i.1

/-- Only a tick deletes, and what it deletes has a count that is now at the end. -/
theorem leaves_signalled {n : Node} {log : List Mark} (h : Tracked n.pset log) (i : Signal)
    (id : U32) (hin : id ∈ pset_ids n.pset) (hout : id ∉ pset_ids (pset_signalled n i)) :
    i = .detect_failures ∧ ticks_since id (.tick :: log) = 2 * VRR_FAIL_TIMEOUT := by
  cases i with
  | vrr_rcv skb =>
      refine absurd ?_ hout
      change id ∈ pset_ids (pset_received n.pset skb)
      unfold pset_received
      split_ifs
      · exact hin
      · rw [pset_ids_reset_fail_count]
        exact hin
  | pset_update_handler => exact absurd ((counts_updates n.pset_updates n.pset).1 hin) hout
  | detect_failures =>
      refine ⟨rfl, ?_⟩
      obtain ⟨e, he, rfl⟩ := List.mem_map.mp hin
      -- an entry that is not due would have stayed
      have hgone : 2 * VRR_FAIL_TIMEOUT ≤ e.fail_count + 1 := by
        by_contra hlt
        have hstays : counted e = some (Vrr.fail_entry e).1 := by
          rw [← Vrr.fail_entry_count] at hlt
          exact if_neg hlt
        refine hout (List.mem_map.mpr ⟨_, List.mem_filterMap.mpr ⟨e, he, hstays⟩, ?_⟩)
        exact Vrr.fail_entry_node e
      have hbelow := h.below e he
      rw [ticks_since_tick, ← h.count e he]
      omega

/-- At a tick, the count of a neighbour that is kept alive is too low to mark it. -/
theorem ticks_since_lt {id : U32} {log : List Mark} (hin : .inserted id ∈ log)
    (halive : KeptAlive id (.tick :: log)) : ticks_since id (.tick :: log) < VRR_FAIL_TIMEOUT := by
  have hlife : life id (.tick :: log) = .tick :: life id log :=
    List.takeWhile_cons_of_pos (by simp)
  rw [ticks_since_life id _ (List.mem_cons_of_mem _ hin), hlife]
  unfold KeptAlive at halive
  rw [hlife] at halive
  exact Watchdog.since_lt_of_fed halive (by decide) (by simp) rfl

/-- A tick takes the set from `p` to `q`, and the counts tell the state of each
    entry. -/
structure Accurate (p q : Pset) (log : List Mark) : Prop where
  exact : ∀ e ∈ q, .inserted e.node ∈ log ∧ e.fail_count = ticks_since e.node log
  below : ∀ e ∈ q, ticks_since e.node log < 2 * VRR_FAIL_TIMEOUT
  failed : ∀ e ∈ q, VRR_FAIL_TIMEOUT ≤ ticks_since e.node log → e.status = .failed
  spared : ∀ e ∈ p, KeptAlive e.node log → ∃ e' ∈ q, e'.node = e.node ∧ e'.status = e.status

theorem accurate_counted {p : Pset} {log : List Mark} (h : Tracked p log) :
    Accurate p (p.filterMap counted) (.tick :: log) := by
  have hafter := tracked_counted h
  refine ⟨fun e he => ⟨hafter.inserted e he, hafter.count e he⟩, fun e he => ?_,
    fun e he hdue => ?_, fun e he halive => ?_⟩
  · rw [← hafter.count e he]
    exact hafter.below e he
  · rw [← hafter.count e he] at hdue
    obtain ⟨e₀, _, rfl, _, hcount, _⟩ := mem_counted he
    rw [hcount] at hdue
    rw [Vrr.fail_entry_status, if_pos hdue]
  · -- one that is kept alive is counted, and its state left alone
    have hlt := ticks_since_lt (h.inserted e he) halive
    rw [ticks_since_tick, ← h.count e he] at hlt
    have hstays : counted e = some (Vrr.fail_entry e).1 := by
      refine if_neg (fun hdue => ?_)
      rw [Vrr.fail_entry_count] at hdue
      unfold VRR_FAIL_TIMEOUT at hlt hdue
      omega
    refine ⟨_, List.mem_filterMap.mpr ⟨e, he, hstays⟩, Vrr.fail_entry_node e, ?_⟩
    rw [Vrr.fail_entry_status, if_neg (Nat.not_le_of_lt hlt)]

/-- In every run from an empty set, a tick leaves the counts accurate, and an
    entry leaves at no other time than when its count comes to the end. -/
theorem detector_accurate (s₀ s t : Sys) (log log' : List Mark) (i : Signal × Kernel)
    (h₀ : s₀.node.pset = []) (hrun : Reach Watched (s₀, []) (s, log))
    (hstep : Watched (s, log) i (t, log')) :
    (i.1 = .detect_failures → Accurate s.node.pset t.node.pset log') ∧
      ∀ id ∈ pset_ids s.node.pset, id ∉ pset_ids t.node.pset →
        i.1 = .detect_failures ∧ ticks_since id log' = 2 * VRR_FAIL_TIMEOUT := by
  have htracked := tracked_of_watched h₀ hrun
  obtain ⟨hpset, hlog⟩ := pset_of_watched hstep
  rw [hpset, hlog]
  refine ⟨fun htick => ?_, fun id hin hout => ?_⟩
  · rw [htick]
    exact accurate_counted htracked
  · obtain ⟨htick, hend⟩ := leaves_signalled htracked i.1 id hin hout
    rw [htick]
    exact ⟨rfl, hend⟩

/-- A signal with its entry in the log, or `none` at a fault. -/
def watch (x : Sys × List Mark) (i : Signal × Kernel) : Option (Sys × List Mark) :=
  match i.1.run { x.1 with kern := i.2 } with
  | .ok (_, t) => some (t, marks x.1.node.pset i.1 t.node.pset ++ x.2)
  | .error _ => none

theorem watched_of_watch {x y : Sys × List Mark} {i : Signal × Kernel} (h : watch x i = some y) :
    Watched x i y := by
  unfold watch at h
  cases hrun : i.1.run { x.1 with kern := i.2 } with
  | error e =>
      rw [hrun] at h
      cases h
  | ok r =>
      rw [hrun] at h
      cases h
      exact ⟨hrun, rfl⟩

def watch_all (x : Sys × List Mark) : List (Signal × Kernel) → Option (Sys × List Mark)
  | [] => some x
  | i :: l => (watch x i).bind (fun y => watch_all y l)

theorem reach_watch_all (start x y : Sys × List Mark) (l : List (Signal × Kernel))
    (hx : Reach Watched start x) (h : watch_all x l = some y) : Reach Watched start y := by
  induction l generalizing x with
  | nil =>
      rw [watch_all, Option.some.injEq] at h
      rw [← h]
      exact hx
  | cons i l ih =>
      obtain ⟨z, hz, hrest⟩ := Option.bind_eq_some_iff.mp h
      exact ih z (Reach.step i hx (watched_of_watch hz)) hrest

/-- Node 2 is heard, and nothing more of it. Node 3 is heard four ticks later,
    and node 4 now and then. -/
def fading : List (Signal × Kernel) :=
  ([Signal.vrr_rcv (frame 2 VRR_HELLO 2 0 [0, 0, 0, 0]), Signal.pset_update_handler] ++
    List.replicate 4 Signal.detect_failures ++
    [Signal.vrr_rcv (frame 3 VRR_HELLO 3 0 [0, 0, 0, 0]),
      Signal.vrr_rcv (frame 4 VRR_HELLO 4 0 [0, 0, 0, 0]), Signal.pset_update_handler] ++
    List.replicate 2 Signal.detect_failures ++
    [Signal.vrr_rcv (frame 4 VRR_HELLO 4 0 [0, 0, 0, 0]), Signal.detect_failures]).map
    (fun i => (i, Kernel.calm))

/-- The next tick is the eighth for node 2, which is deleted, and the fourth for
    node 3, which is marked as failed. -/
theorem detector_accurate_two :
    ∃ s t log log', Reach Watched (node_one, []) (s, log) ∧
      Watched (s, log) (.detect_failures, Kernel.calm) (t, log') ∧
      counts s.node.pset = [(4, 1), (3, 3), (2, 7)] ∧ counts t.node.pset = [(4, 2), (3, 4)] ∧
      t.node.pset.map PsetEntry.status = [.pending, .failed] ∧
      Accurate s.node.pset t.node.pset log' ∧ ticks_since 2 log' = 2 * VRR_FAIL_TIMEOUT := by
  have heval : (watch_all (node_one, []) fading).any (fun x =>
      decide (counts x.1.node.pset = [(4, 1), (3, 3), (2, 7)]) &&
      (watch x (.detect_failures, Kernel.calm)).any (fun y =>
        decide (counts y.1.node.pset = [(4, 2), (3, 4)] ∧
          y.1.node.pset.map PsetEntry.status = [.pending, .failed] ∧
          2 ∈ pset_ids x.1.node.pset ∧ 2 ∉ pset_ids y.1.node.pset))) = true := by
    decide +kernel
  obtain ⟨⟨s, log⟩, hs, hboth⟩ := (Option.any_eq_true _ _).mp heval
  obtain ⟨hbefore, hlast⟩ := Bool.and_eq_true_iff.mp hboth
  obtain ⟨⟨t, log'⟩, ht, hafter⟩ := (Option.any_eq_true _ _).mp hlast
  obtain ⟨hcounts, hstatus, hin, hout⟩ := of_decide_eq_true hafter
  have hrun := reach_watch_all _ _ (s, log) fading Reach.refl hs
  have hstep := watched_of_watch ht
  have hboth := detector_accurate node_one s t log log' _ rfl hrun hstep
  exact ⟨s, t, log, log', hrun, hstep, of_decide_eq_true hbefore, hcounts, hstatus,
    hboth.1 rfl, (hboth.2 2 hin hout).2⟩

end AlpacaVrr
