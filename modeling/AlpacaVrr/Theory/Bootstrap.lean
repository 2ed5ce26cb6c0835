import AlpacaVrr.Theory.Handlers

/-!
# How a Node Becomes Active

The timeout of a node without virtual neighbours.

The timer counts the ticks of an inactive node, and the node becomes active
with the last of `VRR_ACTIVE_TIMEOUT`. A packet of any known type sets the count
back to zero, whoever sent it. That is right for a packet that shows that there
is a ring to join, and wrong for the others: nodes that are all inactive and
hear each other's hellos keep each other from starting.

`Watch` counts the ticks of a node that is on its own, beside the node's own
count. While nothing sets the node's count back, it is at least as far, and it
cannot reach the limit without the node being active.

## Main definitions

* `Clocked`: The invariant of the count.
* `Watch`, `Lonely`: The ticks during which a node is on its own.
* `Resets`: The count of an inactive node is set back.

## Theorems

* `clock_step`: What one event does to the flag and the count.
* `active_after_timeout`: A node on its own becomes active in time, unless it
  is set back.
-/

namespace AlpacaVrr

open FaultState

/-- A tick of the timer. -/
def Event.ticks : Event → Nat
  | vrr_workqueue_handler => 1
  | _ => 0

/-- A hello whose active flag is not zero. -/
def ActiveHello (e : Event) : Prop :=
  ∃ skb w, e = .vrr_rcv skb ∧ skb.pkt.vh.pkt_type = VRR_HELLO ∧
    word skb.pkt vrr_header_size = some w ∧ w ≠ 0

/-- A packet of a known type arrives at an inactive node. -/
def Resets (s : Sys) (e : Event) : Prop :=
  s.node.active = 0 ∧ ∃ skb, e = .vrr_rcv skb ∧ skb.pkt.vh.pkt_type < VRR_NPTYPES

/-- A node, and how many ticks it has been on its own. -/
structure Watch where
  sys : Sys
  ticks : Nat

/-- A step of a node on its own. It stays without virtual neighbours and hears
    of no active node, and the first step is a tick. -/
structure Lonely (w : Watch) (i : Event × Kernel) (w' : Watch) : Prop where
  step : Step w.sys i w'.sys
  ticks : w'.ticks = w.ticks + i.1.ticks
  opened : i.1 = .vrr_workqueue_handler ∨ 0 < w.ticks
  empty : w'.sys.node.vset.list = []
  unheard : ¬ ActiveHello i.1

/-- From `s` on the node has been on its own, and each step met `c`. -/
def Alone (c : Sys → Event → Prop) (s : Sys) (w : Watch) : Prop :=
  s.node.vset.list = [] ∧ Reach (fun w i w' => Lonely w i w' ∧ c w.sys i.1) ⟨s, 0⟩ w

/-- An inactive node has not counted to the limit. -/
def Clocked (s : Sys) : Prop :=
  s.node.active = 1 ∨ s.node.active = 0 ∧ s.node.timeout < VRR_ACTIVE_TIMEOUT

/-- The handlers touch neither the flag nor the count, but that the flag is
    set. -/
theorem routine_clock (C : U32 → Nat → Prop) (hC : ∀ a n, C a n → C 1 n) :
    Routine (fun _ => True) (fun s => C s.node.active s.node.timeout) :=
  routine_of_updates (fun _ _ hs => hs) (fun _ _ hs => hs) (fun _ _ _ hs => hs)
    (fun _ _ _ hs => hs) (fun _ _ hs => hs) (fun _ hs => hC _ _ hs) (fun _ _ hs => hs)

namespace Vrr

/-- A packet of a known type sets the count back. -/
theorem vrr_rcv_clock (skb : SkBuff) (a : U32) (hty : skb.pkt.vh.pkt_type < VRR_NPTYPES) :
    Triple (fun s => s.node.active = a) (vrr_rcv skb)
      (fun _ s => s.node.timeout = 0 ∧ (s.node.active = a ∨ s.node.active = 1))
      (fun _ => True) := by
  have hroutine := routine_clock (fun b n => n = 0 ∧ (b = a ∨ b = 1))
    (fun _ _ h => ⟨h.1, Or.inr rfl⟩)
  refine vrr_rcv_triple (I := fun s => s.node.timeout = 0 ∧ (s.node.active = a ∨
    s.node.active = 1)) (J := fun _ s => s.node.timeout = 0 ∧ (s.node.active = a ∨
    s.node.active = 1)) skb ?_ ?_ ?_ ?_ ?_
  · intro hge
    exact absurd hty (BitVec.not_lt.mpr hge)
  · intro s hs
    exact ⟨rfl, Or.inl hs⟩
  · intro _
    exact hroutine.vrr_rcvfunc_of_all skb hty (fun _ => hroutine.draws.vrr_rcv_hello skb
      (fun _ hs => hs) (fun _ _ _ => Triple.modify _ (fun _ hs => hs)))
  · intro _ _
    exact hroutine.kfree_skb _
  · intro s hs
    exact hs

/-- What is not a packet and not a tick touches neither. -/
theorem pset_update_handler_clock (C : U32 → Nat → Prop) :
    Preserves (fun s => C s.node.active s.node.timeout) pset_update_handler := by
  have hown : SendsOwn (fun _ => True) (fun s => C s.node.active s.node.timeout) :=
    (alters_of_updates (fun _ _ hs => hs) (fun _ _ hs => hs) (fun _ _ _ hs => hs)
      (fun _ _ _ hs => hs) (fun _ hs => hs)).toSendsOwn
  exact hown.pset_update_handler (fun _ _ _ _ hs => hs)
    (fun _ _ => Preserves.modify _ (fun _ hs => hs)) trivial

/-- A tick is counted, and the last one sets the flag. -/
theorem vrr_workqueue_handler_clock (n : Nat) :
    Triple (fun s => s.node.active = 0 ∧ s.node.timeout = n) vrr_workqueue_handler
      (fun _ s => s.node.timeout = n + 1 ∧
        s.node.active = if n + 1 = VRR_ACTIVE_TIMEOUT then 1 else 0) (fun _ => True) := by
  unfold vrr_workqueue_handler
  have hdetect : Preserves (fun s => s.node.active = 0 ∧ s.node.timeout = n) detect_failures :=
    SendsOwn.detect_failures (fun _ _ _ _ hs => hs)
      (fun _ _ => Preserves.modify _ (fun _ hs => hs))
  refine Triple.bind hdetect (fun _ => ?_)
  refine Triple.bind (Q := fun _ s => s.node.timeout = n + 1 ∧
    s.node.active = if n + 1 = VRR_ACTIVE_TIMEOUT then 1 else 0) ?_ (fun _ => ?_)
  · refine Triple.modify _ (fun s hs => ?_)
    obtain ⟨hactive, htimeout⟩ := hs
    simp only [hactive, htimeout]
    by_cases hlast : n + 1 = VRR_ACTIVE_TIMEOUT
    · simp [hlast]
    · simp [hlast]
  · exact Preserves.then_pure ((node_of_still send_hpkt_still).preserves (fun m =>
      m.timeout = n + 1 ∧ m.active = if n + 1 = VRR_ACTIVE_TIMEOUT then 1 else 0)) ()

end Vrr

/-- A node stays active. -/
theorem active_stays {s t : Sys} {i : Event × Kernel} (h : Step s i t) (hs : s.node.active = 1) :
    t.node.active = 1 := by
  have hroutine := routine_clock (fun a _ => a = 1) (fun _ _ _ => rfl)
  have hevent : Preserves (fun s => s.node.active = 1) i.1.run := by
    refine event_preserves (fun skb => ?_) (Vrr.pset_update_handler_clock (fun a _ => a = 1)) ?_
      (fun _ _ hs => hs) i.1
    · refine hroutine.handles.vrr_rcv skb (fun _ hs => hs) (fun hty => ?_)
      exact hroutine.vrr_rcvfunc_of_all skb hty (fun _ => hroutine.draws.vrr_rcv_hello skb
        (fun _ hs => hs) (fun _ _ _ => Triple.modify _ (fun _ hs => hs)))
    · refine hroutine.toSends.own.vrr_workqueue_handler (fun _ _ _ _ hs => hs)
        (fun _ _ => Preserves.modify _ (fun _ hs => hs)) trivial ?_
      refine Preserves.modify _ (fun s hs => ?_)
      have hne : s.node.active ≠ 0 := by
        rw [hs]
        decide
      simp only [if_pos hne]
      exact hs
  exact hevent.ok (s := { s with kern := i.2 }) hs h

/-- An inactive node that is not set back counts on. -/
theorem counts_on {s t : Sys} {i : Event × Kernel} (h : Step s i t) (hactive : s.node.active = 0)
    (hcount : s.node.timeout < VRR_ACTIVE_TIMEOUT) (hset : ¬ Resets s i.1) :
    t.node.active = 1 ∨ t.node.active = 0 ∧ t.node.timeout = s.node.timeout + i.1.ticks ∧
      t.node.timeout < VRR_ACTIVE_TIMEOUT := by
  refine step_cases (I := fun t => t.node.active = 1 ∨ t.node.active = 0 ∧
    t.node.timeout = s.node.timeout + i.1.ticks ∧ t.node.timeout < VRR_ACTIVE_TIMEOUT) h ?_ ?_ ?_ ?_
  · -- a packet that does not set it back is dropped
    intro skb r he hrun
    have hunknown : ¬ skb.pkt.vh.pkt_type < VRR_NPTYPES :=
      fun hty => hset ⟨hactive, skb, he, hty⟩
    have hdrop : Triple (fun u => u.node = s.node) (Vrr.vrr_rcv skb) (fun _ u => u.node = s.node)
        (fun _ => True) :=
      Vrr.vrr_rcv_triple (I := fun _ => True) (J := fun _ _ => False) skb
        (fun _ => Triple.modify _ (fun _ hu => hu)) (fun _ _ => trivial)
        (fun hty => absurd hty hunknown) (fun _ _ _ hu => hu.elim) (fun _ hu => hu.elim)
    rw [he, hdrop.ok (s := { s with kern := i.2 }) rfl hrun]
    exact Or.inr ⟨hactive, rfl, hcount⟩
  · intro he hrun
    have hkept := (Vrr.pset_update_handler_clock (fun a n => a = 0 ∧ n = s.node.timeout)).ok
      (s := { s with kern := i.2 }) ⟨hactive, rfl⟩ hrun
    rw [he]
    exact Or.inr ⟨hkept.1, hkept.2, hkept.2 ▸ hcount⟩
  · intro he hrun
    obtain ⟨htimeout, hflag⟩ := (Vrr.vrr_workqueue_handler_clock s.node.timeout).ok
      (s := { s with kern := i.2 }) ⟨hactive, rfl⟩ hrun
    rw [he]
    -- the tick that comes to the limit sets the flag
    by_cases hlast : s.node.timeout + 1 = VRR_ACTIVE_TIMEOUT
    · rw [if_pos hlast] at hflag
      exact Or.inl hflag
    · rw [if_neg hlast] at hflag
      exact Or.inr ⟨hflag, htimeout, by omega⟩
  · rintro ⟨sk, he | he⟩ socks
    · rw [he]
      exact Or.inr ⟨hactive, rfl, hcount⟩
    · rw [he]
      exact Or.inr ⟨hactive, rfl, hcount⟩

/-- One that is set back starts again. -/
theorem starts_again {s t : Sys} {i : Event × Kernel} (h : Step s i t) (hset : Resets s i.1) :
    t.node.timeout = 0 ∧ (t.node.active = 0 ∨ t.node.active = 1) := by
  obtain ⟨hactive, skb, he, hty⟩ := hset
  unfold Step at h
  rw [he] at h
  have hrun : Triple (fun s => s.node.active = 0) (Event.vrr_rcv skb).run (fun _ t =>
      t.node.timeout = 0 ∧ (t.node.active = 0 ∨ t.node.active = 1)) (fun _ => True) :=
    Triple.bind (Vrr.vrr_rcv_clock skb 0 hty) (fun _ => Triple.pure _ (fun _ ht => ht))
  exact hrun.ok (s := { s with kern := i.2 }) hactive h

/-- The invariant is kept, and says that the count is less than the limit. -/
theorem clock_step {s t : Sys} {i : Event × Kernel} (h : Step s i t) (hs : Clocked s) :
    Clocked t := by
  rcases hs with hactive | ⟨hactive, hcount⟩
  · exact Or.inl (active_stays h hactive)
  · by_cases hset : Resets s i.1
    · obtain ⟨hzero, hflag | hflag⟩ := starts_again h hset
      · refine Or.inr ⟨hflag, ?_⟩
        rw [hzero]
        decide
      · exact Or.inl hflag
    · rcases counts_on h hactive hcount hset with hflag | ⟨hflag, _, hlt⟩
      · exact Or.inl hflag
      · exact Or.inr ⟨hflag, hlt⟩

/-- A node on its own that is not set back has counted all the ticks, or is
    active. -/
theorem counted_of_alone {s : Sys} {w : Watch} (hs : Clocked s)
    (h : Alone (fun s e => ¬ Resets s e) s w) :
    w.sys.node.active = 1 ∨ w.sys.node.active = 0 ∧ w.ticks ≤ w.sys.node.timeout ∧
      w.sys.node.timeout < VRR_ACTIVE_TIMEOUT := by
  refine h.2.invariant (fun w => w.sys.node.active = 1 ∨ w.sys.node.active = 0 ∧
    w.ticks ≤ w.sys.node.timeout ∧ w.sys.node.timeout < VRR_ACTIVE_TIMEOUT) ?_ ?_
  · rcases hs with hactive | ⟨hactive, hcount⟩
    · exact Or.inl hactive
    · exact Or.inr ⟨hactive, Nat.zero_le _, hcount⟩
  · intro w i w' hw hstep
    obtain ⟨hlonely, hset⟩ := hstep
    rcases hw with hactive | ⟨hactive, hle, hcount⟩
    · exact Or.inl (active_stays hlonely.step hactive)
    · rcases counts_on hlonely.step hactive hcount hset with hflag | ⟨hflag, hnext, hlt⟩
      · exact Or.inl hflag
      · have hticks := hlonely.ticks
        exact Or.inr ⟨hflag, by omega, hlt⟩

/-- A node that has been on its own for `VRR_ACTIVE_TIMEOUT` ticks is active,
    when no packet of a known type has reached it inactive in that time. -/
theorem active_after_timeout (id : U32) (g : Nat → U32) (gm : Nat → MacAddr) (k k' : Kernel)
    (s : Sys) (w w' : Watch) (hrun : Reach Step (Sys.boot (vrr_init id g gm) k) s)
    (halone : Alone (fun s e => ¬ Resets s e) s w)
    (hlast : Lonely w (.vrr_workqueue_handler, k') w') (hticks : w'.ticks = VRR_ACTIVE_TIMEOUT) :
    w'.sys.node.active = 1 := by
  have hlimit : 0 < VRR_ACTIVE_TIMEOUT := by decide
  have hs : Clocked s :=
    hrun.invariant Clocked (Or.inr ⟨rfl, hlimit⟩) (fun _ _ _ hs h => clock_step h hs)
  have hset : ¬ Resets w.sys Event.vrr_workqueue_handler := by
    rintro ⟨_, skb, he, _⟩
    cases he
  have halone' : Alone (fun s e => ¬ Resets s e) s w' :=
    ⟨halone.1, halone.2.step _ ⟨hlast, hset⟩⟩
  rcases counted_of_alone hs halone' with hactive | ⟨_, hle, hlt⟩
  · exact hactive
  · omega

/-- The node after an event on its own, or `none` when it was not. -/
def watch_event (w : Watch) (i : Event × Kernel) : Option Watch :=
  match i.1.run { w.sys with kern := i.2 } with
  | .ok (_, t) =>
      if t.node.vset.list = [] ∧ (i.1 = .vrr_workqueue_handler ∨ 0 < w.ticks) then
        some ⟨t, w.ticks + i.1.ticks⟩
      else none
  | .error _ => none

theorem lonely_of_watch_event (w w' : Watch) (i : Event × Kernel) (hhello : ¬ ActiveHello i.1)
    (h : watch_event w i = some w') : Lonely w i w' := by
  unfold watch_event at h
  cases hrun : i.1.run { w.sys with kern := i.2 } with
  | error e =>
      rw [hrun] at h
      cases h
  | ok p =>
      rw [hrun] at h
      simp only at h
      split_ifs at h with hok
      obtain rfl := Option.some.inj h
      exact ⟨hrun, rfl, hok.2, hok.1, hhello⟩

/-- Events of node 1 on its own, and a tick at which `q` holds. -/
theorem alone_of_events (c : Sys → Event → Prop) (q : Watch → Bool) (l : List (Event × Kernel))
    (hl : ∀ i ∈ l, ¬ ActiveHello i.1 ∧ ∀ s, c s i.1)
    (h : (l.foldlM watch_event ⟨node_one, 0⟩).any (fun w =>
      (watch_event w (.vrr_workqueue_handler, Kernel.calm)).any q) = true) :
    ∃ w w' k, Alone c node_one w ∧ Lonely w (.vrr_workqueue_handler, k) w' ∧ q w' = true := by
  obtain ⟨w, hw, hnext⟩ := (Option.any_eq_true _ _).mp h
  obtain ⟨w', hw', hq⟩ := (Option.any_eq_true _ _).mp hnext
  have hreach : ∀ (l : List (Event × Kernel)) (v : Watch),
      (∀ i ∈ l, ¬ ActiveHello i.1 ∧ ∀ s, c s i.1) →
      Reach (fun w i w' => Lonely w i w' ∧ c w.sys i.1) ⟨node_one, 0⟩ v →
      l.foldlM watch_event v = some w →
      Reach (fun w i w' => Lonely w i w' ∧ c w.sys i.1) ⟨node_one, 0⟩ w := by
    intro l
    induction l with
    | nil =>
        intro v _ hv hfold
        obtain rfl := Option.some.inj hfold
        exact hv
    | cons i rest ih =>
        intro v hl hv hfold
        obtain ⟨hhello, hc⟩ := hl i List.mem_cons_self
        rw [List.foldlM_cons] at hfold
        obtain ⟨u, hu, hrest⟩ := Option.bind_eq_some_iff.mp hfold
        exact ih u (fun j hj => hl j (List.mem_cons_of_mem i hj))
          (hv.step i ⟨lonely_of_watch_event v u i hhello hu, hc _⟩) hrest
  have hhello : ¬ ActiveHello Event.vrr_workqueue_handler := by
    rintro ⟨_, _, he, _⟩
    cases he
  exact ⟨w, w', Kernel.calm, ⟨rfl, hreach l _ hl Reach.refl hw⟩,
    lonely_of_watch_event w w' _ hhello hw', hq⟩

/-- Seven ticks and an eighth. -/
theorem active_after_eight :
    ∃ w w' k, Alone (fun s e => ¬ Resets s e) node_one w ∧
      Lonely w (.vrr_workqueue_handler, k) w' ∧ w'.sys.node.active = 1 := by
  have hl : ∀ i ∈ List.replicate 7 (Event.vrr_workqueue_handler, Kernel.calm),
      ¬ ActiveHello i.1 ∧ ∀ s, ¬ Resets s i.1 := by
    intro i hi
    rw [List.eq_of_mem_replicate hi]
    constructor
    · rintro ⟨_, _, he, _⟩
      cases he
    · rintro s ⟨_, _, he, _⟩
      cases he
  obtain ⟨w, w', k, halone, hlast, hq⟩ := alone_of_events (fun s e => ¬ Resets s e)
    (fun w => decide (w.ticks = VRR_ACTIVE_TIMEOUT)) _ hl (by decide +kernel)
  exact ⟨w, w', k, halone, hlast, active_after_timeout 1 _ _ Kernel.calm k node_one w w' Reach.refl
    halone hlast (decide_eq_true_eq.mp hq)⟩

/-- A hello from an inactive node after the first of eight ticks. -/
theorem inactive_after_eight :
    ∃ w w' k, Alone (fun _ _ => True) node_one w ∧ Lonely w (.vrr_workqueue_handler, k) w' ∧
      w'.ticks = VRR_ACTIVE_TIMEOUT ∧ w'.sys.node.active = 0 := by
  have hl : ∀ i ∈ (Event.vrr_workqueue_handler, Kernel.calm) ::
      (.vrr_rcv (frame 2 VRR_HELLO 2 0 [0, 0, 0, 0]), Kernel.calm) ::
      List.replicate 6 (.vrr_workqueue_handler, Kernel.calm),
      ¬ ActiveHello i.1 ∧ ∀ _ : Sys, True := by
    intro i hi
    refine ⟨?_, fun _ => trivial⟩
    rintro ⟨skb, w, he, _, hw, hne⟩
    rcases List.mem_cons.mp hi with rfl | hi
    · cases he
    rcases List.mem_cons.mp hi with rfl | hi
    · obtain rfl := Event.vrr_rcv.inj he
      have hzero : word (frame 2 VRR_HELLO 2 0 [0, 0, 0, 0]).pkt vrr_header_size = some 0 := by
        decide +kernel
      rw [hzero] at hw
      exact hne (Option.some.inj hw).symm
    · rw [List.eq_of_mem_replicate hi] at he
      cases he
  obtain ⟨w, w', k, halone, hlast, hq⟩ := alone_of_events (fun _ _ => True)
    (fun w => decide (w.ticks = VRR_ACTIVE_TIMEOUT) && decide (w.sys.node.active = 0)) _ hl
    (by decide +kernel)
  rw [Bool.and_eq_true, decide_eq_true_eq, decide_eq_true_eq] at hq
  exact ⟨w, w', k, halone, hlast, hq.1, hq.2⟩

end AlpacaVrr
