import AlpacaVrr.Theory.Greetings
import AlpacaVrr.Theory.Provenance

/-!
# The Handshake

How neighbours get to know each other, from whatever their sets may hold.

For two neighbours a hello of one of them is a move. It takes the state that the
other one has it in to the next, by how the hello lists the other one. A round
is a move of each, in one order or the other, and three rounds are enough to
come from any pair of states to the one in which both are linked.

It takes a while until nothing else has a say in it. An entry whose node is
never heard is counted up in every round. It is failed after four of them, and
listed no more, and gone after eight. The count of a neighbour never gets far
enough for that, once its hello has been heard. And when only neighbours are
listed the lists are short enough for every hello to be taken in.

So the state of the nodes at the start does not matter. They may have old
entries, forged entries, or none.

## Main definitions

* `meet`: One hello, seen by two neighbours.
* `rounds_left`: How many rounds two neighbours still need.
* `Recent`, `Aged`: What the fail counts tell.
* `Along`, `Midway`: One node and all nodes, in the middle of a round.
* `Lived`: A node with any history.

## Theorems

* `rounds_left_meet`: A round brings two neighbours closer.
* `midway_beacon`: One hello in the middle of a round.
* `round_forward`: A whole round.
* `neighbours_found`: After eight rounds everybody has its neighbours linked.
-/

namespace AlpacaVrr

open FaultState

section Pair

/-- A hello of `z`, seen by `x` and `y`. The pair is the state of `y` at `x`, and
    that of `x` at `y`. -/
def meet (x y : U32) (v : PsetStatus × PsetStatus) (z : U32) : PsetStatus × PsetStatus :=
  if z = x then (v.1, hello_trans v.2 (advertised_as v.1))
  else if z = y then (hello_trans v.1 (advertised_as v.2), v.2)
  else v

/-- The rounds after which both are linked, whatever the order. -/
def rounds_left : PsetStatus × PsetStatus → Nat
  | (.linked, .linked) => 0
  | (.linked, .pending) => 1
  | (.pending, .linked) => 1
  | (.pending, .pending) => 1
  | (.linked, _) => 3
  | (_, .linked) => 3
  | _ => 2

theorem rounds_left_le (v : PsetStatus × PsetStatus) : rounds_left v ≤ 3 := by
  obtain ⟨a, b⟩ := v
  cases a <;> cases b <;> decide

theorem linked_of_rounds_left {v : PsetStatus × PsetStatus} (h : rounds_left v = 0) :
    v = (.linked, .linked) := by
  obtain ⟨a, b⟩ := v
  cases a <;> cases b <;> first | rfl | exact absurd h (by decide)

/-- A hello of each of them takes a round off, if there is one left. -/
theorem rounds_left_meet {x y : U32} (hne : x ≠ y) (v : PsetStatus × PsetStatus) :
    rounds_left (meet x y (meet x y v x) y) ≤ rounds_left v - 1 ∧
      rounds_left (meet x y (meet x y v y) x) ≤ rounds_left v - 1 := by
  obtain ⟨a, b⟩ := v
  simp only [meet, if_true, if_neg hne.symm]
  cases a <;> cases b <;> decide

/-- A round in which both have their turn. -/
theorem rounds_left_round {l ids : List U32} {x y : U32} (h : l.Perm ids) (hids : ids.Nodup)
    (hx : x ∈ ids) (hy : y ∈ ids) (hne : x ≠ y) (v : PsetStatus × PsetStatus) :
    rounds_left (l.foldl (meet x y) v) ≤ rounds_left v - 1 := by
  have hidle : ∀ v z, z ≠ x → z ≠ y → meet x y v z = v := by
    intro v z hzx hzy
    rw [meet, if_neg hzx, if_neg hzy]
  rcases Rounds.foldl_of_turns hidle h hids hx hy hne v with heq | heq
  · rw [heq]
    exact (rounds_left_meet hne v).1
  · rw [heq]
    exact (rounds_left_meet hne v).2

end Pair

/-- The count of `id` is at most `c`. -/
def Recent (c : Nat) (p : Pset) (id : U32) : Prop := ∀ e ∈ p, e.node = id → e.fail_count ≤ c

/-- An entry of `id` has been counted up `k` times at least, and this shows. -/
def Aged (k : Nat) (p : Pset) (id : U32) : Prop :=
  ∀ e ∈ p, e.node = id → k ≤ e.fail_count ∧ (VRR_FAIL_TIMEOUT ≤ k → e.status = .failed) ∧
    k < 2 * VRR_FAIL_TIMEOUT

section Counts

variable {p : Pset} {id : U32} {c k : Nat}

theorem Recent.mono (h : Recent c p id) {c' : Nat} (hle : c ≤ c') : Recent c' p id :=
  fun e he hid => Nat.le_trans (h e he hid) hle

theorem recent_counted (h : Recent c p id) : Recent (c + 1) (p.filterMap counted) id := by
  intro e he hid
  obtain ⟨e₀, he₀, _, hnode, hcount, _⟩ := mem_counted he
  rw [hcount]
  exact Nat.succ_le_succ (h e₀ he₀ (hnode ▸ hid))

/-- Updates leave the counts alone, and new entries start at zero. -/
theorem recent_updates (h : Recent c p id) (us : List PsetUpdate) :
    Recent c (us.foldl updated p) id := by
  intro e he hid
  have hmem : (e.node, e.fail_count) ∈ counts (us.foldl updated p) := List.mem_map_of_mem he
  rcases (counts_updates us p).2 _ hmem with hold | ⟨_, hzero⟩
  · obtain ⟨e₀, he₀, heq⟩ := List.mem_map.mp hold
    rw [Prod.mk.injEq] at heq
    rw [← heq.2]
    exact h e₀ he₀ (heq.1.trans hid)
  · exact Nat.le_trans (Nat.le_of_eq hzero) (Nat.zero_le c)

/-- The count of the node that is heard is reset. -/
theorem recent_heard (h : (pset_ids p).Nodup) (id : U32) :
    Recent 0 (pset_reset_fail_count p id) id := by
  intro e he hid
  unfold pset_reset_fail_count at he
  rw [on_first_eq_map _ _ p h] at he
  obtain ⟨e₀, _, rfl⟩ := List.mem_map.mp he
  by_cases h₀ : e₀.node = id
  · simp [h₀]
  · rw [if_neg h₀] at hid
    exact absurd hid h₀

theorem recent_reset (h : Recent c p id) (src : U32) :
    Recent c (pset_reset_fail_count p src) id := by
  intro e he hid
  rcases mem_on_first _ _ p e he with he | ⟨e', he', _, rfl⟩
  · exact h e he hid
  · exact Nat.zero_le c

/-- A count that is low enough does not change the state. -/
theorem status_counted (h : Recent c p id) (hlow : c + 1 < VRR_FAIL_TIMEOUT) :
    pset_get_status (p.filterMap counted) id = pset_get_status p id := by
  induction p with
  | nil => rfl
  | cons tmp rest ih =>
      have hrest := ih (fun e he => h e (List.mem_cons_of_mem tmp he))
      unfold pset_get_status pset_find at hrest ⊢
      by_cases hid : tmp.node = id
      · -- the entry that is found stays, with its state
        have hcount := h tmp List.mem_cons_self hid
        have hstays : counted tmp = some (Vrr.fail_entry tmp).1 := by
          refine if_neg (fun hdue => ?_)
          rw [Vrr.fail_entry_count] at hdue
          unfold VRR_FAIL_TIMEOUT at hlow hdue
          omega
        rw [List.filterMap_cons_some hstays, List.find?_cons_of_pos (by simp [hid]),
          List.find?_cons_of_pos (by simp [hid])]
        simp only [Vrr.fail_entry_status]
        rw [if_neg (by omega)]
      · rw [List.find?_cons_of_neg (by simp [hid])]
        cases hc : counted tmp with
        | none =>
            rw [List.filterMap_cons_none hc]
            exact hrest
        | some e =>
            have hnode : e.node = tmp.node := by
              rw [(counted_eq_some hc).1, Vrr.fail_entry_node]
            rw [List.filterMap_cons_some hc, List.find?_cons_of_neg (by simp [hnode, hid])]
            exact hrest

theorem aged_zero (p : Pset) (id : U32) : Aged 0 p id :=
  fun _ _ _ => ⟨Nat.zero_le _, fun h => absurd h (by decide), by decide⟩

theorem aged_counted (h : Aged k p id) : Aged (k + 1) (p.filterMap counted) id := by
  intro e he hid
  obtain ⟨e₀, he₀, rfl, hnode, hcount, hlt⟩ := mem_counted he
  have hold := (h e₀ he₀ (hnode ▸ hid)).1
  refine ⟨by omega, fun hdue => ?_, by omega⟩
  rw [Vrr.fail_entry_status, if_pos (by omega)]

theorem aged_updates (h : Aged k p id) {us : List PsetUpdate} (hus : ∀ u ∈ us, u.node ≠ id) :
    Aged k (us.foldl updated p) id := by
  induction us generalizing p with
  | nil => exact h
  | cons u us ih =>
      refine ih (fun e he hid => ?_) (fun u' hu' => hus u' (List.mem_cons_of_mem u hu'))
      rcases mem_updated p u e he with he | ⟨hnode, _⟩
      · exact h e he hid
      · exact absurd (hnode.symm.trans hid) (hus u List.mem_cons_self)

theorem aged_reset (h : Aged k p id) {src : U32} (hne : src ≠ id) :
    Aged k (pset_reset_fail_count p src) id := by
  intro e he hid
  rcases mem_on_first _ _ p e he with he | ⟨e', _, hnode, rfl⟩
  · exact h e he hid
  · exact absurd (hnode.symm.trans hid) hne

theorem well_kept_reset (h : WellKept p) (src : U32) :
    WellKept (pset_reset_fail_count p src) := by
  refine ⟨?_, fun e he => ?_⟩
  · rw [pset_ids_reset_fail_count]
    exact h.distinct
  · rcases mem_on_first _ _ p e he with he | ⟨e', he', _, rfl⟩
    · exact h.known e he
    · exact h.known e' he'

/-- Updates of others leave a state alone. -/
theorem status_updates_other {us : List PsetUpdate} (hus : ∀ u ∈ us, u.node ≠ id) :
    pset_get_status (us.foldl updated p) id = pset_get_status p id := by
  have hmine : Keyed.mine PsetUpdate.node us id = [] := by
    rw [Keyed.mine, List.filter_eq_nil_iff]
    exact fun u hu => by simpa using hus u hu
  rw [pset_get_status_eq, updated_local.view_foldl, hmine, pset_get_status_eq]
  rfl

/-- An update of its own takes it to the next one. -/
theorem status_updated (h : WellKept p) (u : PsetUpdate) :
    pset_get_status (updated p u) u.node = hello_trans (pset_get_status p u.node) u.trans := by
  rw [pset_get_status_eq, updated_local.same,
    (state_after_hello (storable_of_well_kept h _) u).1, pset_get_status_eq]

end Counts

/-- Whether a turn is done. -/
def turns (done : List U32) (x : U32) : Nat := if x ∈ done then 1 else 0

theorem turns_self (done : List U32) (x : U32) : turns (done ++ [x]) x = 1 :=
  if_pos (List.mem_append_right done (List.mem_singleton_self x))

theorem turns_other (done : List U32) {x z : U32} (hne : x ≠ z) :
    turns (done ++ [z]) x = turns done x := by
  simp [turns, hne]

theorem turns_of_not_mem {done : List U32} {x : U32} (h : x ∉ done) : turns done x = 0 :=
  if_neg h

/-- A node after `k` rounds and the turns of `done`. -/
structure Along (a : Medium) (k : Nat) (done : List U32) (x : U32) (n : Node) : Prop where
  me : n.me = x
  pset : WellKept n.pset
  lists : Advertises n.pstate n.pset
  idle : n.pset_updates = []
  recent : ∀ y ∈ a.near x, 0 < k ∨ y ∈ done →
    Recent (1 - turns done y + turns done x) n.pset y
  aged : ∀ z, z ∉ a.near x → Aged (k + turns done x) n.pset z

section Turns

variable {a : Medium} {k : Nat} {done : List U32} {x : U32} {n m : Node}

/-- The timer goes off at the node. -/
theorem along_ticked (h : Along a k done x n) (hx : x ∉ done) (hm : Ticked n m) :
    Along a k (done ++ [x]) x m := by
  have hturn := turns_of_not_mem hx
  refine ⟨hm.me.trans h.me, ?_, hm.lists, hm.queue.trans h.idle, fun y hy hdone => ?_,
    fun z hz => ?_⟩
  · rw [hm.pset]
    exact well_kept_after h.pset .vrr_workqueue_handler
  · have hne : y ≠ x := fun heq => a.irrefl x (heq ▸ hy)
    have hbefore := h.recent y hy (by simpa [hne] using hdone)
    rw [turns_other done hne, turns_self, hm.pset]
    rw [hturn] at hbefore
    exact recent_counted hbefore
  · have hbefore := h.aged z hz
    rw [hturn] at hbefore
    rw [turns_self, hm.pset]
    exact aged_counted hbefore

/-- The node hears a neighbour. -/
theorem along_informed {z : U32} {skb : SkBuff} {us : List PsetUpdate} (h : Along a k done x n)
    (hz : z ∈ a.near x) (hus : Greets.By n.me skb us) (hsrc : skb.pkt.src = z)
    (hm : Informed n z us m) : Along a k (done ++ [z]) x m := by
  have hne : x ≠ z := fun heq => a.irrefl x (heq ▸ hz)
  have hpset := hm.pset
  rw [h.idle, List.nil_append] at hpset
  refine ⟨hm.me.trans h.me, ?_, hm.lists, hm.queue, fun y hy hdone => ?_, fun v hv => ?_⟩
  · rw [hpset]
    exact well_kept_updates (well_kept_reset h.pset z) us
  · rw [turns_other done hne, hpset]
    by_cases hyz : y = z
    · -- its count is reset
      rw [hyz, turns_self]
      exact (recent_updates (recent_heard h.pset.distinct z) us).mono (by omega)
    · rw [turns_other done hyz]
      exact recent_updates (recent_reset (h.recent y hy (by simpa [hyz] using hdone)) z) us
  · have hvz : z ≠ v := fun heq => hv (heq ▸ hz)
    rw [turns_other done hne, hpset]
    refine aged_updates (aged_reset (h.aged v hv) hvz) (fun u hu => ?_)
    rw [hus.node u hu, hsrc]
    exact hvz

/-- The node has nothing to do with it. -/
theorem along_other {z : U32} (h : Along a k done x n) (hne : z ≠ x) (hz : z ∉ a.near x) :
    Along a k (done ++ [z]) x n := by
  refine ⟨h.me, h.pset, h.lists, h.idle, fun y hy hdone => ?_, fun v hv => ?_⟩
  · have hyz : y ≠ z := fun heq => hz (heq ▸ hy)
    rw [turns_other done hne.symm, turns_other done hyz]
    exact h.recent y hy (by simpa [hyz] using hdone)
  · rw [turns_other done hne.symm]
    exact h.aged v hv

/-- After four rounds the node lists none but its neighbours. -/
theorem listed_near (h : Along a k done x n) (hk : VRR_FAIL_TIMEOUT ≤ k) {e : PsetEntry}
    (he : e ∈ n.pset) (hst : e.status ≠ .failed) : e.node ∈ a.near x := by
  by_contra hfar
  exact hst ((h.aged e.node hfar e he rfl).2.1 (Nat.le_trans hk (Nat.le_add_right _ _)))

/-- So each of its lists has room in a hello. -/
theorem listed_few (h : Along a k done x n) (hk : VRR_FAIL_TIMEOUT ≤ k) (c : PsetEntry → Bool)
    (hc : ∀ e, c e = true → e.status ≠ .failed) : (n.pset.filter c).length ≤ VRR_PSET_SIZE := by
  have hdistinct : ((n.pset.filter c).map PsetEntry.node).Nodup :=
    h.pset.distinct.sublist (List.filter_sublist.map _)
  have hsub : (n.pset.filter c).map PsetEntry.node ⊆ a.near x := by
    intro y hy
    obtain ⟨e, he, rfl⟩ := List.mem_map.mp hy
    obtain ⟨he, hpass⟩ := List.mem_filter.mp he
    exact listed_near h hk he (hc e hpass)
  have hlen := (hdistinct.subperm hsub).length_le
  rw [List.length_map] at hlen
  exact Nat.le_trans hlen (a.few x)

/-- And its hello is taken in as it is. -/
theorem greets_hello_of (h : Along a k done x n) (hk : VRR_FAIL_TIMEOUT ≤ k) :
    Greets (hello_of n) n.active (elements n.pstate.l_active n.pstate.la_size)
      (elements n.pstate.l_not_active n.pstate.lna_size)
      (elements n.pstate.pending n.pstate.p_size) := by
  have hdata : hpkt_data n.active n.pstate =
      hello_front n.active (elements n.pstate.l_active n.pstate.la_size)
        (elements n.pstate.l_not_active n.pstate.lna_size)
        (elements n.pstate.pending n.pstate.p_size) ++
      elements n.pstate.l_active n.pstate.la_size ++
      elements n.pstate.l_not_active n.pstate.lna_size ++
      elements n.pstate.pending n.pstate.p_size := by
    rw [hello_front, length_elements, length_elements, length_elements]
    rfl
  unfold hello_of
  rw [hdata]
  refine greets_payload _ _ _ _ _ ?_ ?_ ?_
  · rw [h.lists.l_active.ids, List.length_map]
    exact listed_few h hk linked_active (fun e he => by simp [(of_decide_eq_true he).1])
  · rw [h.lists.l_not_active.ids, List.length_map]
    exact listed_few h hk linked_not_active (fun e he => by simp [(of_decide_eq_true he).1])
  · rw [h.lists.pending.ids, List.length_map]
    exact listed_few h hk is_pending (fun e he => by simp [of_decide_eq_true he])

/-- Its count is too low for the timer to change the state of a neighbour. -/
theorem status_ticked (h : Along a k done x n) (hx : x ∉ done) (hk : 0 < k) (hm : Ticked n m)
    {y : U32} (hy : y ∈ a.near x) : pset_get_status m.pset y = pset_get_status n.pset y := by
  have hrecent := h.recent y hy (Or.inl hk)
  rw [turns_of_not_mem hx] at hrecent
  have hlow : Recent 1 n.pset y := hrecent.mono (by omega)
  rw [hm.pset]
  exact status_counted hlow (by decide)

/-- A hello says in which state its sender has the node, and it changes the
    state of the sender by that. -/
theorem status_informed {done' : List U32} {z : U32} {s : Node} {skb : SkBuff}
    {us : List PsetUpdate} (h : Along a k done x n) (hs : Along a k done' z s)
    (hk : VRR_FAIL_TIMEOUT ≤ k) (hus : Greets.By n.me skb us) (hpkt : skb.pkt = hello_of s)
    (hm : Informed n z us m) (y : U32) :
    pset_get_status m.pset y =
      if z = y then
        hello_trans (pset_get_status n.pset y) (advertised_as (pset_get_status s.pset x))
      else pset_get_status n.pset y := by
  have hsrc : skb.pkt.src = z := by rw [hpkt, hello_of_src, hs.me]
  have hpset := hm.pset
  rw [h.idle, List.nil_append] at hpset
  rw [hpset]
  by_cases hyz : z = y
  · have hgreets := greets_hello_of hs hk
    rw [← hpkt] at hgreets
    rw [if_pos hyz, ← hyz, hus.whole _ _ _ _ hgreets, h.me,
      hello_listed_of_advertises hs.lists hs.pset, hsrc]
    have hone := status_updated (well_kept_reset h.pset z)
      ⟨z, skb.h_source, advertised_as (pset_get_status s.pset x), s.active⟩
    rw [pset_get_status_reset_fail_count] at hone
    exact hone
  · rw [if_neg hyz, status_updates_other (fun u hu => ?_), pset_get_status_reset_fail_count]
    rw [hus.node u hu, hsrc]
    exact hyz

end Turns

/-- All nodes, in the middle of a round. -/
def Midway (a : Medium) (k : Nat) (done : List U32) (net : Network) : Prop :=
  ∀ x ∈ a.ids, Along a k done x (net.nodes x)

/-- The state of `y` at `x`. -/
def Network.state (net : Network) (x y : U32) : PsetStatus := pset_get_status (net.nodes x).pset y

/-- A round in which `done` have had their turns. Two neighbours have gone on as
    they see it, once only neighbours are listed. -/
structure Forth (a : Medium) (k : Nat) (start : Network) (done : List U32) (net : Network) :
    Prop where
  mid : Midway a k done net
  pairs : VRR_FAIL_TIMEOUT ≤ k → ∀ x ∈ a.ids, ∀ y ∈ a.near x,
    (net.state x y, net.state y x) = done.foldl (meet x y) (start.state x y, start.state y x)

/-- The nodes after `k` rounds. Behind the first four, three more are enough for
    any two neighbours. -/
structure Closer (a : Medium) (k : Nat) (net : Network) : Prop where
  mid : Midway a k [] net
  left : VRR_FAIL_TIMEOUT ≤ k → ∀ x ∈ a.ids, ∀ y ∈ a.near x,
    rounds_left (net.state x y, net.state y x) ≤ VRR_FAIL_TIMEOUT + 3 - k

section Rounds

variable {w : World} (hw : w.Reliable) {a : Medium} {k : Nat}

include hw

/-- A hello in the middle of a round. Once only neighbours are listed, it
    changes the states at its hearers as the table says, and no others. -/
theorem midway_beacon {done : List U32} {net : Network} (h : Midway a k done net) (b : Beacon)
    (hid : b.id ∈ a.ids) (hnew : b.id ∉ done) (hhearers : b.hearers.Perm (a.near b.id)) :
    ∃ net', net.beacon w b = some net' ∧ Midway a k (done ++ [b.id]) net' ∧
      (VRR_FAIL_TIMEOUT ≤ k → ∀ x ∈ a.ids, ∀ y ∈ a.near x, net'.state x y =
        if b.id = y then hello_trans (net.state x y) (advertised_as (net.state y x))
        else net.state x y) := by
  have hids : ∀ z, z = b.id ∨ z ∈ b.hearers → z ∈ a.ids := by
    rintro z (rfl | hz)
    · exact hid
    · exact a.near_ids b.id z (hhearers.mem_iff.mp hz)
  obtain ⟨net', hrun, hticked, hheard, hrest⟩ := Network.beacon_spec hw net b
    (hhearers.nodup_iff.mpr (a.near_distinct b.id))
    (fun hin => a.irrefl b.id (hhearers.mem_iff.mp hin))
    (fun z hz => (h z (hids z hz)).lists)
  have hsender := along_ticked (h b.id hid) hnew hticked
  have hsrc : (hello_of (net'.nodes b.id)).src = b.id := by rw [hello_of_src, hsender.me]
  refine ⟨net', hrun, fun x hx => ?_, fun hk x hx y hy => ?_⟩
  · by_cases hxb : x = b.id
    · rw [hxb]
      exact hsender
    by_cases hnear : b.id ∈ a.near x
    · obtain ⟨us, hus, hm⟩ := hheard x (hhearers.mem_iff.mpr (a.symm _ _ hnear))
      rw [(h b.id hid).me] at hm
      exact along_informed (h x hx) hnear hus hsrc hm
    · rw [hrest x hxb (fun hin => hnear (a.symm _ _ (hhearers.mem_iff.mp hin)))]
      exact along_other (h x hx) (fun heq => hxb heq.symm) hnear
  · unfold Network.state
    have hpos : 0 < k := Nat.lt_of_lt_of_le (by decide) hk
    by_cases hxb : x = b.id
    · -- the sender's own set is counted, and it is no neighbour of itself
      subst hxb
      have hne : b.id ≠ y := fun heq => a.irrefl y (heq ▸ hy)
      rw [if_neg hne]
      exact status_ticked (h b.id hid) hnew hpos hticked hy
    by_cases hnear : b.id ∈ a.near x
    · obtain ⟨us, hus, hm⟩ := hheard x (hhearers.mem_iff.mpr (a.symm _ _ hnear))
      rw [(h b.id hid).me] at hm
      rw [status_informed (h x hx) hsender hk hus rfl hm y,
        status_ticked (h b.id hid) hnew hpos hticked (a.symm _ _ hnear)]
      by_cases hyb : b.id = y
      · rw [if_pos hyb, if_pos hyb, hyb]
      · rw [if_neg hyb, if_neg hyb]
    · have hne : b.id ≠ y := fun heq => hnear (heq ▸ hy)
      rw [if_neg hne, hrest x hxb (fun hin => hnear (a.symm _ _ (hhearers.mem_iff.mp hin)))]

omit hw in
/-- For two neighbours this is a hello as they see it. -/
theorem meet_of_states {net net' : Network} {x y z : U32}
    (hxy : net'.state x y =
      if z = y then hello_trans (net.state x y) (advertised_as (net.state y x))
      else net.state x y)
    (hyx : net'.state y x =
      if z = x then hello_trans (net.state y x) (advertised_as (net.state x y))
      else net.state y x) (hne : x ≠ y) :
    (net'.state x y, net'.state y x) = meet x y (net.state x y, net.state y x) z := by
  unfold meet
  rw [hxy, hyx]
  by_cases hzx : z = x
  · have hzy : z ≠ y := fun h => hne (hzx.symm.trans h)
    simp only [if_pos hzx, if_neg hzy]
  · simp only [if_neg hzx]
    split_ifs <;> rfl

omit hw in
/-- When everybody has had a turn, a round is over. -/
theorem midway_next {l : List U32} {net : Network} (h : Midway a k l net)
    (hl : ∀ x ∈ a.ids, x ∈ l) : Midway a (k + 1) [] net := by
  intro x hx
  have hx' := h x hx
  have hturn : ∀ y ∈ a.ids, turns l y = 1 := fun y hy => if_pos (hl y hy)
  refine ⟨hx'.me, hx'.pset, hx'.lists, hx'.idle, fun y hy _ => ?_, fun z hz => ?_⟩
  · have hy' := a.near_ids x y hy
    have hrecent := hx'.recent y hy (Or.inr (hl y hy'))
    rw [hturn x hx, hturn y hy'] at hrecent
    exact hrecent
  · have haged := hx'.aged z hz
    rw [hturn x hx] at haged
    exact haged

/-- A hello more in a round. -/
theorem forth_beacon {start net : Network} {done : List U32} (h : Forth a k start done net)
    (b : Beacon) (hid : b.id ∈ a.ids) (hnew : b.id ∉ done)
    (hhearers : b.hearers.Perm (a.near b.id)) :
    ∃ net', net.beacon w b = some net' ∧ Forth a k start (done ++ [b.id]) net' := by
  obtain ⟨net', hrun, hmid, hstates⟩ := midway_beacon hw h.mid b hid hnew hhearers
  refine ⟨net', hrun, hmid, fun hk x hx y hy => ?_⟩
  rw [List.foldl_append, ← h.pairs hk x hx y hy]
  have hne : x ≠ y := fun heq => a.irrefl y (heq ▸ hy)
  exact meet_of_states (hstates hk x hx y hy)
    (hstates hk y (a.near_ids x y hy) x (a.symm x y hy)) hne

/-- A round goes through. -/
theorem forth_round {net : Network} (h : Midway a k [] net) {r : List Beacon} (hr : a.Round r) :
    ∃ net', Rounds.perform (Network.beacon w) net r = some net' ∧
      Forth a k net (r.map Beacon.id) net' := by
  have hnodup : (r.map Beacon.id).Nodup := hr.1.nodup_iff.mpr a.distinct
  refine Rounds.perform_of_prefix (Network.beacon w)
    (fun done net' => Forth a k net (done.map Beacon.id) net') r
    (fun done b rest net₁ hl hI => ?_) net ⟨h, fun _ _ _ _ _ => rfl⟩
  have hmem : b ∈ r := by simp [hl]
  have hid : b.id ∈ a.ids := hr.1.mem_iff.mp (List.mem_map_of_mem hmem)
  have hnew : b.id ∉ done.map Beacon.id := by
    rw [hl, List.map_append] at hnodup
    exact fun hin => List.disjoint_of_nodup_append hnodup hin List.mem_cons_self
  rw [List.map_append]
  exact forth_beacon hw hI b hid hnew (hr.2 b hmem)

/-- It takes two neighbours closer to each other, once only neighbours are
    listed. -/
theorem closer_round {net : Network} (h : Closer a k net) {r : List Beacon} (hr : a.Round r) :
    ∃ net', Rounds.perform (Network.beacon w) net r = some net' ∧ Closer a (k + 1) net' := by
  obtain ⟨net', hrun, hmid, hpairs⟩ := forth_round hw h.mid hr
  refine ⟨net', hrun, midway_next hmid (fun x hx => hr.1.mem_iff.mpr hx), fun hk' x hx y hy => ?_⟩
  by_cases hk : VRR_FAIL_TIMEOUT ≤ k
  · have hle := h.left hk x hx y hy
    have hne : x ≠ y := fun heq => a.irrefl y (heq ▸ hy)
    have hround := rounds_left_round hr.1 a.distinct hx (a.near_ids x y hy) hne
      (net.state x y, net.state y x)
    rw [hpairs hk x hx y hy]
    omega
  · -- three are left at most, when the first four are over
    have hthree := rounds_left_le (net'.state x y, net'.state y x)
    omega

end Rounds

/-- A node with a history, and nothing left to be worked off. -/
def Lived (id : U32) (n : Node) : Prop :=
  n.pset_updates = [] ∧
    ∃ g gm k s, Reach Step (Sys.boot (vrr_init id g gm) k) s ∧ s.node = n

/-- Nothing need be known of it. -/
theorem along_of_lived {a : Medium} {id : U32} {n : Node} (h : Lived id n) :
    Along a 0 [] id n := by
  obtain ⟨hidle, g, gm, k, s, hrun, rfl⟩ := h
  have hme : s.node.me = id :=
    hrun.invariant (fun t => t.node.me = id) rfl (fun _ _ _ hu hstep => (step_me hstep).trans hu)
  refine ⟨hme, well_kept_of_reach id g gm k s hrun, advertised_exact id g gm k s hrun, hidle,
    fun y _ hy => ?_, fun z _ => aged_zero _ z⟩
  rcases hy with hy | hy
  · exact absurd hy (Nat.lt_irrefl 0)
  · exact absurd hy List.not_mem_nil

/-- Eight rounds are enough. -/
theorem found_of_closer {a : Medium} {k : Nat} {net : Network} (h : Closer a k net)
    (hk : 2 * VRR_FAIL_TIMEOUT ≤ k) {x : U32} (hx : x ∈ a.ids) :
    (pset_ids (net.nodes x).pset).Perm (a.near x) ∧
      ∀ e ∈ (net.nodes x).pset, e.status = .linked := by
  have hdistinct := (h.mid x hx).pset.distinct
  -- strangers are gone, and neighbours are linked
  have hnear : ∀ e ∈ (net.nodes x).pset, e.node ∈ a.near x := by
    intro e he
    by_contra hfar
    have hlt := ((h.mid x hx).aged e.node hfar e he rfl).2.2
    omega
  have hlinked : ∀ y ∈ a.near x, pset_get_status (net.nodes x).pset y = .linked := by
    intro y hy
    unfold VRR_FAIL_TIMEOUT at hk
    have hleft := h.left (by unfold VRR_FAIL_TIMEOUT; omega) x hx y hy
    unfold VRR_FAIL_TIMEOUT at hleft
    exact congrArg Prod.fst (linked_of_rounds_left (v := (net.state x y, net.state y x)) (by omega))
  refine ⟨(List.perm_ext_iff_of_nodup hdistinct (a.near_distinct x)).mpr (fun y => ?_),
    fun e he => ?_⟩
  · constructor
    · intro hy
      obtain ⟨e, he, rfl⟩ := List.mem_map.mp hy
      exact hnear e he
    · intro hy
      exact mem_of_pset_get_status _ y (by rw [hlinked y hy]; decide)
  · rw [← status_of_mem hdistinct he]
    exact hlinked e.node (hnear e he)

/-- From whatever states the nodes are in, eight rounds of hellos or more come to
    an end, and then the physical set of every node consists of its neighbours,
    each of them once, and all of them linked. -/
theorem neighbours_found (w : World) (hw : w.Reliable) (a : Medium) (net : Network)
    (hlived : ∀ x ∈ a.ids, Lived x (net.nodes x)) (rounds : List (List Beacon))
    (hrounds : ∀ r ∈ rounds, a.Round r) (hlong : 2 * VRR_FAIL_TIMEOUT ≤ rounds.length) :
    ∃ net', Rounds.perform (Network.beacon w) net rounds.flatten = some net' ∧
      ∀ x ∈ a.ids, (pset_ids (net'.nodes x).pset).Perm (a.near x) ∧
        ∀ e ∈ (net'.nodes x).pset, e.status = .linked := by
  have hstart : Closer a 0 net :=
    ⟨fun x hx => along_of_lived (hlived x hx), fun h => absurd h (by decide)⟩
  obtain ⟨net', hrun, hcloser⟩ := Rounds.perform_rounds (Network.beacon w) (Closer a) rounds
    (fun r hr k net h => closer_round hw h (hrounds r hr)) 0 net hstart
  rw [Nat.zero_add] at hcloser
  exact ⟨net', hrun, fun x hx => found_of_closer hcloser hlong hx⟩

/-- The nodes 1 and 2, side by side. -/
def near_two (x : U32) : List U32 := if x = 1 then [2] else if x = 2 then [1] else []

theorem mem_near_two (x y : U32) : y ∈ near_two x ↔ x = 1 ∧ y = 2 ∨ x = 2 ∧ y = 1 := by
  unfold near_two
  split_ifs with h1 h2
  · subst h1
    simp
  · subst h2
    simp
  · simp only [List.not_mem_nil, h1, h2, false_and, or_self]

def medium_two : Medium where
  ids := [1, 2]
  near := near_two
  distinct := by decide
  near_distinct x := by
    unfold near_two
    split_ifs <;> simp
  few x := by
    unfold near_two
    split_ifs <;> decide
  near_ids x y h := by
    rcases (mem_near_two x y).mp h with ⟨_, rfl⟩ | ⟨_, rfl⟩ <;> decide
  symm x y h := by
    rw [mem_near_two] at h ⊢
    exact h.symm.imp And.symm And.symm
  irrefl x h := by
    rcases (mem_near_two x x).mp h with ⟨rfl, h⟩ | ⟨rfl, h⟩ <;> exact absurd h (by decide)

/-- Node 1 has been started again. Node 2 still has it linked, and has an entry
    for a node 9 that is not there. -/
theorem neighbours_found_two :
    ∃ net net', (net.nodes 1).pset = [] ∧
      (net.nodes 2).pset.map (fun e => (e.node, e.status)) = [(9, .pending), (1, .linked)] ∧
      Rounds.perform (Network.beacon ⟨fun _ => Kernel.calm, fun id => id.setWidth 48⟩) net
        (List.replicate 8 [⟨1, [2]⟩, ⟨2, [1]⟩]).flatten = some net' ∧
      (pset_ids (net'.nodes 1).pset).Perm [2] ∧ (pset_ids (net'.nodes 2).pset).Perm [1] := by
  let two : Sys := Sys.boot (vrr_init 2 (fun _ => 0) (fun _ => 0)) Kernel.calm
  have heval : (run_events two ([.vrr_rcv (frame 1 VRR_HELLO 1 0 [1, 0, 0, 1, 2]),
      .vrr_rcv (frame 9 VRR_HELLO 9 0 [0, 0, 0, 0]), .pset_update_handler].map
      (fun e => (e, Kernel.calm)))).map
      (fun t => (t.node.pset_updates, t.node.pset.map (fun e => (e.node, e.status)))) =
      some ([], [(9, .pending), (1, .linked)]) := by
    decide +kernel
  obtain ⟨t, ht, hpset⟩ := Option.map_eq_some_iff.mp heval
  rw [Prod.mk.injEq] at hpset
  have hreach := (reach_run_events (fun _ => True) two two t _ Reach.refl
    (fun _ _ => trivial) ht).mono (fun _ _ _ h => h.1)
  let net : Network := ⟨fun id => if id = 2 then t.node else node_one.node, [], []⟩
  have hlived : ∀ x ∈ medium_two.ids, Lived x (net.nodes x) := by
    intro x hx
    rcases List.mem_cons.mp hx with rfl | hx
    · exact ⟨rfl, fun _ => 0, fun _ => 0, Kernel.calm, node_one, Reach.refl, rfl⟩
    · rw [List.mem_singleton.mp hx]
      exact ⟨hpset.1, fun _ => 0, fun _ => 0, Kernel.calm, t, hreach, rfl⟩
  obtain ⟨net', hrun, hfound⟩ := neighbours_found ⟨fun _ => Kernel.calm, fun id => id.setWidth 48⟩
    (fun _ _ => rfl) medium_two net hlived (List.replicate 8 [⟨1, [2]⟩, ⟨2, [1]⟩])
    (fun r hr => by
      rw [List.eq_of_mem_replicate hr]
      refine ⟨List.Perm.refl _, fun b hb => ?_⟩
      rcases List.mem_cons.mp hb with rfl | hb
      · exact List.Perm.refl _
      · rw [List.mem_singleton.mp hb]
        exact List.Perm.refl _) (by decide)
  exact ⟨net, net', rfl, hpset.2, hrun, (hfound 1 (by decide)).1, (hfound 2 (by decide)).1⟩

end AlpacaVrr
