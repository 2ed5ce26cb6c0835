import AlpacaVrr.Core.System
import AlpacaVrr.Theory.Handlers

/-!
# The Advertised Neighbours

Whether the cached lists that a hello is made of agree with the physical set.

`pset_state_update` rebuilds the lists. It is not called after every change:
not when an update changes nothing, not when an entry is deleted, and not when
the fail counts are counted up. `Advertises` is the agreement, and it does not
look at the fail counts. What makes the deletion harmless is that
`detect_failures` marks an entry failed before it deletes it. The count at
which an entry is deleted is past the one at which it is marked, so by then it
is in none of the lists, whatever an update has done to it in between.

The lists are the first elements of arrays. `elements` reads them, and the
arrays are taken to be long enough.

## Main definitions

* `elements`: The first elements of an array.
* `Lists`: Two arrays hold the ids and the addresses of some entries.
* `Advertises`: The cached lists agree with the physical set.

## Theorems

* `advertises_pset_state_update`: Rebuilding the lists makes them agree.
* `advertises_of_classes`: They stay so while no entry changes its class.
* `vrr_rcv_advertises`, `pset_update_handler_advertises`,
  `vrr_workqueue_handler_advertises`: Every event keeps the agreement.
* `advertised_exact`: They agree in every reachable state.
-/

namespace AlpacaVrr

open FaultState

/-- The first `n` elements of an array. -/
def elements {α : Type} (a : Nat → α) (n : Nat) : List α := (List.range n).map a

/-- Writing behind the elements appends one. -/
theorem elements_update {α : Type} (a : Nat → α) (n : Nat) (x : α) :
    elements (Function.update a n x) (n + 1) = elements a n ++ [x] := by
  unfold elements
  rw [List.range_succ, List.map_append, List.map_singleton, Function.update_self]
  congr 1
  exact List.map_congr_left (fun i hi => Function.update_of_ne (List.mem_range.mp hi).ne x a)

/-- The entries of the three lists. -/
def linked_active (tmp : PsetEntry) : Bool := decide (tmp.status = .linked ∧ tmp.active ≠ 0)

def linked_not_active (tmp : PsetEntry) : Bool := decide (tmp.status = .linked ∧ tmp.active = 0)

def is_pending (tmp : PsetEntry) : Bool := decide (tmp.status = .pending)

theorem not_linked_active (tmp : PsetEntry) {st : PsetStatus} (hst : tmp.status = st)
    (hne : st ≠ .linked) : linked_active tmp = false :=
  decide_eq_false (fun h => hne (hst.symm.trans h.1))

theorem not_linked_not_active (tmp : PsetEntry) {st : PsetStatus} (hst : tmp.status = st)
    (hne : st ≠ .linked) : linked_not_active tmp = false :=
  decide_eq_false (fun h => hne (hst.symm.trans h.1))

/-- The arrays hold the ids and the addresses of the entries, and both sizes
    are their number. -/
structure Lists (ids : Nat → U32) (macs : Nat → MacAddr) (size mac_size : Nat) (q : Pset) :
    Prop where
  ids : elements ids size = q.map PsetEntry.node
  macs : elements macs mac_size = q.map PsetEntry.mac
  sizes : mac_size = size

/-- The cached lists are those of the physical set, in its order. -/
structure Advertises (ps : PsetState) (p : Pset) : Prop where
  l_active : Lists ps.l_active ps.la_mac ps.la_size ps.lam_size (p.filter linked_active)
  l_not_active : Lists ps.l_not_active ps.lna_mac ps.lna_size ps.lnam_size
    (p.filter linked_not_active)
  pending : Lists ps.pending ps.pending_mac ps.p_size ps.pm_size (p.filter is_pending)

/-- Two arrays filled up to `i` before, and now with the entries of `q` behind. -/
structure Appends (ids ids' : Nat → U32) (macs macs' : Nat → MacAddr) (i size mac_size : Nat)
    (q : Pset) : Prop where
  ids : elements ids' size = elements ids i ++ q.map PsetEntry.node
  macs : elements macs' mac_size = elements macs i ++ q.map PsetEntry.mac
  sizes : mac_size = size

theorem appends_nil (ids : Nat → U32) (macs : Nat → MacAddr) (i : Nat) :
    Appends ids ids macs macs i i i [] := by
  refine ⟨?_, ?_, rfl⟩
  · rw [List.map_nil, List.append_nil]
  · rw [List.map_nil, List.append_nil]

/-- An entry written, and the rest of them behind it. -/
theorem appends_cons (ids ids' : Nat → U32) (macs macs' : Nat → MacAddr) (i size mac_size : Nat)
    (tmp : PsetEntry) (q : Pset)
    (h : Appends (Function.update ids i tmp.node) ids' (Function.update macs i tmp.mac) macs'
      (i + 1) size mac_size q) : Appends ids ids' macs macs' i size mac_size (tmp :: q) := by
  refine ⟨?_, ?_, h.sizes⟩
  · rw [h.ids, elements_update, List.append_assoc, List.map_cons, List.singleton_append]
  · rw [h.macs, elements_update, List.append_assoc, List.map_cons, List.singleton_append]

/-- The loop of `pset_state_update` appends the entries of each class to its
    arrays. The induction is on the list that is walked. -/
theorem pset_state_fill_appends (ps : PsetState) (i j k : Nat) (p : Pset) :
    let r := pset_state_fill ps i j k p
    Appends ps.l_active r.l_active ps.la_mac r.la_mac i r.la_size r.lam_size
        (p.filter linked_active) ∧
      Appends ps.l_not_active r.l_not_active ps.lna_mac r.lna_mac j r.lna_size r.lnam_size
        (p.filter linked_not_active) ∧
      Appends ps.pending r.pending ps.pending_mac r.pending_mac k r.p_size r.pm_size
        (p.filter is_pending) := by
  induction p generalizing ps i j k with
  | nil => exact ⟨appends_nil _ _ _, appends_nil _ _ _, appends_nil _ _ _⟩
  | cons tmp rest ih =>
      -- the entry is written to the arrays of its class, or to none
      cases hst : tmp.status with
      | linked =>
          have hp : is_pending tmp = false := decide_eq_false (by rw [hst]; decide)
          by_cases hactive : tmp.active ≠ 0
          · have ha : linked_active tmp = true := decide_eq_true ⟨hst, hactive⟩
            have hna : linked_not_active tmp = false := decide_eq_false (fun h => hactive h.2)
            simp only [pset_state_fill, hst, if_pos hactive, List.filter_cons, ha, hna, hp, if_true]
            rcases ih { ps with
              l_active := Function.update ps.l_active i tmp.node
              la_mac := Function.update ps.la_mac i tmp.mac } (i + 1) j k with ⟨hia, hina, hip⟩
            exact ⟨appends_cons _ _ _ _ _ _ _ tmp _ hia, hina, hip⟩
          · have ha : linked_active tmp = false := decide_eq_false (fun h => hactive h.2)
            have hna : linked_not_active tmp = true := decide_eq_true ⟨hst, not_not.mp hactive⟩
            simp only [pset_state_fill, hst, if_neg hactive, List.filter_cons, ha, hna, hp, if_true]
            rcases ih { ps with
              l_not_active := Function.update ps.l_not_active j tmp.node
              lna_mac := Function.update ps.lna_mac j tmp.mac } i (j + 1) k with ⟨hia, hina, hip⟩
            exact ⟨hia, appends_cons _ _ _ _ _ _ _ tmp _ hina, hip⟩
      | pending =>
          have hp : is_pending tmp = true := decide_eq_true hst
          simp only [pset_state_fill, hst, List.filter_cons, not_linked_active tmp hst (by decide),
            not_linked_not_active tmp hst (by decide), hp, if_true]
          rcases ih { ps with
            pending := Function.update ps.pending k tmp.node
            pending_mac := Function.update ps.pending_mac k tmp.mac } i j (k + 1) with
            ⟨hia, hina, hip⟩
          exact ⟨hia, hina, appends_cons _ _ _ _ _ _ _ tmp _ hip⟩
      | failed =>
          have hp : is_pending tmp = false := decide_eq_false (by rw [hst]; decide)
          simp only [pset_state_fill, hst, List.filter_cons, not_linked_active tmp hst (by decide),
            not_linked_not_active tmp hst (by decide), hp]
          exact ih ps i j k
      | unknown =>
          have hp : is_pending tmp = false := decide_eq_false (by rw [hst]; decide)
          simp only [pset_state_fill, hst, List.filter_cons, not_linked_active tmp hst (by decide),
            not_linked_not_active tmp hst (by decide), hp]
          exact ih ps i j k

/-- Arrays filled from their beginning hold what was written. -/
theorem lists_of_appends (ids ids' : Nat → U32) (macs macs' : Nat → MacAddr) (size mac_size : Nat)
    (q : Pset) (h : Appends ids ids' macs macs' 0 size mac_size q) :
    Lists ids' macs' size mac_size q :=
  ⟨h.ids, h.macs, h.sizes⟩

/-- Rebuilding the lists makes them agree with the set. -/
theorem advertises_pset_state_update (ps : PsetState) (p : Pset) :
    Advertises (pset_state_update ps p) p := by
  rcases pset_state_fill_appends ps 0 0 0 p with ⟨ha, hna, hp⟩
  exact ⟨lists_of_appends _ _ _ _ _ _ _ ha, lists_of_appends _ _ _ _ _ _ _ hna,
    lists_of_appends _ _ _ _ _ _ _ hp⟩

/-- An entry without its fail count. -/
def forget (tmp : PsetEntry) : PsetEntry := { tmp with fail_count := 0 }

/-- The fail counts decide neither who is in a class nor what is listed. -/
theorem filter_forget {β : Type} (c : PsetEntry → Bool) (f : PsetEntry → β)
    (hc : ∀ tmp, c (forget tmp) = c tmp) (hf : ∀ tmp, f (forget tmp) = f tmp) (p p' : Pset)
    (h : p'.map forget = p.map forget) : (p'.filter c).map f = (p.filter c).map f := by
  have hforget : ∀ q : Pset, (q.filter c).map f = ((q.map forget).filter c).map f := by
    intro q
    have hcomp : c ∘ forget = c := funext hc
    rw [List.filter_map, hcomp, List.map_map]
    exact List.map_congr_left (fun tmp _ => (hf tmp).symm)
  rw [hforget p, hforget p', h]

theorem lists_of_forget {ids : Nat → U32} {macs : Nat → MacAddr} {n m : Nat}
    (c : PsetEntry → Bool) (hc : ∀ tmp, c (forget tmp) = c tmp) (p p' : Pset)
    (h : p'.map forget = p.map forget) (hl : Lists ids macs n m (p.filter c)) :
    Lists ids macs n m (p'.filter c) := by
  refine ⟨?_, ?_, hl.sizes⟩
  · rw [filter_forget c _ hc (fun _ => rfl) p p' h]
    exact hl.ids
  · rw [filter_forget c _ hc (fun _ => rfl) p p' h]
    exact hl.macs

/-- A change of fail counts needs no rebuilding. -/
theorem advertises_of_forget (ps : PsetState) (p p' : Pset) (h : p'.map forget = p.map forget)
    (ha : Advertises ps p) : Advertises ps p' :=
  ⟨lists_of_forget _ (fun _ => rfl) p p' h ha.l_active,
    lists_of_forget _ (fun _ => rfl) p p' h ha.l_not_active,
    lists_of_forget _ (fun _ => rfl) p p' h ha.pending⟩

/-- Nor does the deletion of a failed entry, which is in none of the lists. -/
theorem advertises_of_deletion (ps : PsetState) (done pos : Pset) (tmp : PsetEntry)
    (hst : tmp.status = .failed) (ha : Advertises ps (done ++ tmp :: pos)) :
    Advertises ps (done ++ pos) := by
  have hp : is_pending tmp = false := decide_eq_false (by rw [hst]; decide)
  have hdrop : ∀ c : PsetEntry → Bool, c tmp = false →
      (done ++ tmp :: pos).filter c = (done ++ pos).filter c := by
    intro c hc
    rw [List.filter_append, List.filter_append, List.filter_cons_of_neg (by rw [hc]; decide)]
  rcases ha with ⟨hla, hlna, hlp⟩
  rw [hdrop _ (not_linked_active tmp hst (by decide))] at hla
  rw [hdrop _ (not_linked_not_active tmp hst (by decide))] at hlna
  rw [hdrop _ hp] at hlp
  exact ⟨hla, hlna, hlp⟩

theorem forget_pset_reset_fail_count (p : Pset) (node : U32) :
    (pset_reset_fail_count p node).map forget = p.map forget := by
  unfold pset_reset_fail_count
  induction p with
  | nil => rfl
  | cons tmp rest ih =>
      unfold on_first
      split_ifs
      · rfl
      · rw [List.map_cons, List.map_cons, ih]

namespace Vrr

/-- Counting up an entry that is not marked by it changes its fail count only. -/
theorem forget_fail_entry (tmp : PsetEntry) (h : (fail_entry tmp).2 = false) :
    forget (fail_entry tmp).1 = forget tmp := by
  unfold fail_entry at h ⊢
  by_cases hc : VRR_FAIL_TIMEOUT ≤ tmp.fail_count + 1 ∧ tmp.status ≠ .failed
  · simp only [if_pos hc, reduceCtorEq] at h
  · simp only [if_neg hc]
    rfl

/-- An entry is marked failed well before it is due to be deleted. -/
theorem status_fail_entry (tmp : PsetEntry) (h : VRR_FAIL_TIMEOUT ≤ (fail_entry tmp).1.fail_count) :
    (fail_entry tmp).1.status = .failed := by
  rw [fail_entry_count] at h
  rw [fail_entry_status, if_pos h]

/-- After the lists have been rebuilt they agree, whatever they held. -/
theorem pset_state_update_advertises {J : Sys → Prop} (hJ : Preserves J pset_state_update) :
    Triple J pset_state_update (fun _ s => J s ∧ Advertises s.node.pstate s.node.pset)
      (fun _ => True) := by
  have hadv : Triple J pset_state_update (fun _ s => Advertises s.node.pstate s.node.pset)
      (fun _ => True) :=
    pset_state_update_triple (Triple.modify _ (fun _ _ => advertises_pset_state_update _ _))
      (fun _ _ => Preserves.modify _ (fun _ hs => hs))
  exact (Triple.and hJ hadv).conseq (fun s hs => ⟨hs, hs⟩) (fun _ _ hs => hs) (fun _ _ => trivial)

/-- The set is `p`, the lists agree with it, and `J` holds besides. -/
def Cached (J : Sys → Prop) (p : Pset) (s : Sys) : Prop :=
  J s ∧ s.node.pset = p ∧ Advertises s.node.pstate p

/-- What leaves the node alone keeps the agreement. -/
theorem cached_of_still {α : Type} {x : Vrr α} {J : Sys → Prop} (hstill : Keeps Sys.still x)
    (hJ : Preserves J x) (p : Pset) : Preserves (Cached J p) x := by
  have hnode := (node_of_still hstill).preserves (fun n => n.pset = p ∧ Advertises n.pstate p)
  exact (Triple.and hJ hnode).lax

theorem pset_state_update_cached {J : Sys → Prop} (hJ : Preserves J pset_state_update) (p : Pset) :
    Triple (fun s => J s ∧ s.node.pset = p) pset_state_update (fun _ => Cached J p)
      (fun _ => True) := by
  have hpset : Preserves (fun s => J s ∧ s.node.pset = p) pset_state_update := by
    have hkeeps : Keeps (fun s : Sys => s.node.pset) pset_state_update :=
      pset_state_update_settled.part (fun v : Node × List Packet => v.1.pset)
    exact (Triple.and hJ (hkeeps p)).lax
  refine (pset_state_update_advertises hpset).post (fun _ s hs => ⟨hs.1.1, hs.1.2, ?_⟩)
  rw [← hs.1.2]
  exact hs.2

section Ticks

variable {J : Sys → Prop}
  (hcount : ∀ s done tmp pos, J s → s.node.pset = done ++ tmp :: pos →
    J { s with node := { s.node with pset := done ++ (fail_entry tmp).1 :: pos } })
  (hdelete : ∀ s done tmp pos, J s → s.node.pset = done ++ tmp :: pos →
    J { s with node := { s.node with pset := done ++ pos } })
  (hJ : Preserves J pset_state_update)

include hcount hJ in
/-- An entry is counted up, and the lists rebuilt if it is marked. -/
theorem detect_failure_cached (done : Pset) (tmp : PsetEntry) (pos : Pset) :
    Triple (Cached J (done ++ tmp :: pos)) (detect_failure done tmp pos)
      (fun _ => Cached J (done ++ (fail_entry tmp).1 :: pos)) (fun _ => True) := by
  unfold detect_failure
  cases hmark : (fail_entry tmp).2 with
  | true =>
      exact Triple.bind (Triple.modify _ (fun s hs => ⟨hcount s done tmp pos hs.1 hs.2.1, rfl⟩))
        (fun _ => pset_state_update_cached hJ _)
  | false =>
      refine Triple.bind (Triple.modify _ (fun s hs => ?_))
        (fun _ => Triple.pure _ (fun s hs => hs))
      refine ⟨hcount s done tmp pos hs.1 hs.2.1, rfl, advertises_of_forget _ _ _ ?_ hs.2.2⟩
      rw [List.map_append, List.map_append, List.map_cons, List.map_cons,
        forget_fail_entry tmp hmark]

include hcount hdelete hJ

/-- A tick keeps the agreement: the entries it deletes are failed by then. -/
theorem detect_failures_cached :
    Preserves (fun s => Cached J s.node.pset s) detect_failures := by
  intro s hs
  refine (detect_failures_triple (I := Cached J) (detect_failure_cached hcount hJ)
    (fun done tmp pos hdue => ?_) (fun p s hs => hs.2.1) s.node.pset).post (fun _ t ht => ?_) s hs
  · have hfailed := status_fail_entry tmp (Nat.le_trans (by decide) hdue)
    exact Triple.modify _ (fun s hs => ⟨hdelete s done _ pos hs.1 hs.2.1, rfl,
      advertises_of_deletion _ _ _ _ hfailed hs.2.2⟩)
  · exact ⟨ht.1, rfl, by rw [ht.2.1]; exact ht.2.2⟩

/-- The timer's work keeps the agreement, if what is known besides survives the
    clock and the hello. -/
theorem vrr_workqueue_handler_cached
    (hclock : ∀ s active timeout, J s →
      J { s with node := { s.node with active := active, timeout := timeout } })
    (hsend : Triple (fun s => Cached J s.node.pset s) send_hpkt (fun _ => J) (fun _ => True)) :
    Preserves (fun s => Cached J s.node.pset s) vrr_workqueue_handler := by
  have hnode := (node_of_still send_hpkt_still).preserves (fun n => Advertises n.pstate n.pset)
  unfold vrr_workqueue_handler
  refine Preserves.bind (detect_failures_cached hcount hdelete hJ) (fun _ => ?_)
  refine Preserves.bind (Preserves.modify _ (fun s hs => ?_)) (fun _ => Preserves.then_pure ?_ ())
  · simp only
    split_ifs
    · exact hs
    · exact ⟨hclock s 1 _ hs.1, hs.2⟩
    · exact ⟨hclock s s.node.active _ hs.1, hs.2⟩
  · exact (Triple.and hsend hnode).conseq (fun s hs => ⟨hs, hs.2.2⟩)
      (fun _ s hs => ⟨hs.1, rfl, hs.2⟩) (fun _ _ => trivial)

end Ticks

end Vrr

/-- The physical set after an update has been processed. -/
def updated (p : Pset) (tmp : PsetUpdate) : Pset :=
  let cur_state := pset_get_status p tmp.node
  let next_state := hello_trans cur_state tmp.trans
  if cur_state = .unknown then pset_add p tmp.node tmp.mac next_state tmp.active
  else if cur_state ≠ next_state ∨ pset_get_active p tmp.node ≠ tmp.active then
    pset_update_status p tmp.node next_state tmp.active
  else p

/-- The entries after an update are old ones, or the one it makes. -/
theorem mem_updated (p : Pset) (tmp : PsetUpdate) (e : PsetEntry) (h : e ∈ updated p tmp) :
    e ∈ p ∨ (e.node = tmp.node ∧
      e.status = hello_trans (pset_get_status p tmp.node) tmp.trans) := by
  unfold updated pset_add pset_update_status at h
  simp only at h
  split_ifs at h
  · exact Or.inl h
  · rcases List.mem_cons.mp h with rfl | h
    · exact Or.inr ⟨rfl, rfl⟩
    · exact Or.inl h
  · rcases mem_on_first _ _ p e h with h | ⟨e', _, hid, rfl⟩
    · exact Or.inl h
    · exact Or.inr ⟨hid, rfl⟩
  · exact Or.inl h

/-- What looks at neither state nor flag sees a new entry, or no change. -/
theorem map_updated {α : Type} (r : PsetEntry → α)
    (hr : ∀ tmp st active, r { tmp with status := st, active := active } = r tmp) (p : Pset)
    (tmp : PsetUpdate) :
    (updated p tmp).map r = if pset_contains p tmp.node then p.map r
      else r ⟨tmp.node, .unknown, 0, tmp.mac, 0⟩ :: p.map r := by
  unfold updated pset_add pset_update_status
  by_cases hpresent : pset_contains p tmp.node = true
  · simp only [if_pos hpresent]
    split_ifs
    · rfl
    · exact map_on_first r _ _ (by intro e; exact hr e _ _) p
    · rfl
  · -- an id that is not in the set has the status of a stranger
    have hunknown : pset_get_status p tmp.node = .unknown := by
      by_contra hne
      exact hpresent ((pset_contains_iff p _).mpr (mem_of_pset_get_status p _ hne))
    simp only [if_neg hpresent, if_pos hunknown, List.map_cons]
    exact congrArg (· :: p.map r) (hr ⟨tmp.node, .unknown, 0, tmp.mac, 0⟩ _ _)

namespace Vrr

/-- The first half of a round of `pset_update_handler`, by what it makes of the
    set. The lists are rebuilt unless that is nothing. -/
theorem pset_update_entry_rule (p : Pset) (tmp : PsetUpdate) {P M Q : Sys → Prop}
    {E : Fault → Prop}
    (hadd : updated p tmp = AlpacaVrr.pset_add p tmp.node tmp.mac
        (hello_trans (pset_get_status p tmp.node) tmp.trans) tmp.active →
      Triple P (pset_add tmp.node tmp.mac (hello_trans (pset_get_status p tmp.node) tmp.trans)
        tmp.active) (fun _ => M) E)
    (hupdate : updated p tmp = pset_update_status p tmp.node
        (hello_trans (pset_get_status p tmp.node) tmp.trans) tmp.active →
      Triple P (set_node (fun n => { n with
        pset := pset_update_status n.pset tmp.node
          (hello_trans (pset_get_status p tmp.node) tmp.trans) tmp.active })) (fun _ => M) E)
    (hlists : Triple M pset_state_update (fun _ => Q) E)
    (hsame : updated p tmp = p → ∀ s, P s → Q s) :
    Triple P (pset_update_entry tmp (pset_get_status p tmp.node)
      (hello_trans (pset_get_status p tmp.node) tmp.trans) (pset_get_active p tmp.node))
      (fun _ => Q) E := by
  unfold pset_update_entry
  unfold updated at hadd hupdate hsame
  by_cases hunknown : pset_get_status p tmp.node = .unknown
  · simp only [if_pos hunknown] at hadd ⊢
    exact Triple.bind (hadd trivial) (fun _ => hlists)
  · simp only [if_neg hunknown] at hupdate hsame ⊢
    refine Triple.ite _ (fun hdiff => ?_) (fun hno => Triple.pure _ (hsame (if_neg hno)))
    exact Triple.bind (hupdate (if_pos hdiff)) (fun _ => hlists)

section Updates

variable {J : Sys → Prop}

theorem set_pset_cached (f : Pset → Pset) (p : Pset)
    (hset : ∀ s, J s → s.node.pset = p → J { s with node := { s.node with pset := f p } }) :
    Triple (fun s => J s ∧ s.node.pset = p) (set_node (fun n => { n with pset := f n.pset }))
      (fun _ s => J s ∧ s.node.pset = f p) (fun _ => True) := by
  refine Triple.modify _ (fun s hs => ?_)
  rcases hs with ⟨hj, rfl⟩
  exact ⟨hset s hj rfl, rfl⟩

theorem pset_add_cached (hdraws : Draws J (fun _ => True)) (id : U32) (mac : MacAddr)
    (status : PsetStatus) (active : U32) (p : Pset)
    (hset : ∀ s, J s → s.node.pset = p →
      J { s with node := { s.node with pset := AlpacaVrr.pset_add p id mac status active } }) :
    Triple (fun s => J s ∧ s.node.pset = p) (pset_add id mac status active)
      (fun _ s => J s ∧ s.node.pset = AlpacaVrr.pset_add p id mac status active)
      (fun _ => True) := by
  have hkmalloc : Preserves (fun s => J s ∧ s.node.pset = p) (kmalloc 1) :=
    (Triple.and (hdraws.kmalloc 1)
      ((kmalloc_visible 1).part (fun v => v.1.pset) p)).lax
  refine pset_add_triple (fun s hs hsame => ⟨hs.1, ?_⟩) hkmalloc
    (set_pset_cached (fun q => AlpacaVrr.pset_add q id mac status active) p hset)
    (Triple.fault _ trivial)
  rw [← hs.2, hsame]

variable (tmp : PsetUpdate) (p : Pset)
  (hset : ∀ s, J s → s.node.pset = p →
    J { s with node := { s.node with pset := updated p tmp } })
  (hdraws : Draws J (fun _ => True)) (hJ : Preserves J pset_state_update)

include hset hdraws hJ

/-- The first half of a round: the entry is added or updated and the lists
    are rebuilt, or nothing is to be done. -/
theorem pset_update_entry_cached :
    Triple (Cached J p)
      (pset_update_entry tmp (pset_get_status p tmp.node)
        (hello_trans (pset_get_status p tmp.node) tmp.trans) (pset_get_active p tmp.node))
      (fun _ => Cached J (updated p tmp)) (fun _ => True) := by
  refine pset_update_entry_rule p tmp (fun hadd => ?_) (fun hupdate => ?_)
    (pset_state_update_cached hJ _) (fun hsame s hs => ?_)
  · rw [hadd] at hset ⊢
    exact (pset_add_cached hdraws _ _ _ _ p hset).pre (fun s hs => ⟨hs.1, hs.2.1⟩)
  · rw [hupdate] at hset ⊢
    exact (set_pset_cached (fun q => pset_update_status q tmp.node _ tmp.active) p hset).pre
      (fun s hs => ⟨hs.1, hs.2.1⟩)
  · rw [hsame]
    exact hs

/-- A round of `pset_update_handler`. -/
theorem pset_update_cached
    (hsend : ∀ src dest proxy, Preserves J (send_setup_req src dest proxy))
    (htail : ∀ s, J s → J { s with
      node := { s.node with pset_updates := s.node.pset_updates.tail } }) :
    Triple (Cached J p) (pset_update tmp) (fun _ => Cached J (updated p tmp))
      (fun _ => True) := by
  have hjoin : ∀ (q : Pset) (next_state : PsetStatus),
      Preserves (Cached J q) (pset_update_join tmp next_state) := by
    intro q next_state
    unfold pset_update_join
    refine Preserves.bind (Preserves.gets _) (fun me => Preserves.ite _ (fun _ => ?_)
      (fun _ => Preserves.pure _))
    exact Preserves.then_pure (cached_of_still (send_setup_req_still _ _ _) (hsend _ _ _) q) ()
  unfold pset_update
  refine Triple.bind (Q := fun me s => Cached J p s ∧ me.pset = p)
    (Triple.gets _ (fun s hs => ⟨hs, hs.2.1⟩)) (fun me => Triple.of_and (fun hme => ?_))
  simp only [hme]
  refine Triple.bind (pset_update_entry_cached tmp p hset hdraws hJ) (fun _ => ?_)
  refine Triple.bind (hjoin _ _) (fun _ => Triple.modify _ (fun s hs => ?_))
  exact ⟨htail s hs.1, hs.2.1, hs.2.2⟩

end Updates

/-- The rounds for a list of updates. Each update is processed from the set
    that those in front of it have left. -/
theorem pset_updates_cached {J : Sys → Prop} (hdraws : Draws J (fun _ => True))
    (hJ : Preserves J pset_state_update)
    (hsend : ∀ src dest proxy, Preserves J (send_setup_req src dest proxy))
    (htail : ∀ s, J s → J { s with
      node := { s.node with pset_updates := s.node.pset_updates.tail } })
    (l : List PsetUpdate) (p : Pset)
    (hset : ∀ done tmp rest, l = done ++ tmp :: rest → ∀ s, J s →
      s.node.pset = done.foldl updated p → J { s with
        node := { s.node with pset := updated (done.foldl updated p) tmp } }) :
    Triple (Cached J p) (l.forM pset_update) (fun _ => Cached J (l.foldl updated p))
      (fun _ => True) := by
  refine Triple.forM_foldl (I := Cached J) l p (fun done tmp rest hl => ?_)
  exact pset_update_cached tmp _ (hset done tmp rest hl) hdraws hJ hsend htail

/-- `pset_update_handler` from a known state. What an update in the queue does
    to `J` may depend on the set that the updates in front of it have left. -/
theorem pset_update_handler_cached {J : Sys → Prop} (hdraws : Draws J (fun _ => True))
    (hJ : Preserves J pset_state_update)
    (hsend : ∀ src dest proxy, Preserves J (send_setup_req src dest proxy))
    (hqueue : ∀ s l, l ⊆ s.node.pset_updates → J s →
      J { s with node := { s.node with pset_updates := l } })
    (s : Sys) (hs : Cached J s.node.pset s)
    (hset : ∀ done tmp rest, s.node.pset_updates = done ++ tmp :: rest → ∀ t, J t →
      t.node.pset = done.foldl updated s.node.pset → J { t with
        node := { t.node with pset := updated (done.foldl updated s.node.pset) tmp } }) :
    Triple (fun t => t = s) pset_update_handler (fun _ t => Cached J t.node.pset t)
      (fun _ => True) := by
  unfold pset_update_handler
  refine Triple.bind (Q := fun me t => Cached J s.node.pset t ∧
    me.pset_updates = s.node.pset_updates) (Triple.gets _ (fun t ht => ?_))
    (fun me => Triple.of_and (fun hme => ?_))
  · rw [ht]
    exact ⟨hs, rfl⟩
  rw [hme]
  refine Triple.bind (pset_updates_cached hdraws hJ hsend
    (fun t ht => hqueue t _ (List.tail_subset _) ht)
    s.node.pset_updates s.node.pset hset) (fun _ => Triple.modify _ (fun t ht => ?_))
  refine ⟨hqueue t [] (List.nil_subset _) ht.1, rfl, ?_⟩
  change Advertises t.node.pstate t.node.pset
  rw [ht.2.1]
  exact ht.2.2

/-- Without a condition, the agreement is kept. -/
theorem pset_update_handler_advertises :
    Preserves (fun s => Advertises s.node.pstate s.node.pset) pset_update_handler := by
  have hdraws : Draws (fun _ => True) (fun _ => True) := ⟨Triple.any, fun _ => Triple.any⟩
  intro s hs
  have hrun := (pset_update_handler_cached hdraws Triple.any (fun _ _ _ => Triple.any)
    (fun _ _ _ _ => trivial) s ⟨trivial, rfl, hs⟩ (fun _ _ _ _ _ _ _ => trivial)).post
    (R := fun _ t => Advertises t.node.pstate t.node.pset) (fun _ t ht => ht.2.2)
  exact hrun s rfl

theorem vrr_workqueue_handler_advertises :
    Preserves (fun s => Advertises s.node.pstate s.node.pset) vrr_workqueue_handler :=
  (vrr_workqueue_handler_cached (J := fun _ => True) (fun _ _ _ _ _ _ => trivial)
    (fun _ _ _ _ _ _ => trivial) Triple.any (fun _ _ _ _ => trivial) Triple.any).conseq
    (fun _ hs => ⟨trivial, rfl, hs⟩) (fun _ _ hs => hs.2.2) (fun _ _ => trivial)

/-- A packet received changes neither the classes nor the lists. -/
theorem vrr_rcv_advertises (skb : SkBuff) :
    Preserves (fun s => Advertises s.node.pstate s.node.pset) (vrr_rcv skb) := by
  have hroutine := routine_base (fun n => Advertises n.pstate n.pset)
  refine hroutine.handles.vrr_rcv skb (fun s hs => ?_) (fun hty => ?_)
  · exact advertises_of_forget _ _ _ (forget_pset_reset_fail_count _ _) hs
  · exact hroutine.vrr_rcvfunc_of_all skb hty (fun _ => hroutine.draws.vrr_rcv_hello skb
      (fun s hs => hs) (fun tmp _ _ => Triple.modify _ (fun s hs => hs)))

end Vrr

section Updates

variable (Q : Pset → PsetUpdate → Prop) [∀ p tmp, Decidable (Q p tmp)]

/-- Each update meets `Q`, in the set that those in front of it have left. -/
def each_update : Pset → List PsetUpdate → Bool
  | _, [] => true
  | p, tmp :: rest => decide (Q p tmp) && each_update (updated p tmp) rest

/-- So do the updates that an event works off. -/
def works_off (s : Sys) (i : Event × Kernel) : Bool :=
  match i.1 with
  | .pset_update_handler => each_update Q s.node.pset s.node.pset_updates
  | _ => true

theorem of_each_update (p : Pset) (l : List PsetUpdate) (h : each_update Q p l = true) :
    ∀ done tmp rest, l = done ++ tmp :: rest → Q (done.foldl updated p) tmp := by
  induction l generalizing p with
  | nil => exact fun done tmp rest hl => absurd hl.symm (by simp)
  | cons x l ih =>
      obtain ⟨hx, hrest⟩ := Bool.and_eq_true_iff.mp h
      intro done tmp rest hl
      cases done with
      | nil =>
          rw [List.nil_append, List.cons.injEq] at hl
          rw [List.foldl_nil, ← hl.1]
          exact of_decide_eq_true hx
      | cons d done =>
          rw [List.cons_append, List.cons.injEq] at hl
          rw [List.foldl_cons, ← hl.1]
          exact ih (updated p x) hrest done tmp rest hl.2

theorem of_works_off {s : Sys} {i : Event × Kernel} (h : works_off Q s i = true) :
    i.1 = .pset_update_handler → ∀ done tmp rest, s.node.pset_updates = done ++ tmp :: rest →
      Q (done.foldl updated s.node.pset) tmp := by
  intro he
  unfold works_off at h
  rw [he] at h
  exact of_each_update Q _ _ h

end Updates

/-- Between two events the cached lists are those of the physical set, in its
    order, with the addresses beside the ids. -/
theorem advertised_exact (id : U32) (g : Nat → U32) (gm : Nat → MacAddr) (k : Kernel) (t : Sys)
    (hrun : Reach Step (Sys.boot (vrr_init id g gm) k) t) :
    Advertises t.node.pstate t.node.pset := by
  have hevent := event_preserves Vrr.vrr_rcv_advertises Vrr.pset_update_handler_advertises
    Vrr.vrr_workqueue_handler_advertises (fun _ _ hs => hs)
  refine reach_preserves hevent (fun _ _ hs => hs) ?_ hrun
  exact ⟨⟨rfl, rfl, rfl⟩, ⟨rfl, rfl, rfl⟩, ⟨rfl, rfl, rfl⟩⟩

/-- Node 1 hears an active node 2 that lists it as pending, and node 3. A tick
    later its lists hold node 2 as linked and active and node 3 as pending. -/
theorem advertised_exact_two :
    ∃ t, Reach Step node_one t ∧ elements t.node.pstate.l_active t.node.pstate.la_size = [2] ∧
      elements t.node.pstate.pending t.node.pstate.p_size = [3] ∧
      Advertises t.node.pstate t.node.pset := by
  have heval : (run_events node_one ([.vrr_rcv (frame 2 VRR_HELLO 2 0 [1, 0, 0, 1, 1]),
      .vrr_rcv (frame 3 VRR_HELLO 3 0 [0, 0, 0, 0]), .pset_update_handler,
      .vrr_workqueue_handler].map (fun e => (e, Kernel.calm)))).map
      (fun t => (elements t.node.pstate.l_active t.node.pstate.la_size,
        elements t.node.pstate.pending t.node.pstate.p_size)) = some ([2], [3]) := by
    decide +kernel
  rcases Option.map_eq_some_iff.mp heval with ⟨t, ht, hlists⟩
  rw [Prod.mk.injEq] at hlists
  have hreach := (reach_run_events (fun _ => True) node_one node_one t _ Reach.refl
    (fun _ _ => trivial) ht).mono (fun _ _ _ h => h.1)
  exact ⟨t, hreach, hlists.1, hlists.2,
    advertised_exact 1 (fun _ => 0) (fun _ => 0) Kernel.calm t hreach⟩

end AlpacaVrr
