import AlpacaVrr.Theory.Advertised

/-!
# The Capacity of the Physical Set

Whether the indices written to the arrays of `VRR_PSET_SIZE` elements stay
below that size, over whole runs.

`pset_state_update` writes one element for each entry of a class, and
`pset_get_proxy` one for each linked and active entry. Neither looks at the
size of the array, and nothing limits the number of entries: every hello from
an id that is not in the set adds one. The receiver of a hello does check the
sizes it reads.

`Room` says that no class has more entries than an array has elements. The
timer's work keeps it, because it only takes entries out of the classes. An
update may break it, by an entry that joins a class that is full already.
`RoomFor` is the condition that it joins none.

## Main definitions

* `Room`: No class is too large.
* `joining`, `RoomFor`: The entry an update makes, and the room it finds.
* `HelloFits`: The sizes in a hello pass the check of its receiver.
* `InBounds`: What is claimed of a state.

## Theorems

* `room_updated`: An update that finds room leaves no class too large.
* `pset_state_update_bounded`, `pset_get_proxy_bounded`: With room, no array
  is written past its end.
* `send_hpkt_bounded`: With room, the hello that goes out fits.
* `indices_in_bounds`: In every run whose updates find room all is in bounds.
* `indices_out_of_bounds`: Twenty-one neighbours are too many.
-/

namespace AlpacaVrr

open FaultState

/-- No class of neighbours is larger than the arrays. -/
structure Room (p : Pset) : Prop where
  l_active : p.countP linked_active ≤ VRR_PSET_SIZE
  l_not_active : p.countP linked_not_active ≤ VRR_PSET_SIZE
  pending : p.countP is_pending ≤ VRR_PSET_SIZE

/-- The state and the flag that an update gives to the entry of its node. -/
def joining (p : Pset) (tmp : PsetUpdate) : PsetEntry :=
  ⟨tmp.node, hello_trans (pset_get_status p tmp.node) tmp.trans, flag tmp.active, tmp.mac, 0⟩

/-- When the update brings its node into the class `c`, the class is not full. -/
def RoomIn (c : PsetEntry → Bool) (p : Pset) (tmp : PsetUpdate) : Prop :=
  c (joining p tmp) = true → (pset_find p tmp.node).any c = false → p.countP c < VRR_PSET_SIZE

/-- The update finds room, whichever class it brings its node into. -/
structure RoomFor (p : Pset) (tmp : PsetUpdate) : Prop where
  l_active : RoomIn linked_active p tmp
  l_not_active : RoomIn linked_not_active p tmp
  pending : RoomIn is_pending p tmp

instance (c : PsetEntry → Bool) (p : Pset) (tmp : PsetUpdate) : Decidable (RoomIn c p tmp) :=
  inferInstanceAs (Decidable (_ → _ → _))

instance (p : Pset) (tmp : PsetUpdate) : Decidable (RoomFor p tmp) :=
  decidable_of_iff
    (RoomIn linked_active p tmp ∧ RoomIn linked_not_active p tmp ∧ RoomIn is_pending p tmp)
    ⟨fun h => ⟨h.1, h.2.1, h.2.2⟩, fun h => ⟨h.l_active, h.l_not_active, h.pending⟩⟩

/-- The updates that an event processes find room, each in the set that those
    in front of it have left. -/
def Roomy (s : Sys) (e : Event) : Prop :=
  e = .pset_update_handler → ∀ done tmp rest, s.node.pset_updates = done ++ tmp :: rest →
    RoomFor (done.foldl updated s.node.pset) tmp

/-- The sizes in a hello pass the check of `vrr_rcv_hello`. -/
def HelloFits (p : Packet) : Prop :=
  p.vh.pkt_type = VRR_HELLO → ∃ la_size lna_size p_size,
    word p (vrr_header_size + 4) = some la_size ∧ la_size.toNat ≤ VRR_PSET_SIZE ∧
    word p (vrr_header_size + 8) = some lna_size ∧ lna_size.toNat ≤ VRR_PSET_SIZE ∧
    word p (vrr_header_size + 12) = some p_size ∧ p_size.toNat ≤ VRR_PSET_SIZE

/-- Nothing was written past the arrays of neighbours, and all hellos sent
    fit. -/
structure InBounds (overruns : List Overrun) (sent : List Packet) : Prop where
  arrays : ∀ o ∈ overruns, o.buffer ≠ .pstate ∧ o.buffer ≠ .proxies
  hellos : ∀ p ∈ sent, HelloFits p

/-- In bounds, and with room. -/
def Bounded (s : Sys) : Prop := Room s.node.pset ∧ InBounds s.overruns s.sent

/-- Classes that lose entries keep their room. -/
theorem room_of_le (p p' : Pset) (h : Room p)
    (hle : ∀ c, (∀ tmp, c tmp = true → tmp.status ≠ .failed) → (∀ tmp, c (forget tmp) = c tmp) →
      p'.countP c ≤ p.countP c) : Room p' := by
  have hstatus : ∀ (c : PsetEntry → Bool) (st : PsetStatus), st ≠ .failed →
      (∀ tmp, c tmp = true → tmp.status = st) → ∀ tmp, c tmp = true → tmp.status ≠ .failed := by
    intro c st hne hc tmp htmp hfailed
    exact hne ((hc tmp htmp).symm.trans hfailed)
  refine ⟨Nat.le_trans (hle _ ?_ (fun _ => rfl)) h.l_active,
    Nat.le_trans (hle _ ?_ (fun _ => rfl)) h.l_not_active,
    Nat.le_trans (hle _ ?_ (fun _ => rfl)) h.pending⟩
  · exact hstatus _ .linked (by decide) (fun tmp htmp => (of_decide_eq_true htmp).1)
  · exact hstatus _ .linked (by decide) (fun tmp htmp => (of_decide_eq_true htmp).1)
  · exact hstatus _ .pending (by decide) (fun tmp htmp => of_decide_eq_true htmp)

/-- Counting an entry up takes it out of its class or leaves it there. -/
theorem room_fail_entry (done : Pset) (tmp : PsetEntry) (pos : Pset)
    (h : Room (done ++ tmp :: pos)) : Room (done ++ (Vrr.fail_entry tmp).1 :: pos) := by
  refine room_of_le _ _ h (fun c hfailed hforget => ?_)
  rw [List.countP_append, List.countP_append, List.countP_cons, List.countP_cons]
  have himp : c (Vrr.fail_entry tmp).1 = true → c tmp = true := by
    intro hc
    cases hmark : (Vrr.fail_entry tmp).2 with
    | true =>
        have hdue := ((Vrr.fail_entry_marked_iff tmp).mp hmark).1
        exact absurd (by rw [Vrr.fail_entry_status, if_pos hdue]) (hfailed _ hc)
    | false =>
        rw [← hforget, ← Vrr.forget_fail_entry tmp hmark, hforget]
        exact hc
  split_ifs with h1 h2
  · exact Nat.le_refl _
  · exact absurd (himp h1) h2
  · omega
  · exact Nat.le_refl _

theorem room_deletion (done : Pset) (tmp : PsetEntry) (pos : Pset)
    (h : Room (done ++ tmp :: pos)) : Room (done ++ pos) := by
  refine room_of_le _ _ h (fun c _ _ => ?_)
  rw [List.countP_append, List.countP_append, List.countP_cons]
  omega

theorem room_of_forget (p p' : Pset) (hforget : p'.map forget = p.map forget) (h : Room p) :
    Room p' := by
  refine room_of_le _ _ h (fun c _ hc => ?_)
  have hlen := congrArg List.length (filter_forget c forget hc (fun _ => rfl) p p' hforget)
  rw [List.length_map, List.length_map, ← List.countP_eq_length_filter,
    ← List.countP_eq_length_filter] at hlen
  exact Nat.le_of_eq hlen

/-- Editing an entry takes it out of a class, or brings it in, and nothing
    else. -/
theorem countP_on_first (c : PsetEntry → Bool) (node : U32) (f : PsetEntry → PsetEntry)
    (p : Pset) : (on_first node f p).countP c + ((pset_find p node).any c).toNat =
      p.countP c + ((pset_find p node).any (fun tmp => c (f tmp))).toNat := by
  unfold pset_find
  induction p with
  | nil => rfl
  | cons tmp rest ih =>
      unfold on_first
      by_cases hid : tmp.node = node
      · have hfind : (tmp.node == node) = true := beq_iff_eq.mpr hid
        simp only [List.find?_cons, hfind, if_pos hid, Option.any_some, List.countP_cons]
        cases c tmp <;> cases c (f tmp) <;> simp only [Bool.toNat_true, Bool.toNat_false] <;> rfl
      · have hfind : (tmp.node == node) = false := beq_eq_false_iff_ne.mpr hid
        simp only [List.find?_cons, hfind, if_neg hid, List.countP_cons]
        omega

/-- A class that is large enough for the entry an update brings in. It goes by
    the state and the flag of an entry. -/
theorem countP_updated (c : PsetEntry → Bool)
    (hc : ∀ tmp tmp' : PsetEntry, tmp.status = tmp'.status → tmp.active = tmp'.active →
      c tmp = c tmp') (p : Pset) (tmp : PsetUpdate) (hroom : RoomIn c p tmp)
    (hle : p.countP c ≤ VRR_PSET_SIZE) : (updated p tmp).countP c ≤ VRR_PSET_SIZE := by
  unfold updated
  simp only
  split_ifs with hunknown hdiff
  · -- a new entry at the head, unless the id is there already
    unfold pset_add
    split_ifs with hpresent
    · exact hle
    have hnone : pset_find p tmp.node = none := by
      rw [← Option.not_isSome_iff_eq_none, pset_find_isSome_iff, ← pset_contains_iff]
      exact hpresent
    rw [List.countP_cons]
    split_ifs with hin
    · exact hroom hin (by rw [hnone]; rfl)
    · exact hle
  · -- the entry changes its class
    unfold pset_update_status
    have hcount := countP_on_first c tmp.node (fun e => { e with
      status := hello_trans (pset_get_status p tmp.node) tmp.trans, active := flag tmp.active }) p
    cases hfind : pset_find p tmp.node with
    | none =>
        rw [hfind] at hcount
        simp only [Option.any_none] at hcount
        omega
    | some e =>
        have hjoin : c { e with
            status := hello_trans (pset_get_status p tmp.node) tmp.trans,
            active := flag tmp.active } = c (joining p tmp) := hc _ _ rfl rfl
        rw [hfind] at hcount
        simp only [Option.any_some, hjoin] at hcount
        -- the count goes up only where the entry comes into the class from outside
        cases hin : c (joining p tmp) with
        | false =>
            rw [hin] at hcount
            simp only [Bool.toNat_false] at hcount
            omega
        | true =>
            cases hwas : c e with
            | true =>
                rw [hin, hwas] at hcount
                omega
            | false =>
                have hlt := hroom hin (by rw [hfind]; exact hwas)
                rw [hin, hwas] at hcount
                simp only [Bool.toNat_false, Bool.toNat_true] at hcount
                omega
  · exact hle

/-- An update that finds room leaves no class too large. -/
theorem room_updated (p : Pset) (tmp : PsetUpdate) (hroom : RoomFor p tmp) (h : Room p) :
    Room (updated p tmp) := by
  refine ⟨countP_updated _ (fun e e' hst ha => ?_) p tmp hroom.l_active h.l_active,
    countP_updated _ (fun e e' hst ha => ?_) p tmp hroom.l_not_active h.l_not_active,
    countP_updated _ (fun e e' hst _ => ?_) p tmp hroom.pending h.pending⟩
  · rw [linked_active, linked_active, hst, ha]
  · rw [linked_not_active, linked_not_active, hst, ha]
  · rw [is_pending, is_pending, hst]

/-- A list of the cached lists is as long as its class. -/
theorem size_of_lists {ids : Nat → U32} {macs : Nat → MacAddr} {n m : Nat} {c : PsetEntry → Bool}
    {p : Pset} (h : Lists ids macs n m (p.filter c)) : n = p.countP c := by
  have hlen := congrArg List.length h.ids
  rw [elements, List.length_map, List.length_range, List.length_map,
    ← List.countP_eq_length_filter] at hlen
  exact hlen

namespace Vrr

/-- With room, nothing is written past the end of an array. -/
theorem overrun_bounded (b : Buffer) (n : Nat) (hn : n ≤ VRR_PSET_SIZE) :
    Preserves Bounded (overrun b VRR_PSET_SIZE n) := by
  refine Preserves.modify _ (fun s hs => ?_)
  have hnone : (List.range (n - VRR_PSET_SIZE)).map (fun i => (⟨b, VRR_PSET_SIZE + i⟩ : Overrun)) =
      [] := by
    rw [Nat.sub_eq_zero_of_le hn]
    rfl
  refine ⟨hs.1, ?_⟩
  simp only [hnone, List.append_nil]
  exact hs.2

theorem pset_state_update_bounded : Preserves Bounded pset_state_update := by
  unfold pset_state_update
  refine Triple.bind (Q := fun _ s => Bounded s ∧ Advertises s.node.pstate s.node.pset)
    (Triple.modify _ (fun s hs => ⟨hs, advertises_pset_state_update _ _⟩)) (fun _ => ?_)
  refine Triple.bind (Q := fun me s => Bounded s ∧ me.pstate.la_size ≤ VRR_PSET_SIZE ∧
    me.pstate.lna_size ≤ VRR_PSET_SIZE ∧ me.pstate.p_size ≤ VRR_PSET_SIZE)
    (Triple.gets _ (fun s hs => ?_)) (fun me => Triple.of_and (fun hme => ?_))
  · rw [size_of_lists hs.2.l_active, size_of_lists hs.2.l_not_active, size_of_lists hs.2.pending]
    exact ⟨hs.1, hs.1.1.l_active, hs.1.1.l_not_active, hs.1.1.pending⟩
  refine Preserves.bind (overrun_bounded _ _ hme.1) (fun _ => ?_)
  exact Preserves.bind (overrun_bounded _ _ hme.2.1) (fun _ => overrun_bounded _ _ hme.2.2)

/-- The ids copied are those of one class. -/
theorem length_pset_active (p : Pset) : (pset_active p).length = p.countP linked_active := by
  rw [pset_active, List.length_map, ← List.countP_eq_length_filter]
  rfl

theorem draws_bounded : Draws Bounded (fun _ => True) :=
  draws_of_visible (fun _ hx => hx.preserves
    (fun v : Node × List Packet × List SkbRef × List Overrun =>
      Room v.1.pset ∧ InBounds v.2.2.2 v.2.1))

theorem pset_get_proxy_bounded : Preserves Bounded pset_get_proxy := by
  unfold pset_get_proxy
  refine Triple.bind (Q := fun me s => Bounded s ∧ Room me.pset)
    (Triple.gets _ (fun s hs => ⟨hs, hs.1⟩)) (fun me => Triple.of_and (fun hroom => ?_))
  refine Preserves.bind (overrun_bounded _ _ ?_) (fun _ => ?_)
  · rw [length_pset_active]
    exact hroom.l_active
  · exact Preserves.ite _ (fun _ => Preserves.pure _)
      (fun _ => Preserves.bind (random_visible.preserves
        (fun v : Node × List Packet × List SkbRef × List Overrun =>
          Room v.1.pset ∧ InBounds v.2.2.2 v.2.1)) (fun _ => Preserves.pure _))

theorem vrr_output_bounded (skb : SkbRef) (pkt : Packet) (hpkt : HelloFits pkt) :
    Preserves Bounded (vrr_output skb pkt) := by
  unfold vrr_output
  refine Preserves.bind (Preserves.modify _ (fun s hs => ⟨hs.1, hs.2.arrays, fun p hp => ?_⟩))
    (fun _ => Preserves.bind (Preserves.modify _ (fun _ hs => hs)) (fun _ => Preserves.pure _))
  rcases List.mem_append.mp hp with hp | hp
  · exact hs.2.hellos p hp
  · rw [List.mem_singleton.mp hp]
    exact hpkt

/-- The operations of the handlers stay in bounds, and none emits a hello. -/
theorem routine_bounded : Routine (fun ty => ty ≠ VRR_HELLO) Bounded where
  draws := draws_bounded
  random := random_visible.preserves
    (fun v : Node × List Packet × List SkbRef × List Overrun =>
      Room v.1.pset ∧ InBounds v.2.2.2 v.2.1)
  pset_get_proxy := pset_get_proxy_bounded
  vrr_output := fun skb pkt hty => vrr_output_bounded skb pkt (fun h => absurd h hty)
  kfree_skb := fun _ => Preserves.modify _ (fun _ hs => hs)
  overrun := fun size n => by
    refine Preserves.modify _ (fun s hs => ⟨hs.1, fun o ho => ?_, hs.2.hellos⟩)
    rcases List.mem_append.mp ho with ho | ho
    · exact hs.2.arrays o ho
    · rcases List.mem_map.mp ho with ⟨i, _, rfl⟩
      exact ⟨Buffer.noConfusion, Buffer.noConfusion⟩
  rt_add_route := fun _ _ _ _ _ => rt_add_route_rule draws_bounded _ _ _ _ _ (fun _ _ _ hs => hs)
  rt_remove_route := fun _ _ => rt_remove_route_rule _ _ (fun _ hs => hs)
  vset_add := fun _ _ => vset_add_rule draws_bounded _ _ (fun _ _ _ hs => hs)
  vset_remove := fun _ => vset_remove_rule _ (fun _ hs => hs)
  activate := Preserves.modify _ (fun _ hs => hs)

theorem vrr_rcv_bounded (skb : SkBuff) : Preserves Bounded (vrr_rcv skb) := by
  refine routine_bounded.handles.vrr_rcv skb (fun s hs => ⟨?_, hs.2⟩) (fun hty => ?_)
  · exact room_of_forget _ _ (forget_pset_reset_fail_count _ _) hs.1
  refine routine_bounded.handles.vrr_rcvfunc (fun _ h _ => h) skb hty (fun _ => ?_) (fun _ => ?_) ?_
  · exact draws_bounded.vrr_rcv_hello skb (fun s hs => hs) (fun tmp _ _ => Triple.modify _
      (fun s hs => hs))
  · exact routine_bounded.vrr_rcv_setup (by decide) (by decide) (by decide) skb
  · exact fun _ _ _ _ _ => routine_bounded.handles.vrr_local_rcv_setup (by decide) (by decide)
        routine_bounded.rt_add_route _ _ _ _ _

/-- Updates that find room keep everything in bounds. -/
theorem pset_update_handler_bounded (s : Sys) (hs : Cached Bounded s.node.pset s)
    (hroom : Roomy s .pset_update_handler) :
    Triple (fun t => t = s) pset_update_handler (fun _ t => Cached Bounded t.node.pset t)
      (fun _ => True) := by
  refine pset_update_handler_cached draws_bounded pset_state_update_bounded
    (fun _ _ _ => routine_bounded.own.send_setup_req (by decide) _ _ _) (fun _ _ _ ht => ht) s hs
    (fun done tmp rest hl t ht hp => ⟨?_, ht.2⟩)
  have hbefore := ht.1
  rw [hp] at hbefore
  exact room_updated _ tmp (hroom rfl done tmp rest hl) hbefore

/-- With room, the hello that goes out is one that its receivers accept. -/
theorem send_hpkt_bounded :
    Triple (fun s => Cached Bounded s.node.pset s) send_hpkt (fun _ => Bounded)
      (fun _ => True) := by
  unfold send_hpkt
  refine Triple.bind (Q := fun me s => Bounded s ∧ me.pstate.la_size ≤ VRR_PSET_SIZE ∧
    me.pstate.lna_size ≤ VRR_PSET_SIZE ∧ me.pstate.p_size ≤ VRR_PSET_SIZE)
    (Triple.gets _ (fun s hs => ?_)) (fun me => Triple.of_and (fun hme => ?_))
  · rw [size_of_lists hs.2.2.l_active, size_of_lists hs.2.2.l_not_active,
      size_of_lists hs.2.2.pending]
    exact ⟨hs.1, hs.1.1.l_active, hs.1.1.l_not_active, hs.1.1.pending⟩
  refine Preserves.bind (draws_bounded.kmalloc 1) (fun data => Preserves.ite _ (fun _ => ?_)
    (fun _ => Preserves.fault _))
  refine Preserves.bind (draws_bounded.kmalloc 1) (fun skb => Preserves.ite _ (fun _ => ?_)
    (fun _ => Preserves.pure _))
  refine Preserves.then_pure (vrr_output_bounded _ _ (fun _ => ?_)) 0
  -- the second, third and fourth word are the sizes
  have hsmall : ∀ n, n ≤ VRR_PSET_SIZE → (BitVec.ofNat 32 n).toNat ≤ VRR_PSET_SIZE :=
    fun n hn => Nat.le_trans (Nat.mod_le n (2 ^ 32)) hn
  exact ⟨_, _, _, word_payload _ _ 1 _ rfl, hsmall _ hme.1, word_payload _ _ 2 _ rfl,
    hsmall _ hme.2.1, word_payload _ _ 3 _ rfl, hsmall _ hme.2.2⟩

/-- The timer's work makes no class larger. -/
theorem vrr_workqueue_handler_bounded :
    Preserves (fun s => Cached Bounded s.node.pset s) vrr_workqueue_handler := by
  refine vrr_workqueue_handler_cached (fun s done tmp pos hs hp => ⟨?_, hs.2⟩)
    (fun s done tmp pos hs hp => ⟨?_, hs.2⟩) pset_state_update_bounded (fun _ _ _ hs => hs)
    send_hpkt_bounded
  · have hroom := hs.1
    rw [hp] at hroom
    exact room_fail_entry done tmp pos hroom
  · have hroom := hs.1
    rw [hp] at hroom
    exact room_deletion done tmp pos hroom

end Vrr

/-- One event whose updates find room. -/
theorem step_bounded (s t : Sys) (i : Event × Kernel) (hs : Vrr.Cached Bounded s.node.pset s)
    (hroomy : Roomy s i.1) (hstep : Step s i t) : Vrr.Cached Bounded t.node.pset t := by
  refine step_cases (I := fun s => Vrr.Cached Bounded s.node.pset s) hstep
    (fun skb r _ hrun => ?_) (fun he => ?_)
    (fun _ => Vrr.vrr_workqueue_handler_bounded.ok (s := { s with kern := i.2 }) hs) (fun _ _ => hs)
  · have ht := (Triple.and (Vrr.vrr_rcv_bounded skb) (Vrr.vrr_rcv_advertises skb)).ok
      (s := { s with kern := i.2 }) ⟨hs.1, hs.2.2⟩ hrun
    exact ⟨ht.1, rfl, ht.2⟩
  · rw [he] at hroomy
    exact (Vrr.pset_update_handler_bounded { s with kern := i.2 } hs hroomy).ok rfl

theorem run_bounded (id : U32) (g : Nat → U32) (gm : Nat → MacAddr) (k : Kernel) (t : Sys)
    (hrun : Reach (fun s i t => Step s i t ∧ Roomy s i.1) (Sys.boot (vrr_init id g gm) k) t) :
    Vrr.Cached Bounded t.node.pset t := by
  refine hrun.invariant (fun s => Vrr.Cached Bounded s.node.pset s) ?_
    (fun s i t hs hstep => step_bounded s t i hs hstep.2 hstep.1)
  refine ⟨⟨⟨Nat.zero_le _, Nat.zero_le _, Nat.zero_le _⟩, ?_, ?_⟩, rfl, ?_⟩
  · exact fun o ho => absurd ho List.not_mem_nil
  · exact fun p hp => absurd hp List.not_mem_nil
  · exact ⟨⟨rfl, rfl, rfl⟩, ⟨rfl, rfl, rfl⟩, ⟨rfl, rfl, rfl⟩⟩

/-- In every run whose updates find room in each class, no index written to
    the arrays of neighbours is out of bounds, and every hello sent has sizes
    that its receivers accept. -/
theorem indices_in_bounds (id : U32) (g : Nat → U32) (gm : Nat → MacAddr) (k : Kernel) (t : Sys)
    (hrun : Reach (fun s i t => Step s i t ∧ Roomy s i.1) (Sys.boot (vrr_init id g gm) k) t) :
    InBounds t.overruns t.sent := (run_bounded id g gm k t hrun).1.2

/-- Twenty-one hellos, each from a node of its own. -/
def crowd : List Event :=
  ((List.range 21).map (fun i => Event.vrr_rcv (frame (BitVec.ofNat 48 (i + 2)) VRR_HELLO
    (BitVec.ofNat 32 (i + 2)) 0 [0, 0, 0, 0]))) ++ [.pset_update_handler, .vrr_workqueue_handler]

/-- Twenty-one neighbours are too many. The last one is written past the
    arrays, and no receiver accepts the hello that lists them. -/
theorem indices_out_of_bounds :
    ∃ t, Reach Step node_one t ∧ (∃ o ∈ t.overruns, o.buffer = .pstate ∧ o.index = 20) ∧
      (∃ p ∈ t.sent, p.vh.pkt_type = VRR_HELLO ∧ word p (vrr_header_size + 12) = some 21) ∧
      ¬ InBounds t.overruns t.sent := by
  have heval : (run_events node_one (crowd.map (fun e => (e, Kernel.calm)))).map
      (fun t => (t.overruns,
        t.sent.map (fun p => (p.vh.pkt_type, word p (vrr_header_size + 12))))) =
      some ([⟨.pstate, 20⟩], [(VRR_HELLO, some 21)]) := by
    decide +kernel
  rcases Option.map_eq_some_iff.mp heval with ⟨t, ht, hrec⟩
  rw [Prod.mk.injEq] at hrec
  have hreach := (reach_run_events (fun _ => True) node_one node_one t _ Reach.refl
    (fun _ _ => trivial) ht).mono (fun _ _ _ h => h.1)
  have hmem : (⟨.pstate, 20⟩ : Overrun) ∈ t.overruns := by
    rw [hrec.1]
    exact List.mem_singleton_self _
  have hsent : (VRR_HELLO, some 21) ∈
      t.sent.map (fun p => (p.vh.pkt_type, word p (vrr_header_size + 12))) := by
    rw [hrec.2]
    exact List.mem_singleton_self _
  rcases List.mem_map.mp hsent with ⟨p, hp, hfields⟩
  rw [Prod.mk.injEq] at hfields
  exact ⟨t, hreach, ⟨_, hmem, rfl, rfl⟩, ⟨p, hp, hfields⟩, fun h => (h.arrays _ hmem).1 rfl⟩

/-- Nodes 2 and 3 are heard, one after the other and then at once, and the
    timer goes off. All updates find room, and the hello lists both. -/
theorem indices_in_bounds_one :
    ∃ t, Reach (fun s i t => Step s i t ∧ Roomy s i.1) node_one t ∧
      pset_ids t.node.pset = [3, 2] ∧
      (∃ p ∈ t.sent, p.vh.pkt_type = VRR_HELLO ∧ word p (vrr_header_size + 12) = some 2) ∧
      InBounds t.overruns t.sent := by
  obtain ⟨t, ht, hend⟩ := reach_of_check (works_off RoomFor)
    ([.vrr_rcv (frame 2 VRR_HELLO 2 0 [0, 0, 0, 0]), .pset_update_handler,
      .vrr_rcv (frame 3 VRR_HELLO 3 0 [0, 0, 0, 0]), .vrr_rcv (frame 2 VRR_HELLO 2 0 [1, 0, 0, 0]),
      .pset_update_handler, .vrr_workqueue_handler].map (fun e => (e, Kernel.calm)))
    (fun s => decide (pset_ids s.node.pset = [3, 2] ∧ ∃ p ∈ s.sent,
      p.vh.pkt_type = VRR_HELLO ∧ word p (vrr_header_size + 12) = some 2)) (by decide +kernel)
  have hrun : Reach (fun s i t => Step s i t ∧ Roomy s i.1) node_one t :=
    ht.mono (fun u i v h => ⟨h.1, of_works_off RoomFor h.2⟩)
  obtain ⟨hids, hhello⟩ := of_decide_eq_true hend
  exact ⟨t, hrun, hids, hhello,
    indices_in_bounds 1 (fun _ => 0) (fun _ => 0) Kernel.calm t hrun⟩

end AlpacaVrr
