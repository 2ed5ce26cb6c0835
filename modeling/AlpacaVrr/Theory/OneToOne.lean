import AlpacaVrr.Theory.Advertised

/-!
# Ids and Addresses

Whether the physical set pairs ids with MAC addresses, one to one.

An entry gets its id and its address when it is added, and keeps both. Only
the id decides whether a hello adds an entry or updates one. So a second id at
an address that is in the set is added beside the first, and an id that has
moved to another address stays with the old one. `Matches` excludes both: the
entry with the id of the hello, if there is one, is the entry with its
address.

## Main definitions

* `OneToOne`: No two entries share an id or an address.
* `Matches`, `Matched`: The id and the address of an update belong together.

## Theorems

* `pset_lookups_inverse`: The lookups by id and by address are inverse.
* `names_updated`: What an update does to the pairs.
* `one_to_one_of_matches`: In every run whose updates match the set, it is
  one-to-one, and an update leaves its id with its address.
* `one_to_one_shared`: Two ids at one address.
-/

namespace AlpacaVrr

open FaultState

/-- The id and the address of each entry. -/
def names (p : Pset) : List (U32 × MacAddr) := p.map (fun tmp => (tmp.node, tmp.mac))

/-- No two entries share an id, and no two share an address. -/
structure OneToOne (p : Pset) : Prop where
  ids : (pset_ids p).Nodup
  macs : (p.map PsetEntry.mac).Nodup

/-- An entry has the id of the update just when it has its address. -/
def Matches (p : Pset) (tmp : PsetUpdate) : Prop := ∀ e ∈ p, e.node = tmp.node ↔ e.mac = tmp.mac

instance (p : Pset) (tmp : PsetUpdate) : Decidable (Matches p tmp) :=
  inferInstanceAs (Decidable (∀ e ∈ p, _))

/-- The updates that an event processes match the set, each the one that those
    in front of it have left. -/
def Matched (s : Sys) (e : Event) : Prop :=
  e = .pset_update_handler → ∀ done tmp rest, s.node.pset_updates = done ++ tmp :: rest →
    Matches (done.foldl updated s.node.pset) tmp

theorem ids_of_names (p : Pset) : pset_ids p = (names p).map Prod.fst := by
  rw [names, List.map_map]
  rfl

theorem macs_of_names (p : Pset) : p.map PsetEntry.mac = (names p).map Prod.snd := by
  rw [names, List.map_map]
  rfl

theorem mem_of_pset_find (p : Pset) (node : U32) (e : PsetEntry) (h : pset_find p node = some e) :
    e ∈ p ∧ e.node = node := by
  have hid := List.find?_some h
  exact ⟨List.mem_of_find?_eq_some h, beq_iff_eq.mp hid⟩

/-- Only the pairs matter, and fewer of them are as good. -/
theorem one_to_one_of_names (p p' : Pset) (h : (names p').Sublist (names p)) (hp : OneToOne p) :
    OneToOne p' := by
  refine ⟨?_, ?_⟩
  · rw [ids_of_names]
    exact List.Nodup.sublist (h.map Prod.fst) (ids_of_names p ▸ hp.ids)
  · rw [macs_of_names]
    exact List.Nodup.sublist (h.map Prod.snd) (macs_of_names p ▸ hp.macs)

theorem names_pset_reset_fail_count (p : Pset) (node : U32) :
    names (pset_reset_fail_count p node) = names p :=
  map_on_first _ node _ (by intro tmp; rfl) p

/-- An entry that is counted up keeps its id and its address. -/
theorem names_fail_entry (done : Pset) (tmp : PsetEntry) (pos : Pset) :
    names (done ++ (Vrr.fail_entry tmp).1 :: pos) = names (done ++ tmp :: pos) := by
  unfold names
  rw [List.map_append, List.map_append, List.map_cons, List.map_cons, Vrr.fail_entry_node,
    Vrr.fail_entry_mac]

/-- An update adds the pair of a new id, and otherwise changes no pair. -/
theorem names_updated (p : Pset) (tmp : PsetUpdate) :
    names (updated p tmp) =
      if pset_contains p tmp.node then names p else (tmp.node, tmp.mac) :: names p :=
  map_updated _ (fun _ _ _ => rfl) p tmp

/-- Under both uniqueness conditions the two lookups are inverse. -/
theorem pset_lookups_inverse (p : Pset) (h : OneToOne p) (n : U32) (hn : n ∈ pset_ids p) :
    ∃ m, pset_get_mac p n = some m ∧ pset_lookup_mac p m = some n := by
  rcases Option.isSome_iff_exists.mp ((pset_find_isSome_iff p n).mpr hn) with ⟨e, hfind⟩
  rcases mem_of_pset_find p n e hfind with ⟨hmem, hid⟩
  refine ⟨e.mac, by rw [pset_get_mac, hfind, Option.map_some], ?_⟩
  unfold pset_lookup_mac
  cases hmac : p.find? (fun tmp => tmp.mac == e.mac) with
  | none => exact absurd (beq_self_eq_true e.mac) (List.find?_eq_none.mp hmac e hmem)
  | some e' =>
      -- the entry found by the address has it, so it is the same one
      have heq := List.find?_some hmac
      have hsame := List.inj_on_of_nodup_map h.macs (List.mem_of_find?_eq_some hmac) hmem
        (beq_iff_eq.mp heq)
      rw [Option.map_some, hsame, hid]

theorem one_to_one_updated (p : Pset) (tmp : PsetUpdate) (hmatch : Matches p tmp)
    (h : OneToOne p) : OneToOne (updated p tmp) := by
  by_cases hpresent : pset_contains p tmp.node = true
  · refine one_to_one_of_names p _ ?_ h
    rw [names_updated, if_pos hpresent]
  · have hnew : names (updated p tmp) = (tmp.node, tmp.mac) :: names p := by
      rw [names_updated, if_neg hpresent]
    have hid : tmp.node ∉ pset_ids p := fun hin => hpresent ((pset_contains_iff p _).mpr hin)
    refine ⟨?_, ?_⟩
    · rw [ids_of_names, hnew, List.map_cons, ← ids_of_names]
      exact List.nodup_cons.mpr ⟨hid, h.ids⟩
    · rw [macs_of_names, hnew, List.map_cons, ← macs_of_names]
      refine List.nodup_cons.mpr ⟨fun hmac => ?_, h.macs⟩
      -- an entry with this address would have the id as well
      rcases List.mem_map.mp hmac with ⟨e, he, hmac⟩
      exact hid (List.mem_map.mpr ⟨e, he, (hmatch e he).mpr hmac⟩)

/-- After a matching update its id is looked up to its address. -/
theorem pset_get_mac_updated (p : Pset) (tmp : PsetUpdate) (hmatch : Matches p tmp) :
    pset_get_mac (updated p tmp) tmp.node = some tmp.mac := by
  have hpair : ∀ e ∈ updated p tmp, e.node = tmp.node → e.mac = tmp.mac := by
    intro e he hid
    have hname : (e.node, e.mac) ∈ names (updated p tmp) := List.mem_map.mpr ⟨e, he, rfl⟩
    have hold : (e.node, e.mac) ∈ names p → e.mac = tmp.mac := by
      intro hname
      rcases List.mem_map.mp hname with ⟨e', he', heq⟩
      rw [Prod.mk.injEq] at heq
      rw [← heq.2]
      exact (hmatch e' he').mp (heq.1.trans hid)
    rw [names_updated] at hname
    split_ifs at hname
    · exact hold hname
    · rcases List.mem_cons.mp hname with hname | hname
      · rw [Prod.mk.injEq] at hname
        exact hname.2
      · exact hold hname
  have hin : tmp.node ∈ pset_ids (updated p tmp) := by
    rw [ids_of_names, names_updated]
    split_ifs with hpresent
    · rw [← ids_of_names]
      exact (pset_contains_iff p _).mp hpresent
    · exact List.mem_map.mpr ⟨(tmp.node, tmp.mac), List.mem_cons_self, rfl⟩
  rcases Option.isSome_iff_exists.mp ((pset_find_isSome_iff _ _).mpr hin) with ⟨e, hfind⟩
  rcases mem_of_pset_find _ _ e hfind with ⟨hmem, hid⟩
  rw [pset_get_mac, hfind, Option.map_some, hpair e hmem hid]

/-- No handler touches the set. -/
theorem routine_one_to_one : Routine (fun _ => True) (fun s => OneToOne s.node.pset) :=
  routine_base (fun n => OneToOne n.pset)

namespace Vrr

theorem vrr_rcv_one_to_one (skb : SkBuff) :
    Preserves (fun s => OneToOne s.node.pset) (vrr_rcv skb) := by
  refine routine_one_to_one.handles.vrr_rcv skb (fun s hs => ?_) (fun hty => ?_)
  · refine one_to_one_of_names s.node.pset _ ?_ hs
    exact (names_pset_reset_fail_count s.node.pset _) ▸ List.Sublist.refl _
  · exact routine_one_to_one.vrr_rcvfunc_of_all skb hty (fun _ =>
      routine_one_to_one.draws.vrr_rcv_hello skb (fun s hs => hs)
        (fun tmp _ _ => Triple.modify _ (fun s hs => hs)))

theorem pset_state_update_one_to_one :
    Preserves (fun s => OneToOne s.node.pset) pset_state_update :=
  pset_state_update_settled.preserves (fun v : Node × List Packet => OneToOne v.1.pset)

theorem vrr_workqueue_handler_one_to_one :
    Preserves (fun s => Cached (fun s => OneToOne s.node.pset) s.node.pset s)
      vrr_workqueue_handler := by
  refine vrr_workqueue_handler_cached (fun s done tmp pos hs hp => ?_)
    (fun s done tmp pos hs hp => ?_) pset_state_update_one_to_one (fun _ _ _ hs => hs) ?_
  · rw [hp] at hs
    refine one_to_one_of_names _ _ ?_ hs
    rw [names_fail_entry]
  · rw [hp] at hs
    refine one_to_one_of_names _ _ ?_ hs
    exact ((List.sublist_cons_self tmp pos).append_left done).map _
  · exact ((node_of_still send_hpkt_still).preserves (fun n => OneToOne n.pset)).pre
      (fun _ hs => hs.1)

end Vrr

/-- The set is one-to-one, and the cached lists agree with it. -/
def Paired (s : Sys) : Prop := Vrr.Cached (fun s => OneToOne s.node.pset) s.node.pset s

/-- The rounds for matching updates. -/
theorem updates_paired (l : List PsetUpdate) (p : Pset)
    (hmatch : ∀ done tmp rest, l = done ++ tmp :: rest → Matches (done.foldl updated p) tmp) :
    Triple (Vrr.Cached (fun s => OneToOne s.node.pset) p) (l.forM Vrr.pset_update)
      (fun _ => Vrr.Cached (fun s => OneToOne s.node.pset) (l.foldl updated p))
      (fun _ => True) := by
  refine Vrr.pset_updates_cached routine_one_to_one.draws Vrr.pset_state_update_one_to_one
    (fun _ _ _ => routine_one_to_one.own.send_setup_req trivial _ _ _) (fun _ hs => hs) l p
    (fun done tmp rest hl s hs hp => ?_)
  rw [hp] at hs
  exact one_to_one_updated _ tmp (hmatch done tmp rest hl) hs

/-- One event whose updates match the set. -/
theorem step_paired (s t : Sys) (i : Event × Kernel) (hs : Paired s) (hmatched : Matched s i.1)
    (hstep : Step s i t) : Paired t := by
  refine step_cases (I := Paired) hstep (fun skb r _ hrun => ?_) (fun he => ?_)
    (fun _ => Vrr.vrr_workqueue_handler_one_to_one.ok (s := { s with kern := i.2 }) hs)
    (fun _ _ => hs)
  · have ht := (Triple.and (Vrr.vrr_rcv_one_to_one skb) (Vrr.vrr_rcv_advertises skb)).ok
      (s := { s with kern := i.2 }) ⟨hs.1, hs.2.2⟩ hrun
    exact ⟨ht.1, rfl, ht.2⟩
  · refine (Vrr.pset_update_handler_cached routine_one_to_one.draws
      Vrr.pset_state_update_one_to_one
      (fun _ _ _ => routine_one_to_one.own.send_setup_req trivial _ _ _) (fun _ _ _ ht => ht)
      { s with kern := i.2 } hs (fun done tmp rest hl t ht hp => ?_)).ok rfl
    rw [hp] at ht
    exact one_to_one_updated _ tmp (hmatched he done tmp rest hl) ht

/-- In every run whose updates match the set, no two entries share an id or an
    address, so that the lookups are inverse. And when the handler has got as
    far as some update, its id is looked up to its address. -/
theorem one_to_one_of_matches (id : U32) (g : Nat → U32) (gm : Nat → MacAddr) (k : Kernel)
    (t : Sys) (hrun : Reach (fun s i t => Step s i t ∧ Matched s i.1)
      (Sys.boot (vrr_init id g gm) k) t) :
    OneToOne t.node.pset ∧
      (∀ n ∈ pset_ids t.node.pset,
        ∃ m, pset_get_mac t.node.pset n = some m ∧ pset_lookup_mac t.node.pset m = some n) ∧
      ∀ done tmp rest k u, t.node.pset_updates = done ++ tmp :: rest →
        Matched t .pset_update_handler →
        (done ++ [tmp]).forM Vrr.pset_update { t with kern := k } = .ok ((), u) →
        OneToOne u.node.pset ∧ pset_get_mac u.node.pset tmp.node = some tmp.mac := by
  have hinv : Paired t := by
    refine hrun.invariant Paired ?_ (fun s i t hs hstep => step_paired s t i hs hstep.2 hstep.1)
    exact ⟨⟨List.nodup_nil, List.nodup_nil⟩, rfl, ⟨rfl, rfl, rfl⟩, ⟨rfl, rfl, rfl⟩,
      ⟨rfl, rfl, rfl⟩⟩
  refine ⟨hinv.1, pset_lookups_inverse _ hinv.1, fun done tmp rest k u hl hmatched hu => ?_⟩
  have hprefix : ∀ d x r, done ++ [tmp] = d ++ x :: r →
      Matches (d.foldl updated t.node.pset) x := by
    intro d x r hd
    refine hmatched rfl d x (r ++ rest) ?_
    rw [hl, List.append_cons, hd, List.append_assoc, List.cons_append]
  have hafter := (updates_paired (done ++ [tmp]) t.node.pset hprefix).ok
    (s := { t with kern := k }) hinv hu
  have hset : u.node.pset = updated (done.foldl updated t.node.pset) tmp := by
    rw [hafter.2.1, List.foldl_append]
    rfl
  refine ⟨hafter.1, ?_⟩
  rw [hset]
  exact pset_get_mac_updated _ tmp (hmatched rfl done tmp rest hl)

/-- Nodes 2 and 3 share an address. Both get an entry, and a packet from node 2
    is taken for one from node 3. -/
theorem one_to_one_shared :
    ∃ t, Reach Step node_one t ∧ ¬ OneToOne t.node.pset ∧ (2 : U32) ∈ pset_ids t.node.pset ∧
      pset_get_mac t.node.pset 2 = some 2 ∧ pset_lookup_mac t.node.pset 2 = some 3 := by
  have heval : (run_events node_one ([.vrr_rcv (frame 2 VRR_HELLO 2 0 [0, 0, 0, 0]),
      .vrr_rcv (frame 2 VRR_HELLO 3 0 [0, 0, 0, 0]), .pset_update_handler].map
      (fun e => (e, Kernel.calm)))).map (fun t => t.node.pset) =
      some [⟨3, .pending, 0, 2, 0⟩, ⟨2, .pending, 0, 2, 0⟩] := by
    decide +kernel
  rcases Option.map_eq_some_iff.mp heval with ⟨t, ht, hpset⟩
  have hreach := (reach_run_events (fun _ => True) node_one node_one t _ Reach.refl
    (fun _ _ => trivial) ht).mono (fun _ _ _ h => h.1)
  refine ⟨t, hreach, fun h => ?_, ?_⟩
  · have hmacs := h.macs
    rw [hpset] at hmacs
    exact absurd hmacs (by decide)
  · rw [hpset]
    decide

/-- Nodes 2 and 3 are heard, and node 2 again. The timer goes off in between,
    and each update matches the set. -/
theorem one_to_one_single :
    ∃ t, Reach (fun s i t => Step s i t ∧ Matched s i.1) node_one t ∧
      pset_ids t.node.pset = [3, 2] ∧
      pset_get_mac t.node.pset 2 = some 7 ∧ pset_lookup_mac t.node.pset 7 = some 2 ∧
      OneToOne t.node.pset := by
  obtain ⟨t, ht, hend⟩ := reach_of_check (works_off Matches)
    ([.vrr_rcv (frame 7 VRR_HELLO 2 0 [0, 0, 0, 0]), .pset_update_handler, .vrr_workqueue_handler,
      .vrr_rcv (frame 8 VRR_HELLO 3 0 [0, 0, 0, 0]),
      .vrr_rcv (frame 7 VRR_HELLO 2 0 [0, 0, 0, 1, 1]), .pset_update_handler].map (fun e => (e, Kernel.calm)))
    (fun s => decide (pset_ids s.node.pset = [3, 2] ∧ pset_get_mac s.node.pset 2 = some 7 ∧
      pset_lookup_mac s.node.pset 7 = some 2)) (by decide +kernel)
  have hrun : Reach (fun s i t => Step s i t ∧ Matched s i.1) node_one t :=
    ht.mono (fun u i v h => ⟨h.1, of_works_off Matches h.2⟩)
  obtain ⟨hids, h2, h7⟩ := of_decide_eq_true hend
  exact ⟨t, hrun, hids, h2, h7,
    (one_to_one_of_matches 1 (fun _ => 0) (fun _ => 0) Kernel.calm t hrun).1⟩

end AlpacaVrr
