import AlpacaVrr.Theory.Unwritten

/-!
# Packets That End Too Early

Two contents of unwritten memory that a short packet tells apart.

`Theory.Unwritten` says when unwritten memory does not matter. Here are packets
for which it does. Memory in which every word reads as the same number is
enough. With 21 in it a size that is missing is too large, and with 0 it is
not, so the packet is rejected in one run and not in the other. A list of a
hello that is missing holds the local node in one run and does not in the
other.

For hellos this is all there is: one is handled alike exactly when it is whole.

## Main definitions

* `filled`: Memory that reads as one number.
* `CutShort`: The handler needs a size that the packet is too short for.

## Theorems

* `not_indifferent_of_cut_short`: Such a packet is rejected or not.
* `hello_indifferent_iff`: The hellos that are handled alike.
-/

namespace AlpacaVrr

open FaultState

/-- Memory in which every word reads as `w`. -/
def filled (w : U32) : Nat → Garbage := fun _ _ => htonl w

/-- The handler needs the size of a vset, and the packet ends before it. -/
inductive CutShort (n : Node) (skb : SkBuff) : Prop where
  | setup_req (hty : skb.pkt.vh.pkt_type = VRR_SETUP_REQ)
      (hend : RtTable.rt_get_next_exclude n.me n.rt skb.pkt.dst skb.pkt.src = 0)
      (hshort : word skb.pkt (vrr_header_size + 4) = none)
  | setup (sender : U32) (hty : skb.pkt.vh.pkt_type = VRR_SETUP)
      (hsender : sender_of n skb = some sender)
      (hshort : word skb.pkt (vrr_header_size + 8) = none)
  | setup_fail (hty : skb.pkt.vh.pkt_type = VRR_SETUP_FAIL)
      (hshort : word skb.pkt (vrr_header_size + 4) = none)
  | teardown (ea pid : U32) (route : RtEntry) (hty : skb.pkt.vh.pkt_type = VRR_TEARDOWN)
      (hea : word skb.pkt vrr_header_size = some ea)
      (hpid : word skb.pkt (vrr_header_size + 4) = some pid)
      (hroute : (n.rt.rt_remove_route ea pid).1 = some route)
      (hshort : word skb.pkt (vrr_header_size + 8) = none)

/-- The word at an offset, and the words. What is missing reads as `w`. -/
def word_or (p : Packet) (offset : Nat) (w : U32) : U32 := (word p offset).getD w

def words_or (p : Packet) (offset size : Nat) (w : U32) : List U32 :=
  (words p offset size).getD (List.replicate size w)

/-- How a hello is taken to list the local node, unless it is rejected. -/
def hello_read (me : U32) (p : Packet) (w : U32) : Option HelloTrans :=
  let la_size := (word_or p (vrr_header_size + 4) w).toNat
  let lna_size := (word_or p (vrr_header_size + 8) w).toNat
  let p_size := (word_or p (vrr_header_size + 12) w).toNat
  if VRR_PSET_SIZE < la_size then none
  else if VRR_PSET_SIZE < lna_size then none
  else if VRR_PSET_SIZE < p_size then none
  else some (hello_listed me (words_or p (vrr_header_size + 16) la_size w)
    (words_or p (vrr_header_size + 16 + la_size * 4) lna_size w)
    (words_or p (vrr_header_size + 16 + la_size * 4 + lna_size * 4) p_size w))

namespace Vrr

/-- `vrr_rcv` after its handler. -/
theorem vrr_rcv_after {n : Node} {k : Kernel} (skb : SkBuff)
    (hty : skb.pkt.vh.pkt_type < VRR_NPTYPES) {R : Int → Sys → Prop} {E : Fault → Prop}
    (h : Triple (fun s => s = Sys.boot (heard n skb.pkt.src) k) (vrr_rcvfunc skb) R E) :
    Triple (fun s => s = Sys.boot n k) (vrr_rcv skb)
      (fun ret s => ∃ err t, R err t ∧ s.node = t.node ∧ s.sent = t.sent ∧
        (SkbRef.allocated ∈ t.released → SkbRef.allocated ∈ s.released) ∧ (ret = 0 ↔ err = 0))
      E := by
  unfold vrr_rcv
  refine Triple.ite _ (fun hge => absurd hty (BitVec.not_lt.mpr hge)) (fun _ => ?_)
  refine Triple.bind (Q := fun _ s => s = Sys.boot (heard n skb.pkt.src) k)
    (Triple.modify _ (fun s hs => by rw [hs]; rfl)) (fun _ => ?_)
  refine Triple.bind h (fun err => Triple.ite _ (fun herr => ?_) (fun herr => ?_))
  · refine Triple.bind (Q := fun _ s => ∃ t, R err t ∧ s.node = t.node ∧ s.sent = t.sent ∧
      (SkbRef.allocated ∈ t.released → SkbRef.allocated ∈ s.released))
      (Triple.modify _ (fun s hs => ⟨s, hs, rfl, rfl, List.mem_append_left _⟩))
      (fun _ => Triple.pure 1 ?_)
    rintro s ⟨t, ht, hnode, hsent, hown⟩
    exact ⟨err, t, ht, hnode, hsent, hown, iff_of_false (by decide) herr⟩
  · exact Triple.pure 0 (fun s hs =>
      ⟨err, s, hs, rfl, rfl, fun hown => hown, iff_of_true rfl (not_not.mp herr)⟩)

section Filled

variable {n : Node} {l : List Packet} {w : U32}

theorem uninit_filled : Triple (Sys.At n l (filled w)) uninit
    (fun g s => s.At n l (filled w) ∧ g = fun _ => htonl w) (fun _ => False) :=
  uninit_at

/-- A word that is missing is read as `w`. -/
theorem read_u32_filled (p : Packet) (offset : Nat) :
    Triple (Sys.At n l (filled w)) (read_u32 p offset)
      (fun a s => s.At n l (filled w) ∧ a = (word p offset).getD w) (fun _ => False) := by
  unfold read_u32
  cases word p offset with
  | some a => exact Triple.pure _ (fun s hs => ⟨hs, rfl⟩)
  | none =>
      refine Triple.bind uninit_filled (fun g => Triple.of_and (fun hg => ?_))
      rw [hg]
      exact Triple.pure _ (fun s hs => ⟨hs, ntohl_htonl w⟩)

/-- An array that is missing is read as `w` throughout. -/
theorem read_array_filled (p : Packet) (offset size : Nat) :
    Triple (Sys.At n l (filled w)) (read_array p offset size)
      (fun ids s => s.At n l (filled w) ∧ ids = (words p offset size).getD (List.replicate size w))
      (fun _ => False) := by
  unfold read_array
  cases words p offset size with
  | some ids => exact Triple.pure _ (fun s hs => ⟨hs, rfl⟩)
  | none =>
      refine Triple.bind uninit_filled (fun g => Triple.of_and (fun hg => ?_))
      rw [hg]
      refine Triple.pure _ (fun s hs => ⟨hs, ?_⟩)
      simp only [ntohl_htonl, List.map_const', List.length_range, Option.getD_none]

/-- A size that is missing is read as `w`. It is rejected, or the handler goes on
    and returns zero. -/
theorem received_filled (p : Packet) (size_at offset room : Nat) (k : List U32 → Vrr Int)
    (size : U32) (hsize : size = (word p size_at).getD w) (hshort : word p size_at = none)
    (hk : ∀ ids, Triple (fun _ => True) (k ids) (fun ret _ => ret = 0) (fun _ => True)) :
    Triple (Sys.At n l (filled w))
      (if VRR_VSET_SIZE < size.toNat then pure (-1)
        else do
          let vset ← kmalloc room
          if vset then do
            let vset ← read_array p offset size.toNat
            k vset
          else pure (-1))
      (fun ret _ => ret = if VRR_VSET_SIZE < w.toNat then -1 else 0)
      (fun _ => ¬ VRR_VSET_SIZE < w.toNat) := by
  have hw : size = w := by rw [hsize, hshort, Option.getD_none]
  rw [← hw]
  by_cases hfit : VRR_VSET_SIZE < size.toNat
  · rw [if_pos hfit, if_pos hfit]
    exact Triple.pure _ (fun _ _ => rfl)
  · rw [if_neg hfit, if_neg hfit]
    refine Triple.bind (kmalloc_at room).safe (fun vset => Triple.of_and (fun hvset => ?_))
    rw [hvset]
    exact Triple.bind (read_array_filled p offset _).safe (fun ids => (hk ids).conseq
      (fun _ _ => trivial) (fun _ _ hret => hret) (fun _ _ => hfit))

theorem setup_next_hop_filled (dst proxy : U32) :
    Triple (Sys.At n l (filled w)) (setup_next_hop dst proxy) (fun _ => Sys.At n l (filled w))
      (fun _ => False) :=
  Triple.reads _ (setup_next_hop_run dst proxy) (fun _ hs => hs)

theorem rt_add_route_filled (ea eb na nb pid : U32) :
    Triple (Sys.At n l (filled w)) (rt_add_route ea eb na nb pid)
      (fun ok s => (∃ m, s.At m l (filled w)) ∧ ok = true) (fun _ => False) :=
  (rt_add_route_at ea eb na nb pid).post (fun _ _ ⟨⟨_, hs⟩, hok⟩ => ⟨⟨_, hs⟩, hok⟩)

/-- A handler that ends with a zero, whatever it does before. -/
theorem then_zero {α : Type} (x : Vrr α) :
    Triple (fun _ => True) (x >>= fun _ => pure 0) (fun ret _ => ret = (0 : Int))
      (fun _ => True) :=
  Triple.bind Triple.any (fun _ => Triple.pure 0 (fun _ _ => rfl))

/-- A setup_req that goes no further and ends before its size. -/
theorem vrr_rcv_setup_req_filled (skb : SkBuff)
    (hend : RtTable.rt_get_next_exclude n.me n.rt skb.pkt.dst skb.pkt.src = 0)
    (hshort : word skb.pkt (vrr_header_size + 4) = none) :
    Triple (Sys.At n l (filled w)) (vrr_rcv_setup_req skb)
      (fun ret _ => ret = if VRR_VSET_SIZE < w.toNat then -1 else 0)
      (fun _ => ¬ VRR_VSET_SIZE < w.toNat) := by
  unfold vrr_rcv_setup_req rt_get_next_exclude
  refine Triple.bind (Triple.bind me_at.safe (fun me => Triple.of_and (fun hme =>
    Triple.pure _ (Q := fun nh s => Sys.At n l (filled w) s ∧ nh = 0) (fun s hs => ⟨hs, ?_⟩))))
    (fun nh => Triple.of_and (fun hnh => ?_))
  · rw [hme]
    exact hend
  refine Triple.ite _ (fun h => absurd hnh h) (fun _ => ?_)
  refine Triple.bind (read_u32_filled _ _).safe (fun proxy => Triple.of_and (fun _ => ?_))
  refine Triple.bind (read_u32_filled _ _).safe (fun size => Triple.of_and (fun hsize => ?_))
  refine received_filled _ _ _ _ _ size hsize hshort (fun ids => ?_)
  -- with the size accepted, the setup_req is answered, and both answers return zero
  refine Triple.bind Triple.any (fun all => Triple.bind Triple.any (fun added => ?_))
  refine Triple.ite _ (fun _ => ?_) (fun _ => then_zero _)
  exact Triple.bind Triple.any (fun pid => then_zero _)

/-- A setup from a known sender that ends before its size. -/
theorem vrr_rcv_setup_filled (skb : SkBuff) {sender : U32}
    (hsender : sender_of n skb = some sender)
    (hshort : word skb.pkt (vrr_header_size + 8) = none) :
    Triple (Sys.At n l (filled w)) (vrr_rcv_setup skb)
      (fun ret _ => ret = if VRR_VSET_SIZE < w.toNat then -1 else 0)
      (fun _ => ¬ VRR_VSET_SIZE < w.toNat) := by
  unfold vrr_rcv_setup
  unfold sender_of at hsender
  refine Triple.bind me_at.safe (fun me => Triple.of_and (fun hme => ?_))
  refine Triple.bind (read_u32_filled _ _).safe (fun pid => Triple.of_and (fun _ => ?_))
  refine Triple.bind (read_u32_filled _ _).safe (fun proxy => Triple.of_and (fun _ => ?_))
  rw [hme, hsender]
  -- the route is filed before the size is read
  refine Triple.bind (setup_next_hop_filled _ _).safe (fun nh => ?_)
  refine Triple.bind (rt_add_route_filled _ _ _ _ _).safe
    (fun ok => Triple.of_and (fun hok => ?_))
  rw [hok]
  rintro s ⟨m, hs⟩
  refine Triple.bind (read_u32_filled _ _).safe
    (fun size => Triple.of_and (fun hsize => ?_)) s hs
  refine received_filled _ _ _ _ _ size hsize hshort (fun ids => ?_)
  refine Triple.ite _ (fun _ => then_zero _) (fun _ => Triple.bind Triple.any (fun ret => ?_))
  exact Triple.ite _ (fun _ => then_zero _) (fun _ => Triple.pure 0 (fun _ _ => rfl))

/-- A setup_fail that ends before its size. -/
theorem vrr_rcv_setup_fail_filled (skb : SkBuff)
    (hshort : word skb.pkt (vrr_header_size + 4) = none) :
    Triple (Sys.At n l (filled w)) (vrr_rcv_setup_fail skb)
      (fun ret _ => ret = if VRR_VSET_SIZE < w.toNat then -1 else 0)
      (fun _ => ¬ VRR_VSET_SIZE < w.toNat) := by
  unfold vrr_rcv_setup_fail
  refine Triple.bind (read_u32_filled _ _).safe (fun proxy => Triple.of_and (fun _ => ?_))
  refine Triple.bind (read_u32_filled _ _).safe (fun size => Triple.of_and (fun hsize => ?_))
  refine received_filled _ _ _ _ _ size hsize hshort (fun ids => ?_)
  refine Triple.bind Triple.any (fun nh => Triple.ite _ (fun _ => then_zero _) (fun _ => ?_))
  refine Triple.bind Triple.any (fun me => Triple.ite _ (fun _ => ?_)
    (fun _ => Triple.pure 0 (fun _ _ => rfl)))
  exact Triple.bind Triple.any (fun _ => then_zero _)

/-- A teardown of a stored route that ends before its size. -/
theorem vrr_rcv_teardown_filled (skb : SkBuff) {ea pid : U32} {route : RtEntry}
    (hea : word skb.pkt vrr_header_size = some ea)
    (hpid : word skb.pkt (vrr_header_size + 4) = some pid)
    (hroute : (n.rt.rt_remove_route ea pid).1 = some route)
    (hshort : word skb.pkt (vrr_header_size + 8) = none) :
    Triple (Sys.At n l (filled w)) (vrr_rcv_teardown skb)
      (fun ret _ => ret = if VRR_VSET_SIZE < w.toNat then -1 else 0)
      (fun _ => ¬ VRR_VSET_SIZE < w.toNat) := by
  unfold vrr_rcv_teardown
  refine Triple.bind (read_u32_filled _ _).safe (fun a => Triple.of_and (fun ha => ?_))
  refine Triple.bind (read_u32_filled _ _).safe (fun b => Triple.of_and (fun hb => ?_))
  refine Triple.bind (read_u32_filled _ _).safe (fun size => Triple.of_and (fun hsize => ?_))
  rw [hea, Option.getD_some] at ha
  rw [hpid, Option.getD_some] at hb
  -- the route is removed before the size is looked at
  refine Triple.bind (rt_remove_route_at _ _).safe
    (fun found => Triple.of_and (fun hfound => ?_))
  rw [hfound, ha, hb, hroute]
  refine received_filled _ _ _ _ _ size hsize hshort (fun ids => ?_)
  refine Triple.ite _ (fun _ => then_zero _) (fun _ => ?_)
  exact Triple.bind Triple.any (fun _ => then_zero _)

/-- A handler that needs the size. -/
theorem vrr_rcvfunc_filled (skb : SkBuff) (h : CutShort n skb) :
    Triple (Sys.At n l (filled w)) (vrr_rcvfunc skb)
      (fun ret _ => ret = if VRR_VSET_SIZE < w.toNat then -1 else 0)
      (fun _ => ¬ VRR_VSET_SIZE < w.toNat) := by
  cases h with
  | setup_req hty hend hshort =>
      rw [vrr_rcvfunc_setup_req skb hty]
      exact vrr_rcv_setup_req_filled skb hend hshort
  | setup sender hty hsender hshort =>
      rw [vrr_rcvfunc_setup skb hty]
      exact vrr_rcv_setup_filled skb hsender hshort
  | setup_fail hty hshort =>
      rw [vrr_rcvfunc_setup_fail skb hty]
      exact vrr_rcv_setup_fail_filled skb hshort
  | teardown ea pid route hty hea hpid hroute hshort =>
      rw [vrr_rcvfunc_teardown skb hty]
      exact vrr_rcv_teardown_filled skb hea hpid hroute hshort

/-- What a hello leaves behind. -/
theorem vrr_rcv_hello_filled (skb : SkBuff) :
    Triple (Sys.At n l (filled w)) (vrr_rcv_hello skb)
      (fun ret s => match hello_read n.me skb.pkt w with
        | some listed => ret = 0 ∧ s.node.pset_updates = n.pset_updates ++
            [⟨skb.pkt.src, skb.h_source, listed, word_or skb.pkt vrr_header_size w⟩]
        | none => ret = -1) (fun _ => False) := by
  unfold vrr_rcv_hello hello_read word_or words_or
  refine Triple.bind me_at (fun me => Triple.of_and (fun hme => ?_))
  refine Triple.bind (read_u32_filled _ _) (fun active => Triple.of_and (fun hactive => ?_))
  refine Triple.bind (read_u32_filled _ _) (fun la_size => Triple.of_and (fun hla => ?_))
  rw [hme, hactive, ← hla]
  -- each size is checked before the next one is read, as in the definition
  by_cases hla20 : VRR_PSET_SIZE < la_size.toNat
  · simp only [if_pos hla20]
    exact Triple.pure _ (fun _ _ => rfl)
  simp only [if_neg hla20]
  refine Triple.bind (read_u32_filled _ _) (fun lna_size => Triple.of_and (fun hlna => ?_))
  rw [← hlna]
  by_cases hlna20 : VRR_PSET_SIZE < lna_size.toNat
  · simp only [if_pos hlna20]
    exact Triple.pure _ (fun _ _ => rfl)
  simp only [if_neg hlna20]
  refine Triple.bind (read_u32_filled _ _) (fun p_size => Triple.of_and (fun hp => ?_))
  rw [← hp]
  by_cases hp20 : VRR_PSET_SIZE < p_size.toNat
  · simp only [if_pos hp20]
    exact Triple.pure _ (fun _ _ => rfl)
  simp only [if_neg hp20]
  refine Triple.bind (read_array_filled _ _ _) (fun la => Triple.of_and (fun hla' => ?_))
  refine Triple.bind (read_array_filled _ _ _) (fun lna => Triple.of_and (fun hlna' => ?_))
  refine Triple.bind (read_array_filled _ _ _) (fun p => Triple.of_and (fun hp' => ?_))
  rw [← hla', ← hlna', ← hp']
  refine Triple.bind (kmalloc_at 1) (fun update => Triple.of_and (fun hupdate => ?_))
  rw [hupdate]
  intro s hs
  refine ⟨rfl, ?_⟩
  change s.node.pset_updates ++ _ = _
  rw [hs.node]

end Filled

end Vrr

/-- Of a packet that is handled alike, two runs end alike. -/
theorem Indifferent.both {n : Node} {skb : SkBuff} (hind : Indifferent n skb)
    (hty : skb.pkt.vh.pkt_type < VRR_NPTYPES) (g g' : Nat → Garbage) {R R' : Int → Sys → Prop}
    (h : Triple (Sys.At (heard n skb.pkt.src) [] g) (Vrr.vrr_rcvfunc skb) R (fun _ => False))
    (h' : Triple (Sys.At (heard n skb.pkt.src) [] g') (Vrr.vrr_rcvfunc skb) R' (fun _ => True)) :
    ∃ err s err' s', R err s ∧ R' err' s' ∧ (err = 0 ↔ err' = 0) ∧ s.node = s'.node := by
  have hpre : ∀ g s, s = Sys.boot (heard n skb.pkt.src) { Kernel.calm with uninit := g } →
      s.At (heard n skb.pkt.src) [] g := by
    rintro g s rfl
    exact ⟨rfl, rfl, rfl, fun _ => rfl⟩
  have hsame := hind { Kernel.calm with uninit := g' } ⟨0, (0, 0), (0, 0)⟩ g
    (fun _ => ⟨0, (0, 0), (0, 0)⟩) (fun _ => ⟨0, (0, 0), (0, 0)⟩)
  have hrun := Vrr.vrr_rcv_after skb hty (h.pre (hpre g)) _ rfl
  have hrun' := Vrr.vrr_rcv_after skb hty (h'.pre (hpre g')) _ rfl
  unfold outcome at hsame
  -- the first run ends, so the second one, which ends alike, does too
  cases hs : Vrr.vrr_rcv skb (Sys.boot n { Kernel.calm with uninit := g }) with
  | error e =>
      rw [hs] at hrun
      exact hrun.elim
  | ok p =>
      cases hs' : Vrr.vrr_rcv skb (Sys.boot n { Kernel.calm with uninit := g' }) with
      | error e =>
          rw [hs, hs'] at hsame
          cases hsame
      | ok q =>
          rw [hs] at hrun
          rw [hs'] at hrun'
          rw [hs, hs'] at hsame
          rcases hrun with ⟨err, t, ht, hnode, _, _, hret⟩
          rcases hrun' with ⟨err', t', ht', hnode', _, _, hret'⟩
          simp only [Except.ok.injEq, Prod.mk.injEq] at hsame
          refine ⟨err, t, err', t', ht, ht', ?_, ?_⟩
          · rw [← hret, ← hret', hsame.1]
          · rw [← hnode, ← hnode', hsame.2.1]

/-- A size that is missing leaves it to unwritten memory whether the packet is
    rejected. -/
theorem not_indifferent_of_cut_short (n : Node) (skb : SkBuff)
    (h : CutShort (heard n skb.pkt.src) skb) : ¬ Indifferent n skb := by
  have hty : skb.pkt.vh.pkt_type < VRR_NPTYPES := by
    cases h with
    | setup_req hty | setup _ hty | setup_fail hty | teardown _ _ _ hty =>
        rw [hty]
        decide
  intro hind
  rcases hind.both hty (filled 5) (filled 0) ((Vrr.vrr_rcvfunc_filled skb h).conseq
    (fun _ hs => hs) (fun _ _ hret => hret) (fun _ hfit => hfit (by decide)))
    (Vrr.vrr_rcvfunc_filled skb h).lax with ⟨err, s, err', s', herr, herr', hiff, _⟩
  rw [if_pos (by decide)] at herr
  rw [if_neg (by decide)] at herr'
  rw [herr, herr'] at hiff
  exact absurd (hiff.mpr rfl) (by decide)

theorem words_isSome_iff (p : Packet) (offset size : Nat) :
    (words p offset size).isSome = true ↔
      offset + size * 4 ≤ vrr_header_size + p.data.length := by
  unfold words skb_copy_bits
  split_ifs with hfit
  · exact iff_of_true rfl hfit
  · exact iff_of_false (by simp only [Option.map_none, Option.isSome_none, reduceCtorEq,
      not_false_eq_true]) hfit

theorem word_isSome_iff (p : Packet) (offset : Nat) :
    (word p offset).isSome = true ↔ offset + 4 ≤ vrr_header_size + p.data.length := by
  unfold word skb_copy_bits
  split_ifs with hfit
  · exact iff_of_true rfl hfit
  · exact iff_of_false (by simp only [Option.map_none, Option.isSome_none, reduceCtorEq,
      not_false_eq_true]) hfit

theorem word_or_missing {p : Packet} {offset : Nat}
    (h : ¬ offset + 4 ≤ vrr_header_size + p.data.length) (w : U32) : word_or p offset w = w := by
  rw [← word_isSome_iff, Option.not_isSome_iff_eq_none] at h
  rw [word_or, h, Option.getD_none]

theorem words_or_missing {p : Packet} {offset size : Nat}
    (h : ¬ offset + size * 4 ≤ vrr_header_size + p.data.length) (w : U32) :
    words_or p offset size w = List.replicate size w := by
  rw [← words_isSome_iff, Option.not_isSome_iff_eq_none] at h
  rw [words_or, h, Option.getD_none]

theorem words_or_zero (p : Packet) (offset : Nat) (w : U32) : words_or p offset 0 w = [] := by
  unfold words_or words skb_copy_bits
  split_ifs <;> rfl

section Hello

variable {me : U32} {p : Packet}

theorem hello_read_isSome_iff (w : U32) : (hello_read me p w).isSome = true ↔
    (word_or p (vrr_header_size + 4) w).toNat ≤ VRR_PSET_SIZE ∧
      (word_or p (vrr_header_size + 8) w).toNat ≤ VRR_PSET_SIZE ∧
      (word_or p (vrr_header_size + 12) w).toNat ≤ VRR_PSET_SIZE := by
  unfold hello_read
  dsimp only
  split_ifs with h1 h2 h3
  · exact iff_of_false Bool.false_ne_true (fun h => absurd h.1 (Nat.not_le_of_lt h1))
  · exact iff_of_false Bool.false_ne_true (fun h => absurd h.2.1 (Nat.not_le_of_lt h2))
  · exact iff_of_false Bool.false_ne_true (fun h => absurd h.2.2 (Nat.not_le_of_lt h3))
  · exact iff_of_true rfl ⟨Nat.le_of_not_lt h1, Nat.le_of_not_lt h2, Nat.le_of_not_lt h3⟩

/-- A hello that is read, list by list. -/
theorem hello_read_eq {la_size lna_size p_size w : U32}
    (hla : word p (vrr_header_size + 4) = some la_size) (hla20 : la_size.toNat ≤ VRR_PSET_SIZE)
    (hlna : word p (vrr_header_size + 8) = some lna_size) (hlna20 : lna_size.toNat ≤ VRR_PSET_SIZE)
    (hp : word p (vrr_header_size + 12) = some p_size) (hp20 : p_size.toNat ≤ VRR_PSET_SIZE) :
    hello_read me p w = some (hello_listed me (words_or p (vrr_header_size + 16) la_size.toNat w)
      (words_or p (vrr_header_size + 16 + la_size.toNat * 4) lna_size.toNat w)
      (words_or p (vrr_header_size + 16 + la_size.toNat * 4 + lna_size.toNat * 4)
        p_size.toNat w)) := by
  unfold hello_read word_or
  rw [hla, hlna, hp]
  simp only [Option.getD_some, if_neg (Nat.not_lt_of_le hla20), if_neg (Nat.not_lt_of_le hlna20),
    if_neg (Nat.not_lt_of_le hp20)]

/-- A size is there, when those in front of it are accepted. Otherwise 21 and 0
    are read in its place, and the others are read as no more. -/
theorem size_of_hello_read (h : ∀ w w', hello_read me p w = hello_read me p w') (i : Nat)
    (hi : i = 4 ∨ i = 8 ∨ i = 12)
    (hbefore : ∀ j < i, j = 4 ∨ j = 8 → ∀ a, word p (vrr_header_size + j) = some a →
      a.toNat ≤ VRR_PSET_SIZE) : ∃ a, word p (vrr_header_size + i) = some a := by
  by_contra hnone
  have hmissing : ¬ vrr_header_size + i + 4 ≤ vrr_header_size + p.data.length := by
    rw [← word_isSome_iff, Option.isSome_iff_exists]
    exact hnone
  have hzero : ∀ j, j = 4 ∨ j = 8 ∨ j = 12 →
      (word_or p (vrr_header_size + j) 0).toNat ≤ VRR_PSET_SIZE := by
    intro j hj
    unfold word_or
    cases hword : word p (vrr_header_size + j) with
    | none => exact Nat.zero_le _
    | some a =>
        have hfit := (word_isSome_iff p (vrr_header_size + j)).mp (by rw [hword]; rfl)
        exact hbefore j (by omega) (by omega) a hword
  have hread : (hello_read me p 0).isSome = true :=
    (hello_read_isSome_iff 0).mpr ⟨hzero 4 (by omega), hzero 8 (by omega), hzero 12 (by omega)⟩
  rw [h 0 21, hello_read_isSome_iff] at hread
  have hlarge : (word_or p (vrr_header_size + i) 21).toNat ≤ VRR_PSET_SIZE := by
    rcases hi with rfl | rfl | rfl
    · exact hread.1
    · exact hread.2.1
    · exact hread.2.2
  rw [word_or_missing hmissing] at hlarge
  exact absurd hlarge (by decide)

/-- The local node is in a list that is read as its id throughout, unless it is
    a list of none. -/
theorem mem_words_or_self {offset size : Nat}
    (h : ¬ offset + size * 4 ≤ vrr_header_size + p.data.length) (hsize : size ≠ 0) :
    me ∈ words_or p offset size me := by
  rw [words_or_missing h]
  exact List.mem_replicate.mpr ⟨hsize, rfl⟩

theorem not_mem_words_or_other {offset size : Nat}
    (h : ¬ offset + size * 4 ≤ vrr_header_size + p.data.length) :
    me ∉ words_or p offset size (me + 1) := by
  rw [words_or_missing h]
  intro hmem
  have heq := (List.mem_replicate.mp hmem).2
  bv_omega

/-- A list of the same words, when it is there. -/
theorem words_or_there {offset size : Nat} {ids : List U32}
    (h : words p offset size = some ids) (w : U32) : words_or p offset size w = ids := by
  rw [words_or, h, Option.getD_some]

/-- The two questions that the way a hello lists a node answers. -/
theorem listed_eq_iff {a b a' b' : Prop} [Decidable a] [Decidable b] [Decidable a'] [Decidable b']
    (h : (if a then HelloTrans.pending else if b then .linked else .missing) =
      if a' then .pending else if b' then .linked else .missing) :
    (a ↔ a') ∧ (¬ a → (b ↔ b')) := by
  by_cases ha : a <;> by_cases ha' : a' <;> simp only [ha, ha', if_true, if_false] at h
  · exact ⟨iff_of_true ha ha', fun hna => absurd ha hna⟩
  · split_ifs at h
  · split_ifs at h
  · refine ⟨iff_of_false ha ha', fun _ => ?_⟩
    by_cases hb : b <;> by_cases hb' : b' <;> simp only [hb, hb', if_true, if_false] at h ⊢
    · cases h
    · cases h

/-- A hello that is read alike whatever is missing is whole. -/
theorem whole_of_hello_read (n : Node)
    (h : ∀ w w', hello_read n.me p w = hello_read n.me p w') : WholeHello n p := by
  -- the sizes first, each of which is read when those before it have passed
  rcases size_of_hello_read h 4 (Or.inl rfl) (fun j hj hcases => by omega) with ⟨la_size, hla⟩
  refine ⟨la_size, hla, fun hla20 => ?_⟩
  have hsize4 : ∀ j, j = 4 → ∀ a, word p (vrr_header_size + j) = some a →
      a.toNat ≤ VRR_PSET_SIZE := by
    rintro j rfl a ha
    rw [hla, Option.some.injEq] at ha
    rw [← ha]
    exact hla20
  rcases size_of_hello_read h 8 (Or.inr (Or.inl rfl))
    (fun j hj hcases => hsize4 j (by omega)) with ⟨lna_size, hlna⟩
  refine ⟨lna_size, hlna, fun hlna20 => ?_⟩
  have hsize8 : ∀ j, j = 8 → ∀ a, word p (vrr_header_size + j) = some a →
      a.toNat ≤ VRR_PSET_SIZE := by
    rintro j rfl a ha
    rw [hlna, Option.some.injEq] at ha
    rw [← ha]
    exact hlna20
  rcases size_of_hello_read h 12 (Or.inr (Or.inr rfl)) (fun j hj hcases a ha =>
    hcases.elim (fun h4 => hsize4 j h4 a ha) (fun h8 => hsize8 j h8 a ha)) with ⟨p_size, hp⟩
  refine ⟨p_size, hp, fun hp20 => ?_⟩
  have hsizes := (word_isSome_iff p (vrr_header_size + 12)).mp (by rw [hp]; rfl)
  have hlisted := h n.me (n.me + 1)
  rw [hello_read_eq hla hla20 hlna hlna20 hp hp20, hello_read_eq hla hla20 hlna hlna20 hp hp20,
    Option.some.injEq, hello_listed_eq, hello_listed_eq] at hlisted
  obtain ⟨hpending, hlinked⟩ := listed_eq_iff hlisted
  -- memory that reads as the id of the node lists it, and the next number does not
  have hp_there : p_size = 0 ∨ vrr_header_size + 16 + la_size.toNat * 4 + lna_size.toNat * 4 +
      p_size.toNat * 4 ≤ vrr_header_size + p.data.length := by
    by_contra hnot
    rw [not_or] at hnot
    have hsize : p_size.toNat ≠ 0 := fun hzero => hnot.1 (BitVec.eq_of_toNat_eq hzero)
    exact not_mem_words_or_other hnot.2 (hpending.mp (mem_words_or_self hnot.2 hsize))
  have hempty : ¬ vrr_header_size + 16 + la_size.toNat * 4 + lna_size.toNat * 4 ≤
      vrr_header_size + p.data.length → n.me ∉ words_or p (vrr_header_size + 16 +
        la_size.toNat * 4 + lna_size.toNat * 4) p_size.toNat n.me := by
    intro hshort
    rcases hp_there with hzero | hfit
    · have hsize : p_size.toNat = 0 := by rw [hzero]; rfl
      rw [hsize, words_or_zero]
      exact List.not_mem_nil
    · omega
  have hla_there : (words p (vrr_header_size + 16) la_size.toNat).isSome = true := by
    rw [words_isSome_iff]
    by_contra hshort
    have hlna_short : ¬ vrr_header_size + 16 + la_size.toNat * 4 + lna_size.toNat * 4 ≤
        vrr_header_size + p.data.length := by omega
    have hself := (hlinked (hempty hlna_short)).mp
      (Or.inl (mem_words_or_self hshort (by omega)))
    exact hself.elim (not_mem_words_or_other hshort) (not_mem_words_or_other hlna_short)
  obtain ⟨la, hla_ids⟩ := Option.isSome_iff_exists.mp hla_there
  refine ⟨la, hla_ids, ?_, ?_⟩
  · rw [words_isSome_iff]
    by_contra hnot
    rw [not_or] at hnot
    have hla_fit := (words_isSome_iff _ _ _).mp hla_there
    have hself := (hlinked (hempty hnot.2)).mp (Or.inr (mem_words_or_self hnot.2 (by omega)))
    rw [words_or_there hla_ids] at hself
    exact hself.elim hnot.1 (not_mem_words_or_other hnot.2)
  · rw [words_isSome_iff]
    exact hp_there

end Hello

/-- A hello is handled alike exactly when it is whole. -/
theorem hello_indifferent_iff (n : Node) (skb : SkBuff) (hty : skb.pkt.vh.pkt_type = VRR_HELLO) :
    Indifferent n skb ↔ WholeHello (heard n skb.pkt.src) skb.pkt := by
  constructor
  · intro hind
    refine whole_of_hello_read _ (fun w w' => ?_)
    by_contra hne
    have hfunc := Vrr.vrr_rcvfunc_hello skb hty
    rcases hind.both (by rw [hty]; decide) (filled w) (filled w')
      (by rw [hfunc]; exact Vrr.vrr_rcv_hello_filled skb)
      (by rw [hfunc]; exact (Vrr.vrr_rcv_hello_filled skb).lax)
      with ⟨err, s, err', s', herr, herr', hiff, hnode⟩
    cases hw : hello_read (heard n skb.pkt.src).me skb.pkt w with
    | none =>
        cases hw' : hello_read (heard n skb.pkt.src).me skb.pkt w' with
        | none => exact hne (hw.trans hw'.symm)
        | some listed' =>
            rw [hw] at herr
            rw [hw'] at herr'
            rw [herr, herr'.1] at hiff
            exact absurd (hiff.mpr rfl) (by decide)
    | some listed =>
        cases hw' : hello_read (heard n skb.pkt.src).me skb.pkt w' with
        | none =>
            rw [hw] at herr
            rw [hw'] at herr'
            rw [herr.1, herr'] at hiff
            exact absurd (hiff.mp rfl) (by decide)
        | some listed' =>
            rw [hw] at herr
            rw [hw'] at herr'
            have hupdates := herr.2.symm.trans ((congrArg Node.pset_updates hnode).trans herr'.2)
            have hlast := List.append_cancel_left hupdates
            simp only [List.cons.injEq, PsetUpdate.mk.injEq] at hlast
            exact hne (hw.trans ((congrArg some hlast.1.2.2.1).trans hw'.symm))
  · intro h
    refine mute_indifferent n skb ⟨fun _ => h, ?_, ?_, ?_, ?_⟩ <;>
      exact fun heq => absurd (hty.symm.trans heq) (by decide)

end AlpacaVrr
