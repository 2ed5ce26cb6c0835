import AlpacaVrr.Core.Sysfs
import AlpacaVrr.Theory.Capacity
import AlpacaVrr.Theory.Outcomes
import AlpacaVrr.Theory.Provenance

/-!
# What the Files Show

Whoever reads the files in sysfs learns the neighbours of the node, as long as
there is room for them.

A reader takes a file apart into lines, up to the terminator that is shown with
them, and a line into numbers. What it gets is compared with the stores of the
node. For the neighbours there are the cached arrays in between, which agree
with the physical set between any two events, so the file is never refused.

The virtual set is another matter. Its file has as many lines as the counter
says, and the counter is not lowered when an id leaves the set. From then on
there are lines behind those of the ids, one for each id that has left, and they
show words of a buffer that were never written. As nothing bounds the counter,
the lines can come to be too many for a page.

## Main definitions

* `read_id`, `read_neighbour`: What a reader makes of a line.
* `Shows`: A file shows some neighbours.
* `behind`: The words that the file of the virtual set shows behind the ids.
* `Parting`: A step, and how many ids have left the virtual set.

## Theorems

* `read_neighbour_line`: A line is read as it was written.
* `shown_lines`: What is in the page after all lines.
* `pset_show_real_shows`: The file of arrays that hold some neighbours.
* `vset_show_run`: The file of the virtual set.
* `files_exact`: The files of the id and the neighbours, as long as these have room.
* `vset_file_leaks`: The file of the virtual set in all later states.
-/

namespace AlpacaVrr

open FaultState Text

/-- The id that a text is. -/
def read_id (text : List Char) : Option U32 := (hex_value text).map (BitVec.ofNat 32)

/-- The address that six bytes are. -/
def read_mac : List Nat → Option MacAddr
  | [a, b, c, d, e, f] =>
      some (load_mac (BitVec.ofNat 8 a) (BitVec.ofNat 8 b) (BitVec.ofNat 8 c) (BitVec.ofNat 8 d)
        (BitVec.ofNat 8 e) (BitVec.ofNat 8 f))
  | _ => none

/-- The neighbour on a line: its id and its address. -/
def read_neighbour (line : List Char) : Option (U32 × MacAddr) :=
  (read_id (line.take 8)).bind (fun id =>
    (((line.drop 9).splitOn ':').mapM hex_value).bind (fun bytes =>
      (read_mac bytes).map (fun mac => (id, mac))))

theorem length_id_text (id : U32) : (id_text id).length = 8 :=
  length_hex 8 id.toNat (by decide) id.isLt

theorem read_id_text (id : U32) : read_id (id_text id) = some id := by
  unfold read_id id_text
  rw [hex_value_hex, Option.map_some, BitVec.ofNat_toNat, BitVec.setWidth_eq]

theorem newline_not_mem_id_text (id : U32) : '\n' ∉ id_text id :=
  not_mem_hex 8 id.toNat '\n' (by decide)

/-- The pieces of an address, two digits each. -/
theorem mac_text_pieces (mac : MacAddr) :
    ∃ a b c d e f : U8, store_mac mac = [a, b, c, d, e, f] ∧ load_mac a b c d e f = mac :=
  ⟨_, _, _, _, _, _, rfl, load_mac_store_mac mac⟩

theorem length_hex_byte (b : U8) : (hex 2 b.toNat).length = 2 :=
  length_hex 2 b.toNat (by decide) b.isLt

theorem length_mac_text (mac : MacAddr) : (mac_text mac).length = 17 := by
  obtain ⟨a, b, c, d, e, f, hmac, _⟩ := mac_text_pieces mac
  unfold mac_text
  rw [hmac]
  simp only [List.map_cons, List.map_nil, List.intercalate, List.intersperse, List.flatten_cons,
    List.flatten_nil, List.length_append, List.length_cons, List.length_nil, length_hex_byte]

theorem newline_not_mem_mac_text (mac : MacAddr) : '\n' ∉ mac_text mac := by
  obtain ⟨a, b, c, d, e, f, hmac, _⟩ := mac_text_pieces mac
  have hbyte : ∀ b : U8, '\n' ∉ hex 2 b.toNat := fun b => not_mem_hex 2 b.toNat '\n' (by decide)
  unfold mac_text
  rw [hmac]
  simp only [List.map_cons, List.map_nil, List.intercalate, List.intersperse, List.flatten_cons,
    List.flatten_nil, List.mem_append, List.mem_cons, List.not_mem_nil, hbyte, or_false]
  decide

theorem read_mac_text (mac : MacAddr) :
    (((mac_text mac).splitOn ':').mapM hex_value).bind read_mac = some mac := by
  obtain ⟨a, b, c, d, e, f, hmac, hload⟩ := mac_text_pieces mac
  have hpieces : (mac_text mac).splitOn ':' = (store_mac mac).map (fun b => hex 2 b.toNat) := by
    refine List.splitOn_intercalate ':' (fun l hl => ?_) (by rw [hmac]; exact List.cons_ne_nil _ _)
    rcases List.mem_map.mp hl with ⟨b, _, rfl⟩
    exact not_mem_hex 2 b.toNat ':' (by decide)
  rw [hpieces, hmac]
  simp only [List.map_cons, List.map_nil, List.mapM_cons, List.mapM_nil, hex_value_hex]
  simp only [Option.bind_eq_bind, Option.bind_some, Option.pure_def, read_mac,
    BitVec.ofNat_toNat, BitVec.setWidth_eq, hload]

/-- The line of a neighbour, without its end. -/
def neighbour_text (id : U32) (mac : MacAddr) : List Char := id_text id ++ [' '] ++ mac_text mac

/-- A line is read as it was written. -/
theorem read_neighbour_line (id : U32) (mac : MacAddr) :
    read_neighbour (neighbour_text id mac) = some (id, mac) := by
  have hlen : (id_text id ++ [' ']).length = 9 := by
    rw [List.length_append, length_id_text]
    rfl
  unfold read_neighbour neighbour_text
  rw [List.drop_left' hlen, List.append_assoc, List.take_left' (length_id_text id), read_id_text,
    Option.bind_some]
  have hmac := read_mac_text mac
  rcases Option.bind_eq_some_iff.mp hmac with ⟨bytes, hbytes, hread⟩
  rw [hbytes, Option.bind_some, hread]
  rfl

/-- The page after lines of one length: they are in front, with a terminator,
    and if there are not too many of them the page is as long as before. -/
theorem shown_lines (width n : Nat) (line : Nat → List Char)
    (hline : ∀ i, i < n → (line i).length = width) :
    let page := (List.range n).foldl (fun buf i => snprintf buf (width * i) (width + 1) (line i))
      zeroed_page
    page.take (width * n + 1) = ((List.range n).map line).flatten ++ [NUL] ∧
      (page.length = PAGE_SIZE ↔ width * n + 1 ≤ PAGE_SIZE) := by
  have hfold : (List.range n).foldl (fun buf i => snprintf buf (width * i) (width + 1) (line i))
      zeroed_page = (List.range n).foldl (fun buf i => write_at buf (width * i) (line i ++ [NUL]))
        zeroed_page := by
    refine List.foldl_ext _ _ _ (fun buf i hi => ?_)
    -- no line is cut off
    rw [snprintf, Nat.add_sub_cancel,
      List.take_of_length_le (le_of_eq (hline i (List.mem_range.mp hi)))]
  have hlen : ((List.range n).map line).flatten.length = width * n :=
    length_lines width line n hline
  simp only
  rw [hfold, foldl_write_at zeroed_page NUL width line n hline]
  by_cases hn : n = 0
  · rw [if_pos hn, hn, Nat.mul_zero]
    exact ⟨rfl, fun _ => by decide, fun _ => List.length_replicate⟩
  · rw [if_neg hn]
    constructor
    · rw [← hlen, List.take_append, List.take_of_length_le (Nat.le_succ _),
        Nat.add_sub_cancel_left]
      rfl
    · have hpage : zeroed_page.length = PAGE_SIZE := List.length_replicate
      rw [List.length_append, hlen, List.length_cons, List.length_drop, hpage]
      omega

/-- The file fits in its page, and a reader gets these neighbours. -/
def Shows (r : Int × List Char) (q : Pset) : Prop :=
  r.2.length = PAGE_SIZE ∧ read_lines read_neighbour NUL (r.2.take r.1.toNat) =
    some (q.map (fun tmp => (tmp.node, tmp.mac)))

/-- The file of two arrays that hold some neighbours shows these. -/
theorem pset_show_real_shows (n : Node) (f : Node → Nat → U32) (size : Node → Nat)
    (fm : Node → Nat → MacAddr) (mac_size : Node → Nat) (q : Pset)
    (h : Lists (f n) (fm n) (size n / 4) (mac_size n / 6) q) (hfits : q.length ≤ VRR_PSET_SIZE) :
    Shows (pset_show_real n f size fm mac_size zeroed_page) q := by
  have hsize : size n / 4 = q.length := by
    have hlen := congrArg List.length h.ids
    rw [elements, List.length_map, List.length_range, List.length_map] at hlen
    exact hlen
  -- the lines in the order of the list
  have hlines : (List.range q.length).map (fun i => neighbour_text (f n i) (fm n i) ++ ['\n']) =
      (q.map (fun tmp => (tmp.node, tmp.mac))).map
        (fun x => neighbour_text x.1 x.2 ++ ['\n']) := by
    have hids := h.ids
    have hmacs := h.macs
    rw [h.sizes] at hmacs
    rw [hsize, elements] at hids hmacs
    refine List.ext_getElem (by simp only [List.length_map, List.length_range])
      (fun i hi hi' => ?_)
    have hlt : i < q.length := by
      rw [List.length_map, List.length_range] at hi
      exact hi
    have hid := List.getElem_of_eq hids (i := i)
      (by rw [List.length_map, List.length_range]; exact hlt)
    have hmac := List.getElem_of_eq hmacs (i := i)
      (by rw [List.length_map, List.length_range]; exact hlt)
    simp only [List.getElem_map, List.getElem_range] at hid hmac ⊢
    rw [hid, hmac]
  have hwidth : ∀ i, i < q.length →
      (neighbour_text (f n i) (fm n i) ++ ['\n']).length = 27 := fun i _ => by
    rw [neighbour_text, List.length_append, List.length_append, List.length_append, length_id_text,
      length_mac_text]
    rfl
  have hpage := shown_lines 27 q.length (fun i => neighbour_text (f n i) (fm n i) ++ ['\n']) hwidth
  unfold Shows pset_show_real
  simp only [h.sizes, hsize, ne_eq, not_true_eq_false, if_false]
  refine ⟨hpage.2.mpr ?_, ?_⟩
  · unfold PAGE_SIZE
    unfold VRR_PSET_SIZE at hfits
    omega
  · have htext := hpage.1
    rw [hlines] at htext
    refine Eq.trans (congrArg _ htext) (read_lines_text read_neighbour NUL (by decide)
      (fun x : U32 × MacAddr => neighbour_text x.1 x.2) _ (fun x _ => ⟨?_, ?_⟩))
    · unfold neighbour_text
      simp only [List.mem_append, newline_not_mem_id_text, newline_not_mem_mac_text, or_false,
        false_or, List.mem_singleton]
      decide
    · exact read_neighbour_line x.1 x.2

/-- The words of a buffer behind the ids, as many as the counter is ahead. -/
def behind (v : Vset) (g : Garbage) : List U32 :=
  (List.range (drift v)).map (fun i => g (v.nodes.length + i))

theorem length_behind (v : Vset) (g : Garbage) : (behind v g).length = drift v := by
  rw [behind, List.length_map, List.length_range]

/-- What `vset_get_all` hands out: the ids, and behind them what was in the
    buffer. Only an empty set is handed out without a buffer. -/
theorem vset_get_all_words (n : Node) (g : Garbage) :
    Triple (fun s => s.node = n ∧ s.kern.uninit 0 = g) Vrr.vset_get_all
      (fun r _ => r.1 = n.vset.vset_size ∧ (r.2 = some (n.vset.nodes ++ behind n.vset g) ∨
        n.vset.nodes = [] ∧ r.2 = none)) (fun _ => True) := by
  have hkmalloc : ∀ size, Preserves (fun s : Sys => s.node = n ∧ s.kern.uninit 0 = g)
      (Vrr.kmalloc size) := by
    intro size
    unfold Vrr.kmalloc
    exact Preserves.ite _ (fun _ => Preserves.pure _) (fun _ _ hs => hs)
  unfold Vrr.vset_get_all
  refine Triple.bind (Q := fun me s => (s.node = n ∧ s.kern.uninit 0 = g) ∧ me = n)
    (Triple.gets _ (fun _ hs => ⟨hs, hs.1⟩)) (fun me => Triple.of_and (fun hme => ?_))
  rw [hme]
  refine Triple.bind (hkmalloc _) (fun all => ?_)
  refine Triple.bind (Q := fun buf _ => buf = g) (fun _ hs => hs.2) (fun buf => ?_)
  refine Triple.ite _ (fun _ => Triple.pure _ (fun _ hbuf => ⟨rfl, Or.inl ?_⟩)) (fun _ =>
    Triple.ite _ (fun hnil => Triple.pure _ (fun _ _ => ⟨rfl, Or.inr ⟨?_, rfl⟩⟩))
      (fun _ => Triple.fault _ trivial))
  · rw [hbuf]
    unfold behind drift
    rw [← List.length_map VsetEntry.node]
    rfl
  · rw [Vset.nodes, hnil, List.map_nil]

/-- The file of the virtual set shows its ids, and behind them words of the
    buffer. It leaves its page when the counter is past 455. -/
theorem vset_show_run (s t : Sys) (r : Int × List Char)
    (h : Vrr.vset_show zeroed_page s = .ok (r, t)) :
    read_lines read_id NUL (r.2.take r.1.toNat) =
      some (s.node.vset.nodes ++ behind s.node.vset (s.kern.uninit 0)) ∧
    (r.2.length = PAGE_SIZE ↔ s.node.vset.vset_size ≤ 455) := by
  have htriple : Triple (fun u => u.node = s.node ∧ u.kern.uninit 0 = s.kern.uninit 0)
      (Vrr.vset_show zeroed_page)
      (fun r _ => read_lines read_id NUL (r.2.take r.1.toNat) =
        some (s.node.vset.nodes ++ behind s.node.vset (s.kern.uninit 0)) ∧
        (r.2.length = PAGE_SIZE ↔ s.node.vset.vset_size ≤ 455)) (fun _ => True) := by
    unfold Vrr.vset_show
    refine Triple.bind (vset_get_all_words s.node _) (fun w => ?_)
    rintro u ⟨hsize, hwords⟩
    generalize hrest : behind s.node.vset (s.kern.uninit 0) = rest at hwords ⊢
    -- the number of words is the counter
    have hlen : (s.node.vset.nodes ++ rest).length = w.1 := by
      have hle := s.node.vset.length_le
      rw [List.length_append, ← hrest, length_behind, drift, Vset.nodes, List.length_map, hsize]
      omega
    have hread : Triple (fun _ => True) (Vrr.read_vset w.1 w.2)
        (fun ids _ => ids = s.node.vset.nodes ++ rest) (fun _ => True) := by
      unfold Vrr.read_vset
      refine Triple.ite _ (fun h0 => Triple.pure _ (fun _ _ => ?_)) (fun h0 => ?_)
      · exact (List.length_eq_zero_iff.mp (hlen.trans h0)).symm
      rcases hwords with hw | ⟨_, hw⟩
      · rw [hw]
        exact Triple.pure _ (fun _ _ => List.take_of_length_le (le_of_eq hlen))
      · rw [hw]
        exact Triple.fault _ trivial
    refine Triple.bind hread (fun ids => Triple.pure _ ?_) u trivial
    rintro _ rfl
    have hlines : (List.range w.1).map
        (fun i => id_text ((s.node.vset.nodes ++ rest).getD i 0) ++ ['\n']) =
        (s.node.vset.nodes ++ rest).map (fun id => id_text id ++ ['\n']) := by
      refine List.ext_getElem (by simp only [List.length_map, List.length_range, hlen])
        (fun i hi hi' => ?_)
      rw [List.length_map] at hi'
      simp only [List.getElem_map, List.getElem_range, List.getD_eq_getElem?_getD,
        List.getElem?_eq_getElem hi', Option.getD_some]
    have hpage := shown_lines 9 w.1
      (fun i => id_text ((s.node.vset.nodes ++ rest).getD i 0) ++ ['\n'])
      (fun i _ => by rw [List.length_append, length_id_text]; rfl)
    refine ⟨?_, ?_⟩
    · have htext := hpage.1
      rw [hlines] at htext
      exact Eq.trans (congrArg _ htext) (read_lines_text read_id NUL (by decide) id_text _
        (fun id _ => ⟨newline_not_mem_id_text id, read_id_text id⟩))
    · refine hpage.2.trans ?_
      rw [hsize]
      unfold PAGE_SIZE
      omega
  exact htriple.ok ⟨rfl, rfl⟩ h

/-- As long as each class of neighbours has had room in its arrays, which lie one
    behind the other, the file of the id shows the node's id, and the file of each
    kind of neighbour shows exactly the neighbours of that kind with their
    addresses, in the order of the physical set. -/
theorem files_exact (id : U32) (g : Nat → U32) (gm : Nat → MacAddr) (k : Kernel) (t : Sys)
    (hrun : Reach (fun s i t => Step s i t ∧ Roomy s i.1) (Sys.boot (vrr_init id g gm) k) t) :
    read_id ((id_show t.node zeroed_page).2.take 8) = some id ∧
    Shows (pset_active_show t.node zeroed_page) (t.node.pset.filter linked_active) ∧
    Shows (pset_not_active_show t.node zeroed_page) (t.node.pset.filter linked_not_active) ∧
    Shows (pset_pending_show t.node zeroed_page) (t.node.pset.filter is_pending) := by
  obtain ⟨⟨hroom, _⟩, _, hlists⟩ := run_bounded id g gm k t hrun
  -- the sizes are handed out in bytes, and divided again
  have hshows : ∀ (f : Node → Nat → U32) (fm : Node → Nat → MacAddr) (size mac_size : Nat)
      (c : PsetEntry → Bool), Lists (f t.node) (fm t.node) size mac_size (t.node.pset.filter c) →
      t.node.pset.countP c ≤ VRR_PSET_SIZE → Shows (pset_show_real t.node f (fun _ => size * 4) fm
        (fun _ => mac_size * 6) zeroed_page) (t.node.pset.filter c) := by
    intro f fm size mac_size c h hfits
    refine pset_show_real_shows t.node f (fun _ => size * 4) fm (fun _ => mac_size * 6) _ ?_ ?_
    · rw [Nat.mul_div_cancel _ (by decide), Nat.mul_div_cancel _ (by decide)]
      exact h
    · rw [← List.countP_eq_length_filter]
      exact hfits
  refine ⟨?_, hshows _ _ _ _ _ hlists.l_active hroom.l_active,
    hshows _ _ _ _ _ hlists.l_not_active hroom.l_not_active,
    hshows _ _ _ _ _ hlists.pending hroom.pending⟩
  have hme : t.node.me = id := hrun.invariant (fun u => u.node.me = id) rfl
    (fun _ _ _ hu hstep => (step_me hstep.1).trans hu)
  have htext : (id_show t.node zeroed_page).2.take 8 = id_text t.node.me := by
    change (write_at zeroed_page 0 (id_text t.node.me ++ ['\n'] ++ [NUL])).take 8 = _
    unfold write_at
    rw [List.take_zero, List.nil_append, List.append_assoc, List.append_assoc,
      List.take_left' (length_id_text _)]
  rw [htext, read_id_text, hme]

/-- Node 1 hears an active node 2 that lists it as pending, and node 3. The files
    show node 2 as linked and active and node 3 as pending. -/
theorem files_exact_two :
    ∃ t, Reach (fun s i t => Step s i t ∧ Roomy s i.1) node_one t ∧
      read_lines read_neighbour NUL ((pset_active_show t.node zeroed_page).2.take 28) =
        some [(2, 2)] ∧
      read_lines read_neighbour NUL ((pset_pending_show t.node zeroed_page).2.take 28) =
        some [(3, 3)] := by
  obtain ⟨t, ht, hend⟩ := reach_of_check (works_off RoomFor)
    ([.vrr_rcv (frame 2 VRR_HELLO 2 0 [1, 0, 0, 1, 1]),
      .vrr_rcv (frame 3 VRR_HELLO 3 0 [0, 0, 0, 0]), .pset_update_handler].map (fun e => (e, Kernel.calm)))
    (fun s => decide ((s.node.pset.filter linked_active).map (fun tmp => (tmp.node, tmp.mac)) =
        [(2, 2)] ∧
      (s.node.pset.filter is_pending).map (fun tmp => (tmp.node, tmp.mac)) = [(3, 3)] ∧
      (pset_active_show s.node zeroed_page).1 = 28 ∧
      (pset_pending_show s.node zeroed_page).1 = 28)) (by decide +kernel)
  have hrun : Reach (fun s i t => Step s i t ∧ Roomy s i.1) node_one t :=
    ht.mono (fun u i v h => ⟨h.1, of_works_off RoomFor h.2⟩)
  obtain ⟨hactive, hpending, hret, hret'⟩ := of_decide_eq_true hend
  obtain ⟨_, hshown, _, hshown'⟩ := files_exact 1 (fun _ => 0) (fun _ => 0) Kernel.calm t hrun
  unfold Shows at hshown hshown'
  rw [hret, hactive] at hshown
  rw [hret', hpending] at hshown'
  exact ⟨t, hrun, hshown.2, hshown'.2⟩

/-- The counter stays behind for each id that leaves. -/
theorem drifts_outcome {n m : Node} {skb : SkBuff} (h : Outcome False n skb m) :
    Drifts n.vset m.vset := by
  have htaken : ∀ {n m : Node} {src : U32}, TakenIn n src m → Drifts n.vset m.vset := by
    rintro n m src ⟨_, _, left, right, rfl⟩
    exact drifts_apply n.me n.vset (.vset_add src left right)
  have hrouted : ∀ {n m : Node} {r : RtEntry} {ok : Bool}, Routed False n r ok m →
      m.vset = n.vset := by
    rintro n m r ok ⟨_, _, _, _, rfl⟩
    rfl
  have hsame : ∀ {n m : Node}, m.vset = n.vset → Drifts n.vset m.vset := fun h => by
    rw [h]
    exact Drifts.refl _
  cases h with
  | kept m h => exact hsame h.2.2
  | answered m m' size nh pid ok hty hend hsize hin hfiled =>
      have hset : (if ok then m' else unroute m' n.me pid).vset = m.vset := by
        rw [← hrouted hfiled]
        cases ok <;> rfl
      rw [hset]
      exact htaken hin
  | disowned pid hty hpid hsender => exact Drifts.refl _
  | unfiled m pid na nh hty hfiled =>
      have hset : m.vset = n.vset := hrouted hfiled
      exact hsame hset
  | passed m pid proxy size na hty hread hsender hfiled hwhy => exact hsame (hrouted hfiled)
  | ended m m' pid proxy size na hty hread hsender hfiled hend hsize hin =>
      have hgrown : Drifts m.vset m'.vset := htaken hin
      rw [hrouted hfiled] at hgrown
      exact hgrown
  | removed route ea pid size hty hread hroute hwhy => exact Drifts.refl _
  | lost m route ea pid size hty hread hroute hend hsize hoffer =>
      -- the other end leaves the set before 0 is offered to it
      have hgone := drifts_apply n.me n.vset
        (.vset_remove (Vrr.teardown_side route skb.pkt.src).1)
      rcases hoffer with hin | ⟨_, rfl⟩
      · exact hgone.trans (htaken hin)
      · exact hgone

theorem drifts_step {s t : Sys} {i : Event × Kernel} (h : Step s i t) :
    Drifts s.node.vset t.node.vset := by
  rcases step_outcome (R := False) h (fun h => h.elim) with ⟨skb, _, houtcome⟩ | hsame
  · have hgrown := drifts_outcome houtcome
    exact hgrown
  · rw [hsame.2.2]
    exact Drifts.refl _

/-- A step, and how many ids have left the virtual set so far. -/
def Parting (a : Sys × Nat) (i : Event × Kernel) (b : Sys × Nat) : Prop :=
  Step a.1 i b.1 ∧ b.2 = a.2 + (departed a.1.node.vset b.1.node.vset).card

/-- Once an id has left the virtual set its file is never right again. What it
    shows are the ids, and behind them as many words of an unwritten buffer as
    the counter is ahead, at least one for each id that has left by then. They
    fill more than a page once the counter is past 455. -/
theorem vset_file_leaks (s t u : Sys) (c : Nat) (k : Kernel) (r : Int × List Char)
    (hrun : Reach Parting (s, 0) (t, c))
    (h : Vrr.vset_show zeroed_page { t with kern := k } = .ok (r, u)) :
    drift s.node.vset + c ≤ (behind t.node.vset (k.uninit 0)).length ∧
    read_lines read_id NUL (r.2.take r.1.toNat) =
      some (t.node.vset.nodes ++ behind t.node.vset (k.uninit 0)) ∧
    (r.2.length = PAGE_SIZE ↔ t.node.vset.vset_size ≤ 455) := by
  have hdrift : drift s.node.vset + c ≤ drift t.node.vset := by
    refine hrun.invariant (fun a => drift s.node.vset + a.2 ≤ drift a.1.node.vset) (le_refl _) ?_
    rintro a i b ha ⟨hstep, hcount⟩
    have hgrown := drifts_step hstep
    unfold Drifts at hgrown
    omega
  obtain ⟨hread, hpage⟩ := vset_show_run _ u r h
  refine ⟨?_, hread, hpage⟩
  rw [length_behind]
  exact hdrift

/-- A node asks node 1 for its place. -/
def ask_from (id : U32) : Event × Kernel :=
  (.vrr_rcv (frame 2 VRR_SETUP_REQ id 1 [0, 0]), Kernel.calm)

/-- A kernel whose memory is full of nines. -/
def Kernel.nines : Kernel := { Kernel.calm with uninit := fun _ _ => 9 }

/-- Node 1 has taken in four nodes and is asked by a fifth, for which node 5
    leaves. The file shows a fifth id, which is what was in the buffer. -/
theorem vset_file_leaks_five :
    ∃ s t u r, Reach Step node_one s ∧ s.node.vset.nodes = [5, 4, 3, 2] ∧
      Reach Parting (s, 0) (t, 1) ∧
      Vrr.vset_show zeroed_page { t with kern := Kernel.nines } = .ok (r, u) ∧
      read_lines read_id NUL (r.2.take r.1.toNat) = some [6, 4, 3, 2, 9] := by
  have heval := reach_of_eval ([2, 3, 4, 5].map ask_from)
    (fun s => decide (s.node.vset.nodes = [5, 4, 3, 2]) && (run_events s [ask_from 6]).any (fun t =>
      decide ((departed s.node.vset t.node.vset).card = 1 ∧
        t.node.vset.nodes ++ behind t.node.vset (fun _ => 9) = [6, 4, 3, 2, 9]) &&
      ends_in (Vrr.vset_show zeroed_page) { t with kern := Kernel.nines } (fun _ _ => true)))
    (by decide +kernel)
  rcases heval with ⟨s, hs, hfive⟩
  obtain ⟨hnodes, hnext⟩ := Bool.and_eq_true_iff.mp hfive
  obtain ⟨t, ht, hafter⟩ := (Option.any_eq_true _ _).mp hnext
  obtain ⟨hwords, hshown⟩ := Bool.and_eq_true_iff.mp hafter
  obtain ⟨hgone, hwords⟩ := of_decide_eq_true hwords
  obtain ⟨r, u, hrun, _⟩ := ok_of_ends_in hshown
  have hparting : Reach Parting (s, 0) (t, 1) :=
    Reach.step (ask_from 6) Reach.refl ⟨step_of_run_events s t _ ht, by rw [hgone]⟩
  obtain ⟨_, hread, _⟩ := vset_file_leaks s t u 1 _ r hparting hrun
  exact ⟨s, t, u, r, hs, of_decide_eq_true hnodes, hparting, hrun,
    hread.trans (congrArg some hwords)⟩

end AlpacaVrr
