import AlpacaVrr.Core.Input

/-!
# Reading the Fields

The handlers on packets whose fields are all there.

A handler reads a field when it needs it, in the middle of what it does. On a
packet that holds the field the reading draws nothing from the kernel and
changes nothing, so it can be done before. `handle_setup` and its likes are
the handlers with the fields as arguments, and `vrr_rcv_setup_eq` and its
likes say that the handlers are these, applied to the fields that the packet
carries.

The packets with a vset all have the same form: some words, the number of the
ids, the ids. `Carries` says so. The hello has three lists, and `Greets` is
the same for it.

## Main definitions

* `Carries`, `Greets`: The fields of a packet.
* `Vrr.handle_hello`, `Vrr.handle_setup_req`, `Vrr.handle_setup`,
  `Vrr.handle_setup_fail`, `Vrr.handle_teardown`: What is done with them.

## Theorems

* `carries_payload`, `greets_payload`: A packet carries the fields it was built
  from.
* `vrr_rcv_hello_eq`, `vrr_rcv_setup_req_eq`, `vrr_rcv_setup_eq`,
  `vrr_rcv_setup_fail_eq`, `vrr_rcv_teardown_eq`: The handlers, on such
  packets.
-/

namespace AlpacaVrr

open FaultState

/-- The packet has the words `front`, then the size of `vset`, then `vset`. -/
structure Carries (p : Packet) (front vset : List U32) : Prop where
  word_front : ∀ i w, front[i]? = some w → word p (vrr_header_size + 4 * i) = some w
  word_size : ∃ n : U32, word p (vrr_header_size + 4 * front.length) = some n ∧
    n.toNat = vset.length
  words_vset : words p (vrr_header_size + 4 * (front.length + 1)) vset.length = some vset
  limit : vset.length ≤ VRR_VSET_SIZE

/-- The packet has the flag, the sizes of three lists, and the lists. -/
structure Greets (p : Packet) (active : U32) (la lna pending : List U32) : Prop where
  word_active : word p vrr_header_size = some active
  word_la : ∃ n : U32, word p (vrr_header_size + 4) = some n ∧ n.toNat = la.length
  word_lna : ∃ n : U32, word p (vrr_header_size + 8) = some n ∧ n.toNat = lna.length
  word_p : ∃ n : U32, word p (vrr_header_size + 12) = some n ∧ n.toNat = pending.length
  words_la : words p (vrr_header_size + 16) la.length = some la
  words_lna : words p (vrr_header_size + 16 + la.length * 4) lna.length = some lna
  words_p : words p (vrr_header_size + 16 + la.length * 4 + lna.length * 4) pending.length =
    some pending
  limit : la.length ≤ VRR_PSET_SIZE ∧ lna.length ≤ VRR_PSET_SIZE ∧ pending.length ≤ VRR_PSET_SIZE

section Build

variable (vh : VrrHeader)

/-- A list behind another is read from where the other ends. -/
theorem words_append (before ws rest : List U32) :
    words ⟨vh, payload (before ++ ws ++ rest)⟩ (vrr_header_size + 4 * before.length) ws.length =
      some ws := by
  have hlen : before.length + ws.length ≤ (before ++ ws ++ rest).length := by
    rw [List.length_append, List.length_append]
    omega
  rw [words_payload vh _ before.length ws.length hlen, List.append_assoc, List.drop_left,
    List.take_left]

/-- A payload carries the words that it was built from. -/
theorem carries_payload (front vset : List U32) (hlimit : vset.length ≤ VRR_VSET_SIZE) :
    Carries ⟨vh, payload (front ++ BitVec.ofNat 32 vset.length :: vset)⟩ front vset := by
  refine ⟨fun i w hw => ?_, ⟨BitVec.ofNat 32 vset.length, ?_, ?_⟩, ?_, hlimit⟩
  · have hlt : i < front.length := (List.getElem?_eq_some_iff.mp hw).1
    refine word_payload _ _ i w ?_
    rw [List.getElem?_append_left hlt]
    exact hw
  · refine word_payload _ _ front.length _ ?_
    rw [List.getElem?_append_right (Nat.le_refl _), Nat.sub_self]
    rfl
  · rw [BitVec.toNat_ofNat]
    exact Nat.mod_eq_of_lt (Nat.lt_of_le_of_lt hlimit (by decide))
  · -- the vset begins where the front and its size end
    have hwords := words_append vh (front ++ [BitVec.ofNat 32 vset.length]) vset []
    rw [List.length_append, List.append_nil, List.append_assoc, List.singleton_append] at hwords
    exact hwords

/-- The four words that a hello begins with. -/
def hello_front (active : U32) (la lna pending : List U32) : List U32 :=
  [active, BitVec.ofNat 32 la.length, BitVec.ofNat 32 lna.length, BitVec.ofNat 32 pending.length]

/-- A hello carries the lists that it was built from. -/
theorem greets_payload (active : U32) (la lna pending : List U32)
    (hla : la.length ≤ VRR_PSET_SIZE) (hlna : lna.length ≤ VRR_PSET_SIZE)
    (hp : pending.length ≤ VRR_PSET_SIZE) :
    Greets ⟨vh, payload (hello_front active la lna pending ++ la ++ lna ++ pending)⟩
      active la lna pending := by
  -- sizes that pass the check have not been cut off to a word
  have hsmall : ∀ n, n ≤ VRR_PSET_SIZE → (BitVec.ofNat 32 n).toNat = n := by
    intro n hn
    rw [BitVec.toNat_ofNat]
    exact Nat.mod_eq_of_lt (Nat.lt_of_le_of_lt hn (by decide))
  -- the lists begin at the fifth word
  have hoffset : ∀ l : List U32, vrr_header_size + 4 * (hello_front active la lna pending ++
      l).length = vrr_header_size + 16 + l.length * 4 := by
    intro l
    rw [List.length_append, hello_front]
    simp only [List.length_cons, List.length_nil]
    omega
  refine ⟨word_payload _ _ 0 _ rfl, ⟨_, word_payload _ _ 1 _ rfl, hsmall _ hla⟩,
    ⟨_, word_payload _ _ 2 _ rfl, hsmall _ hlna⟩, ⟨_, word_payload _ _ 3 _ rfl, hsmall _ hp⟩,
    ?_, ?_, ?_, hla, hlna, hp⟩
  · have hwords := words_append vh (hello_front active la lna pending) la (lna ++ pending)
    rw [← List.append_assoc] at hwords
    exact hwords
  · have hwords := words_append vh (hello_front active la lna pending ++ la) lna pending
    rw [hoffset] at hwords
    exact hwords
  · have hwords := words_append vh (hello_front active la lna pending ++ (la ++ lna)) pending []
    rw [hoffset, List.append_nil, List.length_append, Nat.add_mul, ← Nat.add_assoc,
      ← List.append_assoc] at hwords
    exact hwords

end Build

namespace Vrr

theorem read_u32_of_word {p : Packet} {offset : Nat} {w : U32} (h : word p offset = some w) :
    read_u32 p offset = pure w := by
  unfold read_u32
  rw [h]

theorem read_array_of_words {p : Packet} {offset n : Nat} {ws : List U32}
    (h : words p offset n = some ws) : read_array p offset n = pure ws := by
  unfold read_array
  rw [h]

def handle_hello (skb : SkBuff) (active : U32) (la lna p : List U32) : Vrr Int := do
  let me ← node
  let update ← kmalloc 1
  if update then do
    set_node (fun n => { n with pset_updates := n.pset_updates ++
      [⟨skb.pkt.src, skb.h_source, hello_listed me.me la lna p, active⟩] })
    pure 0
  else pure (-1)

def handle_setup_req (skb : SkBuff) (proxy : U32) (vset : List U32) : Vrr Int := do
  let src := skb.pkt.src
  let nh ← rt_get_next_exclude skb.pkt.dst src
  if nh ≠ 0 then do
    let _ ← vrr_forward_setup_req skb.pkt nh
    pure 0
  else do
    let buffer ← kmalloc (4 * vset.length)
    if buffer then do
      let (ovset_size, ovset) ← vset_get_all
      let added ← vrr_add src vset
      if added ≠ 0 then do
        let pid ← vrr_new_path_id
        let _ ← vrr_local_rcv_setup src pid proxy ovset_size ovset
        pure 0
      else do
        let _ ← vrr_local_rcv_setup_fail src proxy ovset_size ovset
        pure 0
    else pure (-1)

def handle_setup_fail (skb : SkBuff) (proxy : U32) (vset : List U32) : Vrr Int := do
  let src := skb.pkt.src
  let dst := skb.pkt.dst
  let buffer ← kmalloc (4 * (vset.length + 1))
  if buffer then do
    let nh ← next_hop_via dst proxy
    if nh ≠ 0 then do
      let _ ← send_setup_fail src dst proxy vset.length (some vset) nh
      pure 0
    else do
      let me ← node
      if dst = me.me then do
        overrun .vset (vset.length + 1) (vset.length + 2)
        let _ ← vrr_add UINT_MAX vset
        pure 0
      else pure 0
  else pure (-1)

/-- The rest of `handle_setup`, when the sender of the frame is known. -/
def handle_setup_from (skb : SkBuff) (sender pid proxy : U32) (vset : List U32) : Vrr Int := do
  let src := skb.pkt.src
  let dst := skb.pkt.dst
  let nh ← setup_next_hop dst proxy
  let added ← rt_add_route src dst sender nh pid
  if added then do
    let buffer ← kmalloc (4 * vset.length)
    if buffer then
      if nh ≠ 0 then do
        let _ ← send_setup src dst pid proxy vset.length (some vset) nh
        pure 0
      else do
        let ret ← vrr_add src vset
        if ret ≠ 0 then do
          set_node (fun n => { n with active := 1 })
          pure 0
        else pure 0
    else pure (-1)
  else do
    let _ ← tear_down_path pid src null
    pure 0

def handle_setup (skb : SkBuff) (pid proxy : U32) (vset : List U32) : Vrr Int := do
  let me ← node
  match (if skb.dev_addr = skb.h_source then some me.me
    else pset_lookup_mac me.pset skb.h_source) with
  | none => do
      let _ ← tear_down_path pid skb.pkt.src null
      pure 0
  | some sender => handle_setup_from skb sender pid proxy vset

def handle_teardown (skb : SkBuff) (ea pid : U32) (vset : List U32) : Vrr Int := do
  let route ← rt_remove_route ea pid
  match route with
  | none => fault .nullRoute
  | some route => do
      let (endpt, next) := teardown_side route skb.pkt.src
      let buffer ← kmalloc (4 * vset.length)
      if buffer then
        if next ≠ 0 then do
          let _ ← send_teardown pid ea (some vset) vset.length next
          pure 0
        else do
          let _ ← vset_remove endpt
          let _ ← vrr_add 0 vset
          pure 0
      else pure (-1)

/-- A value that is known goes straight on. -/
theorem pure_then {α β : Type} (a : α) (f : α → Vrr β) : ((pure a : Vrr α) >>= f) = f a := rfl

section Fields

variable (skb : SkBuff) {front vset : List U32}

theorem vrr_rcv_hello_eq {active : U32} {la lna p : List U32}
    (h : Greets skb.pkt active la lna p) :
    vrr_rcv_hello skb = handle_hello skb active la lna p := by
  rcases h.word_la with ⟨la_size, hla_size, hla⟩
  rcases h.word_lna with ⟨lna_size, hlna_size, hlna⟩
  rcases h.word_p with ⟨p_size, hp_size, hp⟩
  unfold vrr_rcv_hello handle_hello
  simp only [read_u32_of_word h.word_active, read_u32_of_word hla_size, read_u32_of_word hlna_size,
    read_u32_of_word hp_size, hla, hlna, hp, pure_then, Nat.not_lt.mpr h.limit.1,
    Nat.not_lt.mpr h.limit.2.1, Nat.not_lt.mpr h.limit.2.2, if_false,
    read_array_of_words h.words_la, read_array_of_words h.words_lna, read_array_of_words h.words_p]

theorem vrr_rcv_setup_req_eq {proxy : U32} (h : Carries skb.pkt [proxy] vset) :
    vrr_rcv_setup_req skb = handle_setup_req skb proxy vset := by
  rcases h.word_size with ⟨n, hsize, hn⟩
  have hproxy : word skb.pkt vrr_header_size = some proxy := h.word_front 0 proxy rfl
  have hsize : word skb.pkt (vrr_header_size + 4) = some n := hsize
  have hvset : words skb.pkt (vrr_header_size + 8) vset.length = some vset := h.words_vset
  unfold vrr_rcv_setup_req handle_setup_req
  simp only [read_u32_of_word hproxy, read_u32_of_word hsize, hn, pure_then,
    Nat.not_lt.mpr h.limit, if_false, read_array_of_words hvset]

theorem vrr_rcv_setup_fail_eq {proxy : U32} (h : Carries skb.pkt [proxy] vset) :
    vrr_rcv_setup_fail skb = handle_setup_fail skb proxy vset := by
  rcases h.word_size with ⟨n, hsize, hn⟩
  have hproxy : word skb.pkt vrr_header_size = some proxy := h.word_front 0 proxy rfl
  have hsize : word skb.pkt (vrr_header_size + 4) = some n := hsize
  have hvset : words skb.pkt (vrr_header_size + 8) vset.length = some vset := h.words_vset
  unfold vrr_rcv_setup_fail handle_setup_fail
  simp only [read_u32_of_word hproxy, read_u32_of_word hsize, hn, pure_then,
    Nat.not_lt.mpr h.limit, if_false, read_array_of_words hvset]

theorem vrr_rcv_setup_eq {pid proxy : U32} (h : Carries skb.pkt [pid, proxy] vset) :
    vrr_rcv_setup skb = handle_setup skb pid proxy vset := by
  rcases h.word_size with ⟨n, hsize, hn⟩
  have hpid : word skb.pkt vrr_header_size = some pid := h.word_front 0 pid rfl
  have hproxy : word skb.pkt (vrr_header_size + 4) = some proxy := h.word_front 1 proxy rfl
  have hsize : word skb.pkt (vrr_header_size + 8) = some n := hsize
  have hvset : words skb.pkt (vrr_header_size + 12) vset.length = some vset := h.words_vset
  unfold vrr_rcv_setup handle_setup
  refine congrArg (bind node) (funext (fun me => ?_))
  simp only [read_u32_of_word hpid, read_u32_of_word hproxy, pure_then]
  cases (if skb.dev_addr = skb.h_source then some me.me
    else pset_lookup_mac me.pset skb.h_source) with
  | none => rfl
  | some sender =>
      unfold handle_setup_from
      simp only [read_u32_of_word hsize, hn, pure_then, Nat.not_lt.mpr h.limit, if_false,
        read_array_of_words hvset]

theorem vrr_rcv_teardown_eq {ea pid : U32} (h : Carries skb.pkt [ea, pid] vset) :
    vrr_rcv_teardown skb = handle_teardown skb ea pid vset := by
  rcases h.word_size with ⟨n, hsize, hn⟩
  have hea : word skb.pkt vrr_header_size = some ea := h.word_front 0 ea rfl
  have hpid : word skb.pkt (vrr_header_size + 4) = some pid := h.word_front 1 pid rfl
  have hsize : word skb.pkt (vrr_header_size + 8) = some n := hsize
  have hvset : words skb.pkt (vrr_header_size + 12) vset.length = some vset := h.words_vset
  unfold vrr_rcv_teardown handle_teardown
  simp only [read_u32_of_word hea, read_u32_of_word hpid, read_u32_of_word hsize, pure_then]
  refine congrArg (bind (rt_remove_route ea pid)) (funext (fun route => ?_))
  cases route with
  | none => rfl
  | some route =>
      cases teardown_side route skb.pkt.src with
      | mk endpt next =>
          simp only [hn, pure_then, Nat.not_lt.mpr h.limit, if_false, read_array_of_words hvset]

end Fields

end Vrr

end AlpacaVrr
