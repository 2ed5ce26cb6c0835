import AlpacaVrr.Core.Pset
import Mathlib.Tactic.Common

/-!
# Packets

The header, the payload, and how words get into it and out again.

A packet is a header and the bytes behind it. The header fields are kept as
they stand in memory, so those of more than one byte are in network order and
the code applies `ntohl` when it reads them. The host is little-endian, where
that is a reversal of the bytes. The padding that the compiler leaves in
`struct vrr_header` is not represented; no code reads it.

A control packet's payload is a sequence of words. `payload` writes one and
`skb_copy_bits` takes bytes out at an offset, or refuses when the packet is
too short, in which case its destination keeps what was in it.
`word_payload` is the round trip: the word that a sender put at some position
is the one a receiver reads there.

## Main definitions

* `load`, `store`, `ntohl`: Words in memory and on the wire.
* `VrrHeader`, `Packet`, `SkBuff`: A packet, and one as it is received.
* `skb_copy_bits`: Copying out of a packet.
* `payload`: The bytes of a sequence of words.
* `word`, `words`: The words at an offset of a packet.

## Theorems

* `load_store`, `ntohl_ntohl`: The conversions undo themselves.
* `word_payload`: The words written are the words read.
-/

namespace AlpacaVrr

/-- The bytes `u8`. -/
abbrev U8 := BitVec 8

/-- The half words `u16`. -/
abbrev U16 := BitVec 16

def VRR_DATA : U8 := 0
def VRR_HELLO : U8 := 1
def VRR_SETUP_REQ : U8 := 2
def VRR_SETUP : U8 := 3
def VRR_SETUP_FAIL : U8 := 4
def VRR_TEARDOWN : U8 := 5
def VRR_NPTYPES : U8 := 6

/-- The last of the packet types. -/
theorem eq_teardown (ty : U8) (hty : ty < VRR_NPTYPES) (h0 : ty ≠ VRR_DATA) (h1 : ty ≠ VRR_HELLO)
    (h2 : ty ≠ VRR_SETUP_REQ) (h3 : ty ≠ VRR_SETUP) (h4 : ty ≠ VRR_SETUP_FAIL) :
    ty = VRR_TEARDOWN := by
  unfold VRR_DATA at h0
  unfold VRR_HELLO at h1
  unfold VRR_SETUP_REQ at h2
  unfold VRR_SETUP at h3
  unfold VRR_SETUP_FAIL at h4
  unfold VRR_NPTYPES at hty
  unfold VRR_TEARDOWN
  bv_omega

def PF_VRR : U16 := 27

/-- The bytes of a word in memory, lowest first. -/
def store (w : U32) : List U8 :=
  [w.extractLsb' 0 8, w.extractLsb' 8 8, w.extractLsb' 16 8, w.extractLsb' 24 8]

/-- The word that four bytes in memory are. -/
def load : List U8 → U32
  | [a, b, c, d] =>
      BitVec.ofNat 32 (a.toNat + 2 ^ 8 * b.toNat + 2 ^ 16 * c.toNat + 2 ^ 24 * d.toNat)
  | _ => 0

/-- Between host and network order: the bytes reversed. -/
def ntohl (w : U32) : U32 := load (store w).reverse

def htonl (w : U32) : U32 := ntohl w

/-- The same for half words. -/
def htons (h : U16) : U16 := BitVec.ofNat 16 (h.toNat / 2 ^ 8 + 2 ^ 8 * (h.toNat % 2 ^ 8))

theorem load_store (w : U32) : load (store w) = w := by
  apply BitVec.eq_of_toNat_eq
  simp only [load, store, BitVec.extractLsb'_toNat, BitVec.toNat_ofNat, Nat.shiftRight_eq_div_pow]
  have hw := w.isLt
  omega

theorem store_load (a b c d : U8) : store (load [a, b, c, d]) = [a, b, c, d] := by
  have ha := a.isLt
  have hb := b.isLt
  have hc := c.isLt
  have hd := d.isLt
  simp only [store, load, List.cons.injEq, and_true]
  refine ⟨?_, ?_, ?_, ?_⟩ <;> apply BitVec.eq_of_toNat_eq <;>
    simp only [BitVec.extractLsb'_toNat, BitVec.toNat_ofNat, Nat.shiftRight_eq_div_pow] <;> omega

/-- Reversing the bytes twice restores them. -/
theorem ntohl_ntohl (w : U32) : ntohl (ntohl w) = w := by
  unfold ntohl
  have hrev : (store w).reverse = [w.extractLsb' 24 8, w.extractLsb' 16 8, w.extractLsb' 8 8,
      w.extractLsb' 0 8] := rfl
  rw [hrev, store_load]
  exact load_store w

@[simp] theorem ntohl_htonl (w : U32) : ntohl (htonl w) = w := ntohl_ntohl w

/-- The fields of `struct vrr_header`, in network order. -/
structure VrrHeader where
  vrr_version : U8
  pkt_type : U8
  protocol : U16
  data_len : U16
  free : U8
  h_csum : U16
  src_id : U32
  dest_id : U32
  dest_mac : MacAddr
  deriving DecidableEq

/-- `sizeof(struct vrr_header)`. -/
def vrr_header_size : Nat := 28

/-- A packet: the header and the bytes behind it. -/
structure Packet where
  vh : VrrHeader
  data : List U8
  deriving DecidableEq

/-- A packet as `vrr_rcv` is handed it: with the source address of its frame
    and the address of the device it came in on. -/
structure SkBuff where
  pkt : Packet
  h_source : MacAddr
  dev_addr : MacAddr
  deriving DecidableEq

namespace Packet

def src (p : Packet) : U32 := ntohl p.vh.src_id

def dst (p : Packet) : U32 := ntohl p.vh.dest_id

end Packet

/-- The bytes at an offset, counted from the header, or `none` when the packet
    does not reach that far. -/
def skb_copy_bits (p : Packet) (offset len : Nat) : Option (List U8) :=
  if offset + len ≤ vrr_header_size + p.data.length then
    some ((p.data.drop (offset - vrr_header_size)).take len)
  else none

/-- The bytes of words in memory that is read as bytes. -/
def store_all (ws : List U32) : List U8 := ws.flatMap store

/-- The words that a number of bytes are, four at a time. -/
def load_all : List U8 → List U32
  | a :: b :: c :: d :: rest => load [a, b, c, d] :: load_all rest
  | _ => []

/-- The payload a sender builds from words. -/
def payload (ws : List U32) : List U8 := store_all (ws.map htonl)

/-- The word at an offset. -/
def word (p : Packet) (offset : Nat) : Option U32 :=
  (skb_copy_bits p offset 4).map (fun bs => ntohl (load bs))

/-- The `n` words at an offset. -/
def words (p : Packet) (offset n : Nat) : Option (List U32) :=
  (skb_copy_bits p offset (n * 4)).map (fun bs => (load_all bs).map ntohl)

theorem length_store_all (ws : List U32) : (store_all ws).length = 4 * ws.length := by
  induction ws with
  | nil => rfl
  | cons w ws ih =>
      have hcons : store_all (w :: ws) = store w ++ store_all ws := List.flatMap_cons
      have hstore : (store w).length = 4 := rfl
      rw [hcons, List.length_append, ih, hstore, List.length_cons]
      omega

theorem load_all_store_all (ws : List U32) : load_all (store_all ws) = ws := by
  induction ws with
  | nil => rfl
  | cons w ws ih =>
      have hcons : store_all (w :: ws) = store w ++ store_all ws := List.flatMap_cons
      rw [hcons, store]
      simp only [List.cons_append, List.nil_append, load_all, ih]
      rw [← store, load_store]

/-- Words skipped and words taken, in bytes. A word is four bytes, so four
    steps of either go past it. -/
theorem drop_take_store_all (ws : List U32) (i n : Nat) :
    ((store_all ws).drop (4 * i)).take (n * 4) = store_all ((ws.drop i).take n) := by
  induction i generalizing ws with
  | succ i ih =>
      cases ws with
      | nil => simp only [store_all, List.flatMap_nil, List.drop_nil, List.take_nil]
      | cons w ws =>
          have hskip : (store_all (w :: ws)).drop (4 * i + 4) = (store_all ws).drop (4 * i) := rfl
          rw [List.drop_succ_cons, ← ih ws, Nat.mul_succ 4 i, hskip]
  | zero =>
      rw [Nat.mul_zero, List.drop_zero, List.drop_zero]
      induction n generalizing ws with
      | zero => simp only [Nat.zero_mul, List.take_zero, store_all, List.flatMap_nil]
      | succ n ihn =>
          cases ws with
          | nil => simp only [store_all, List.flatMap_nil, List.take_nil]
          | cons w ws =>
              have htake : (store_all (w :: ws)).take (n * 4 + 4) =
                  store w ++ (store_all ws).take (n * 4) := rfl
              rw [List.take_succ_cons, Nat.succ_mul, htake, ihn ws]
              rfl

/-- Words of a payload are read as they were written. -/
theorem words_payload (vh : VrrHeader) (ws : List U32) (i n : Nat) (h : i + n ≤ ws.length) :
    words ⟨vh, payload ws⟩ (vrr_header_size + 4 * i) n = some ((ws.drop i).take n) := by
  have hlen : (payload ws).length = 4 * ws.length := by
    rw [payload, length_store_all, List.length_map]
  have hfit : vrr_header_size + 4 * i + n * 4 ≤ vrr_header_size + (payload ws).length := by
    rw [hlen]
    omega
  have hmap : ((ws.map htonl).drop i).take n = ((ws.drop i).take n).map htonl := by
    rw [List.map_take, List.map_drop]
  have hback : ((ws.drop i).take n).map (fun w => ntohl (htonl w)) = (ws.drop i).take n := by
    simp only [ntohl_htonl, List.map_id']
  unfold words skb_copy_bits
  rw [if_pos hfit, Nat.add_sub_cancel_left, payload, drop_take_store_all, Option.map_some,
    load_all_store_all, hmap, List.map_map]
  exact congrArg some hback

/-- A single word of a payload. -/
theorem word_payload (vh : VrrHeader) (ws : List U32) (i : Nat) (w : U32) (h : ws[i]? = some w) :
    word ⟨vh, payload ws⟩ (vrr_header_size + 4 * i) = some w := by
  rcases List.getElem?_eq_some_iff.mp h with ⟨hlt, hw⟩
  have hwords := words_payload vh ws i 1 hlt
  have htake : (ws.drop i).take 1 = [w] := by
    rw [List.drop_eq_getElem_cons hlt, hw, List.take_succ_cons, List.take_zero]
  rw [htake] at hwords
  unfold words at hwords
  rcases Option.map_eq_some_iff.mp hwords with ⟨bs, hbs, hload⟩
  have hload' : (load_all bs).map ntohl = [ntohl (load bs)] := by
    have hlen : bs.length = 4 := by
      unfold skb_copy_bits at hbs
      split_ifs at hbs with hfit
      rw [Option.some.injEq] at hbs
      rw [← hbs, List.length_take, List.length_drop]
      simp only [payload, length_store_all, List.length_map] at hfit ⊢
      omega
    rcases bs with _ | ⟨a, _ | ⟨b, _ | ⟨c, _ | ⟨d, _ | ⟨e, rest⟩⟩⟩⟩⟩ <;>
      simp only [List.length_cons, List.length_nil] at hlen <;> first | omega | rfl
  rw [hload', List.cons.injEq] at hload
  unfold word
  rw [← hload.1]
  exact Option.map_eq_some_iff.mpr ⟨bs, hbs, rfl⟩

end AlpacaVrr
