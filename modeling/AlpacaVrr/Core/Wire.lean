import AlpacaVrr.Core.Packet

/-!
# Bytes on the Wire

The bytes that a packet is sent as, and the packet that bytes are.

`build_header` fills a `struct vrr_header` and copies its memory in front of
the payload, and `vrr_hdr` takes the front of what is received for such a
structure. So the layout is the compiler's, the same on both sides: fields in
order, each at a multiple of its size. That leaves five bytes of padding,
which nothing writes and nothing reads.

## Main definitions

* `Padding`: What the padding happens to hold.
* `VrrHeader.bytes`, `VrrHeader.ofBytes`: The header in memory.
* `Packet.bytes`, `Packet.ofBytes`: The packet.

## Theorems

* `Packet.ofBytes_bytes`: A packet is received as it was sent.
-/

namespace AlpacaVrr

/-- The bytes of a half word in memory, lowest first. -/
def store16 (h : U16) : List U8 := [h.extractLsb' 0 8, h.extractLsb' 8 8]

def load16 (a b : U8) : U16 := BitVec.ofNat 16 (a.toNat + 2 ^ 8 * b.toNat)

/-- The bytes of an address, first byte first. -/
def store_mac (m : MacAddr) : List U8 :=
  [m.extractLsb' 40 8, m.extractLsb' 32 8, m.extractLsb' 24 8, m.extractLsb' 16 8,
    m.extractLsb' 8 8, m.extractLsb' 0 8]

def load_mac (a b c d e f : U8) : MacAddr :=
  BitVec.ofNat 48 (f.toNat + 2 ^ 8 * e.toNat + 2 ^ 16 * d.toNat + 2 ^ 24 * c.toNat +
    2 ^ 32 * b.toNat + 2 ^ 40 * a.toNat)

theorem load16_store16 (h : U16) : load16 (h.extractLsb' 0 8) (h.extractLsb' 8 8) = h := by
  apply BitVec.eq_of_toNat_eq
  simp only [load16, BitVec.extractLsb'_toNat, BitVec.toNat_ofNat, Nat.shiftRight_eq_div_pow]
  have hh := h.isLt
  omega

theorem load_mac_store_mac (m : MacAddr) :
    load_mac (m.extractLsb' 40 8) (m.extractLsb' 32 8) (m.extractLsb' 24 8)
      (m.extractLsb' 16 8) (m.extractLsb' 8 8) (m.extractLsb' 0 8) = m := by
  apply BitVec.eq_of_toNat_eq
  simp only [load_mac, BitVec.extractLsb'_toNat, BitVec.toNat_ofNat, Nat.shiftRight_eq_div_pow]
  have hm := m.isLt
  omega

/-- The bytes between the fields. -/
structure Padding where
  after_free : U8
  after_csum : U8 × U8
  after_mac : U8 × U8

namespace VrrHeader

/-- `struct vrr_header` in memory. -/
def bytes (vh : VrrHeader) (pad : Padding) : List U8 :=
  [vh.vrr_version, vh.pkt_type] ++ store16 vh.protocol ++ store16 vh.data_len ++
    [vh.free, pad.after_free] ++ store16 vh.h_csum ++ [pad.after_csum.1, pad.after_csum.2] ++
    store vh.src_id ++ store vh.dest_id ++ store_mac vh.dest_mac ++
    [pad.after_mac.1, pad.after_mac.2]

/-- The structure that memory is, when there is enough of it. -/
def ofBytes : List U8 → Option VrrHeader
  | [v, t, p0, p1, l0, l1, f, _, c0, c1, _, _, s0, s1, s2, s3, d0, d1, d2, d3,
      m0, m1, m2, m3, m4, m5, _, _] =>
      some {
        vrr_version := v
        pkt_type := t
        protocol := load16 p0 p1
        data_len := load16 l0 l1
        free := f
        h_csum := load16 c0 c1
        src_id := load [s0, s1, s2, s3]
        dest_id := load [d0, d1, d2, d3]
        dest_mac := load_mac m0 m1 m2 m3 m4 m5 }
  | _ => none

theorem length_bytes (vh : VrrHeader) (pad : Padding) :
    (vh.bytes pad).length = vrr_header_size := rfl

/-- A header is read as it was written, whatever the padding holds. -/
theorem ofBytes_bytes (vh : VrrHeader) (pad : Padding) : ofBytes (vh.bytes pad) = some vh := by
  have hload : ∀ w : U32, load [w.extractLsb' 0 8, w.extractLsb' 8 8, w.extractLsb' 16 8,
      w.extractLsb' 24 8] = w := load_store
  unfold bytes
  simp only [store16, store, store_mac, List.cons_append, List.nil_append, ofBytes,
    load16_store16, load_mac_store_mac, hload]

end VrrHeader

namespace Packet

/-- The bytes of a packet. -/
def bytes (p : Packet) (pad : Padding) : List U8 := p.vh.bytes pad ++ p.data

/-- The packet that bytes are, when they contain a header. -/
def ofBytes (bs : List U8) : Option Packet :=
  (VrrHeader.ofBytes (bs.take vrr_header_size)).map (fun vh => ⟨vh, bs.drop vrr_header_size⟩)

/-- A packet is received as it was sent. -/
theorem ofBytes_bytes (p : Packet) (pad : Padding) : ofBytes (p.bytes pad) = some p := by
  unfold ofBytes bytes
  rw [← p.vh.length_bytes pad, List.take_left, List.drop_left, VrrHeader.ofBytes_bytes]
  rfl

end Packet

end AlpacaVrr
