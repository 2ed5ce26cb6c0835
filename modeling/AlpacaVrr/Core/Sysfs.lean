import AlpacaVrr.Core.Send
import AlpacaVrr.Core.Wire
import AlpacaVrr.Lib.Text

/-!
# The Files in sysfs

What a node shows of itself: its id, the three lists of its neighbours, and its
virtual set.

A file is read into a buffer of one page, which is full of zeros at first. The
function that shows it writes to the buffer and returns how much of it is to be
read. All lines of a file have the same length, and each is written at its
place. None of the functions looks at the size of the page. What is written past
its end makes the buffer longer here, so the length tells whether that happened.

The neighbours come from the arrays that a hello is made of. Their ids and their
addresses are counted apart, and a file is refused when the counts differ.

## Main definitions

* `snprintf`: Writing a text and its terminator.
* `id_show`, `pset_show_real`, `vset_show`: The functions behind the files.
-/

namespace AlpacaVrr

open Text

/-- What ends a string. -/
def NUL : Char := Char.ofNat 0

def PAGE_SIZE : Nat := 4096

/-- The buffer that a file is shown in. -/
def zeroed_page : List Char := List.replicate PAGE_SIZE NUL

def get_vrr_id (n : Node) : U32 := n.me

def get_pset_active (n : Node) : Nat → U32 := n.pstate.l_active

def get_pset_not_active (n : Node) : Nat → U32 := n.pstate.l_not_active

def get_pset_pending (n : Node) : Nat → U32 := n.pstate.pending

/-- The sizes are in bytes. -/
def get_pset_active_size (n : Node) : Nat := n.pstate.la_size * 4

def get_pset_not_active_size (n : Node) : Nat := n.pstate.lna_size * 4

def get_pset_pending_size (n : Node) : Nat := n.pstate.p_size * 4

def get_pset_active_mac (n : Node) : Nat → MacAddr := n.pstate.la_mac

def get_pset_not_active_mac (n : Node) : Nat → MacAddr := n.pstate.lna_mac

def get_pset_pending_mac (n : Node) : Nat → MacAddr := n.pstate.pending_mac

def get_pset_active_mac_size (n : Node) : Nat := n.pstate.lam_size * 6

def get_pset_not_active_mac_size (n : Node) : Nat := n.pstate.lnam_size * 6

def get_pset_pending_mac_size (n : Node) : Nat := n.pstate.pm_size * 6

/-- Write a text at a place, cut off so that it fits in `n` with its
    terminator. -/
def snprintf (buf : List Char) (off n : Nat) (text : List Char) : List Char :=
  write_at buf off (text.take (n - 1) ++ [NUL])

/-- `"%08x"` of an id. -/
def id_text (id : U32) : List Char := hex 8 id.toNat

/-- `"%02x:%02x:%02x:%02x:%02x:%02x"` of an address. -/
def mac_text (mac : MacAddr) : List Char :=
  [':'].intercalate ((store_mac mac).map (fun b => hex 2 b.toNat))

def id_show (n : Node) (buf : List Char) : Int × List Char :=
  let text := id_text (get_vrr_id n) ++ ['\n']
  (Int.ofNat text.length, write_at buf 0 (text ++ [NUL]))

/-- A line for each neighbour of one kind, and a terminator that counts as
    shown. -/
def pset_show_real (n : Node) (get_pset_func : Node → Nat → U32) (get_pset_size_func : Node → Nat)
    (get_pset_mac_func : Node → Nat → MacAddr) (get_pset_mac_size_func : Node → Nat)
    (buf : List Char) : Int × List Char :=
  let vrr_id := get_pset_func n
  let pset_len := get_pset_size_func n / 4
  let mac := get_pset_mac_func n
  let line_len : Nat := 27
  if get_pset_mac_size_func n / 6 ≠ pset_len then (-1, buf)
  else (Int.ofNat (line_len * pset_len + 1), (List.range pset_len).foldl (fun buf i =>
    snprintf buf (line_len * i) (line_len + 1)
      (id_text (vrr_id i) ++ [' '] ++ mac_text (mac i) ++ ['\n'])) buf)

def pset_active_show (n : Node) (buf : List Char) : Int × List Char :=
  pset_show_real n get_pset_active get_pset_active_size get_pset_active_mac
    get_pset_active_mac_size buf

def pset_not_active_show (n : Node) (buf : List Char) : Int × List Char :=
  pset_show_real n get_pset_not_active get_pset_not_active_size get_pset_not_active_mac
    get_pset_not_active_mac_size buf

def pset_pending_show (n : Node) (buf : List Char) : Int × List Char :=
  pset_show_real n get_pset_pending get_pset_pending_size get_pset_pending_mac
    get_pset_pending_mac_size buf

/-- The ids are those that `vset_get_all` hands out, as many as the counter
    says. -/
def Vrr.vset_show (buf : List Char) : Vrr (Int × List Char) := do
  let r ← vset_get_all
  let vset ← read_vset r.1 r.2
  let line_len : Nat := 9
  pure (Int.ofNat (line_len * r.1 + 1), (List.range r.1).foldl (fun buf i =>
    snprintf buf (line_len * i) (line_len + 1) (id_text (vset.getD i 0) ++ ['\n'])) buf)

end AlpacaVrr
