import Mathlib.Algebra.Group.Nat.Defs
import Mathlib.Data.List.Basic
import Mathlib.Tactic.Common

/-!
# Lines of Text

Numbers in hexadecimal, and files of lines that are written into a buffer and
read back.

`hex` is what `%0nx` prints: the digits of a number, filled up with zeros on
the left to a width. A number that needs more digits than that gets them, so the
width is exact only for the numbers below a power of the base.

A writer that puts its lines into a buffer one by one, each with a terminator
behind it that the next line overwrites, leaves the lines one after the other
and a single terminator. This takes lines of one length, because the writer
computes the places from it. `read_lines` is the reader: the pieces between the
separators, of which the last has to be the terminator.

## Main definitions

* `hex`, `hex_value`: Numbers as text.
* `write_at`: Overwriting a part of a buffer.
* `read_lines`: The entries of a text, one on each line.

## Theorems

* `hex_value_hex`, `length_hex`: A number is read as it was written.
* `foldl_write_at`: What a buffer holds after its lines were written.
* `read_lines_text`: The lines are read as they were written.
-/

namespace Text

/-- A number in lower case hexadecimal, with zeros up to a width. -/
def hex (width n : Nat) : List Char := (Nat.toDigits 16 n).leftpad width '0'

/-- The value of a digit. -/
def digit_value (c : Char) : Option Nat :=
  if '0' ≤ c ∧ c ≤ '9' then some (c.toNat - 48)
  else if 'a' ≤ c ∧ c ≤ 'f' then some (c.toNat - 87)
  else none

/-- The digits of a text, in front of which `n` has been read. -/
def read_digits (n : Nat) : List Char → Option Nat
  | [] => some n
  | c :: cs => (digit_value c).bind (fun d => read_digits (16 * n + d) cs)

/-- The number that a text is. -/
def hex_value (cs : List Char) : Option Nat := read_digits 0 cs

theorem digit_value_digitChar (n : Nat) (h : n < 16) : digit_value n.digitChar = some n := by
  have hall : ∀ n : Fin 16, digit_value n.val.digitChar = some n.val := by decide
  exact hall ⟨n, h⟩

theorem read_digits_append (n m : Nat) (l l' : List Char) (h : read_digits n l = some m) :
    read_digits n (l ++ l') = read_digits m l' := by
  induction l generalizing n with
  | nil =>
      rw [read_digits, Option.some.injEq] at h
      rw [List.nil_append, h]
  | cons c cs ih =>
      rw [read_digits] at h
      rcases Option.bind_eq_some_iff.mp h with ⟨d, hd, hrest⟩
      rw [List.cons_append, read_digits, hd, Option.bind_some]
      exact ih _ hrest

/-- The digits of a number are read as the number. -/
theorem read_digits_toDigits (n : Nat) : read_digits 0 (Nat.toDigits 16 n) = some n := by
  induction n using Nat.strongRecOn with
  | ind n ih =>
      have hlast : ∀ m d, d < 16 → read_digits m [d.digitChar] = some (16 * m + d) := by
        intro m d hd
        rw [read_digits, digit_value_digitChar d hd]
        rfl
      by_cases hn : n < 16
      · rw [Nat.toDigits_of_lt_base hn, hlast 0 n hn, Nat.mul_zero, Nat.zero_add]
      · -- the last digit comes behind those of the quotient
        rw [Nat.toDigits_of_base_le (by omega) (by omega),
          read_digits_append 0 (n / 16) _ _ (ih (n / 16) (by omega)),
          hlast _ _ (Nat.mod_lt n (by omega)), Nat.div_add_mod]

theorem read_digits_zeros (k : Nat) : read_digits 0 (List.replicate k '0') = some 0 := by
  induction k with
  | zero => rfl
  | succ k ih =>
      rw [List.replicate_succ, read_digits]
      exact ih

/-- A number is read as it was written. -/
theorem hex_value_hex (width n : Nat) : hex_value (hex width n) = some n := by
  unfold hex_value hex List.leftpad
  rw [read_digits_append 0 0 _ _ (read_digits_zeros _), read_digits_toDigits]

/-- A number that needs no more digits has the width. -/
theorem length_hex (width n : Nat) (hw : 0 < width) (h : n < 16 ^ width) :
    (hex width n).length = width := by
  have hle := (Nat.length_toDigits_le_iff (by omega) hw).mpr h
  unfold hex
  rw [List.length_leftpad]
  omega

/-- Nothing but digits is written. -/
theorem not_mem_hex (width n : Nat) (c : Char) (hc : digit_value c = none) : c ∉ hex width n := by
  -- a text that is read in full has a value at every place
  have hread : ∀ (l : List Char) (m k : Nat), read_digits m l = some k → c ∉ l := by
    intro l
    induction l with
    | nil => exact fun _ _ _ => List.not_mem_nil
    | cons d rest ih =>
        intro m k h hmem
        rw [read_digits] at h
        rcases Option.bind_eq_some_iff.mp h with ⟨v, hv, hrest⟩
        rcases List.mem_cons.mp hmem with rfl | hmem
        · rw [hc] at hv
          exact absurd hv (by simp only [reduceCtorEq, not_false_eq_true])
        · exact ih _ _ hrest hmem
  exact hread _ _ _ (hex_value_hex width n)

section Buffers

variable {α : Type}

/-- Overwrite a part of a buffer. What does not fit makes it longer. -/
def write_at (buf : List α) (off : Nat) (text : List α) : List α :=
  buf.take off ++ text ++ buf.drop (off + text.length)

theorem length_lines (width : Nat) (line : Nat → List α) (n : Nat)
    (hline : ∀ i, i < n → (line i).length = width) :
    ((List.range n).map line).flatten.length = width * n := by
  rw [List.length_flatten, List.map_map]
  have hconst : (List.range n).map (List.length ∘ line) = List.replicate n width := by
    refine List.eq_replicate_iff.mpr ⟨by rw [List.length_map, List.length_range], ?_⟩
    intro m hm
    rcases List.mem_map.mp hm with ⟨i, hi, rfl⟩
    exact hline i (List.mem_range.mp hi)
  rw [hconst, List.sum_replicate_nat, Nat.mul_comm]

/-- Lines of one length that are written one behind the other, each with a
    terminator, end up with the terminator of the last one only. -/
theorem foldl_write_at (buf : List α) (stop : α) (width : Nat) (line : Nat → List α) (n : Nat)
    (hline : ∀ i, i < n → (line i).length = width) :
    (List.range n).foldl (fun buf i => write_at buf (width * i) (line i ++ [stop])) buf =
      ((List.range n).map line).flatten ++
        if n = 0 then buf else stop :: buf.drop (width * n + 1) := by
  induction n with
  | zero => rfl
  | succ n ih =>
      have hlen : ((List.range n).map line).flatten.length = width * n :=
        length_lines width line n (fun i hi => hline i (Nat.lt_succ_of_lt hi))
      rw [List.range_succ, List.foldl_append, ih (fun i hi => hline i (Nat.lt_succ_of_lt hi)),
        List.foldl_cons, List.foldl_nil, List.map_append, List.flatten_append, write_at,
        ← hlen, List.take_left, List.drop_append, hlen, if_neg (Nat.succ_ne_zero n)]
      simp only [List.map_cons, List.map_nil, List.flatten_cons, List.flatten_nil, List.append_nil,
        List.append_assoc, List.singleton_append, List.length_append, List.length_singleton,
        hline n (Nat.lt_succ_self n)]
      have hpast : ((List.range n).map line).flatten.drop (width * n + (width + 1)) = [] :=
        List.drop_of_length_le (by rw [hlen]; omega)
      rw [hpast, List.nil_append, Nat.add_sub_cancel_left]
      -- behind the line there is what was behind it before, without the old terminator
      split_ifs with hn
      · rw [hn, Nat.zero_add, Nat.mul_one]
      · rw [List.drop_succ_cons, List.drop_drop, Nat.mul_succ]
        congr 4
        omega

end Buffers

/-- The entries of a text of lines, with a terminator behind the last one. -/
def read_lines {α : Type} (read : List Char → Option α) (stop : Char) (text : List Char) :
    Option (List α) :=
  if (text.splitOn '\n').getLast? = some [stop] then
    (text.splitOn '\n').dropLast.mapM read
  else none

/-- Lines that contain no separator are the pieces between the separators. -/
theorem splitOn_lines (lines : List (List Char)) (last : List Char)
    (hlines : ∀ l ∈ lines, '\n' ∉ l) (hlast : '\n' ∉ last) :
    ((lines.map (· ++ ['\n'])).flatten ++ last).splitOn '\n' = lines ++ [last] := by
  induction lines with
  | nil => exact List.splitOn_eq_singleton hlast
  | cons l rest ih =>
      rw [List.map_cons, List.flatten_cons, List.append_assoc, List.append_assoc,
        List.singleton_append,
        List.splitOn_append_cons_self_of_not_mem (hlines l List.mem_cons_self),
        ih (fun l hl => hlines l (List.mem_cons_of_mem _ hl)), List.cons_append]

/-- The lines are read as they were written. -/
theorem read_lines_text {α : Type} (read : List Char → Option α) (stop : Char)
    (hstop : stop ≠ '\n') (line : α → List Char) (xs : List α)
    (hline : ∀ x ∈ xs, '\n' ∉ line x ∧ read (line x) = some x) :
    read_lines read stop ((xs.map (fun x => line x ++ ['\n'])).flatten ++ [stop]) = some xs := by
  have hsplit := splitOn_lines (xs.map line) [stop]
    (fun l hl => by
      rcases List.mem_map.mp hl with ⟨x, hx, rfl⟩
      exact (hline x hx).1)
    (fun h => hstop (List.mem_singleton.mp h).symm)
  rw [List.map_map] at hsplit
  have hread : (xs.map line).mapM read = some xs := by
    clear hsplit
    induction xs with
    | nil => rfl
    | cons x rest ih =>
        rw [List.map_cons, List.mapM_cons, (hline x List.mem_cons_self).2,
          ih (fun y hy => hline y (List.mem_cons_of_mem _ hy))]
        rfl
  have hpieces : ((xs.map (fun x => line x ++ ['\n'])).flatten ++ [stop]).splitOn '\n' =
      xs.map line ++ [[stop]] := hsplit
  unfold read_lines
  rw [hpieces, List.getLast?_concat, if_pos rfl, List.dropLast_concat, hread]

end Text
