import Mathlib.Data.List.Basic

/-!
# Blocks of one length

A list is cut into blocks of one length: first the full ones, one after the other, and then, where
something is left, one more that is filled up. The two parts **meet without gap or overlap**: the
blocks together are the list and then less than a block of padding.
-/

set_option autoImplicit false

namespace Framing

variable {α : Type*}

/-- The `i`-th full block. -/
def piece (len : Nat) (xs : List α) (i : Nat) : List α := (xs.drop (i * len)).take len

/-- The rest behind the full blocks, filled up to a block. -/
def padded (len : Nat) (pad : α) (xs : List α) : List α :=
  xs.drop (xs.length / len * len) ++ List.replicate (len - xs.length % len) pad

def blocks (len : Nat) (pad : α) (xs : List α) : List (List α) :=
  (List.range (xs.length / len)).map (piece len xs) ++
    if xs.length % len = 0 then [] else [padded len pad xs]

/-- As many blocks as it takes, each of the length, and all the items in them. -/
structure Covers (len : Nat) (pad : α) (xs : List α) (bs : List (List α)) : Prop where
  count : bs.length = (xs.length + len - 1) / len
  exact : ∀ b ∈ bs, b.length = len
  whole : ∃ fill < len, bs.flatten = xs ++ List.replicate fill pad

section
variable {len i k : Nat} {pad : α} {xs : List α}

theorem length_piece (h : i < xs.length / len) : (piece len xs i).length = len := by
  have hend : (i + 1) * len ≤ xs.length :=
    Nat.le_trans (Nat.mul_le_mul_right len h) (Nat.div_mul_le_self xs.length len)
  rw [Nat.succ_mul] at hend
  unfold piece
  rw [List.length_take, List.length_drop]
  omega

/-- The first blocks are the beginning of the list. By induction on their number. -/
theorem flatten_pieces : ((List.range k).map (piece len xs)).flatten = xs.take (k * len) := by
  induction k with
  | zero => rw [Nat.zero_mul, List.take_zero, List.range_zero, List.map_nil, List.flatten_nil]
  | succ k ih =>
    rw [List.range_succ, List.map_append, List.flatten_append, ih, List.map_singleton,
      List.flatten_singleton, Nat.succ_mul, List.take_add]
    rfl

theorem length_rest : (xs.drop (xs.length / len * len)).length = xs.length % len := by
  rw [List.length_drop, Nat.mod_eq_sub_div_mul]

theorem length_padded (h : 0 < len) : (padded len pad xs).length = len := by
  have hlt : xs.length % len < len := Nat.mod_lt _ h
  unfold padded
  rw [List.length_append, length_rest, List.length_replicate]
  omega

theorem length_blocks (h : 0 < len) :
    (blocks len pad xs).length = (xs.length + len - 1) / len := by
  have hmod : xs.length % len < len := Nat.mod_lt _ h
  have hsum : xs.length + len - 1 = len * (xs.length / len) + (xs.length % len + len - 1) := by
    have hdiv := Nat.div_add_mod xs.length len
    omega
  unfold blocks
  rw [List.length_append, List.length_map, List.length_range, hsum, Nat.mul_add_div h]
  congr 1
  split
  case isTrue hzero =>
    rw [hzero, Nat.zero_add, Nat.div_eq_of_lt (Nat.sub_lt h Nat.one_pos)]
    rfl
  case isFalse hrest =>
    have hone : xs.length % len + len - 1 = xs.length % len - 1 + len := by omega
    rw [hone, Nat.add_div_right _ h, Nat.div_eq_of_lt (by omega)]
    rfl

/-- **The full blocks and the padded one cover the list.** -/
theorem covers_blocks (h : 0 < len) : Covers len pad xs (blocks len pad xs) := by
  constructor
  case count => exact length_blocks h
  case exact =>
    intro b hb
    unfold blocks at hb
    obtain hb | hb := List.mem_append.mp hb
    · obtain ⟨i, hi, rfl⟩ := List.mem_map.mp hb
      exact length_piece (List.mem_range.mp hi)
    · split at hb
      case isTrue => cases hb
      case isFalse =>
        rw [List.mem_singleton.mp hb]
        exact length_padded h
  case whole =>
    unfold blocks
    rw [List.flatten_append, flatten_pieces]
    split
    -- nothing is left behind the full blocks
    case isTrue hzero =>
      refine ⟨0, h, ?_⟩
      have hall : xs.length ≤ xs.length / len * len := by
        have hdiv := Nat.div_add_mod' xs.length len
        omega
      rw [List.take_of_length_le hall]
      rfl
    case isFalse hrest =>
      refine ⟨len - xs.length % len, by omega, ?_⟩
      rw [List.flatten_singleton]
      unfold padded
      rw [← List.append_assoc, List.take_append_drop]

end

end Framing
