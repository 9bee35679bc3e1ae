import Mathlib.Algebra.Group.Nat.Defs
import SignOn.Proofs.Store.Accounts
import SignOn.Rpc.Message
/-!
# Pages tile a listing

A page is a window of the listing: what its offset skips is left out, and
then as many entries are taken as its limit says (`Page.cut_eq`). An offset
above the signed range is brought down to its end, which is as good as any
offset that no listing reaches. Windows side by side give the listing piece
by piece (`Page.flatten_cuts`).
-/

namespace SignOn

namespace Page

variable {α : Type} {entries : List α} {limit : UInt32} {k m n : Nat}

/-- The most entries of a page with a limit, where zero is for a
hundred. -/
def size (limit : UInt32) : Nat :=
  if limit = 0 then 100 else limit.toNat

theorem size_pos (limit : UInt32) : 0 < size limit := by
  unfold size
  split
  · omega
  · next h =>
    rw [Nat.pos_iff_ne_zero]
    exact fun h0 => h (UInt32.toNat_inj.1 h0)

theorem toNat_effectiveLimit (p : Page) : p.effectiveLimit.toNat = size p.limit := by
  unfold effectiveLimit size
  split <;> rfl

/-- **A page is a window of the listing**, at any offset. -/
theorem cut_eq (p : Page) (h : entries.length < 2 ^ 63) :
    p.cut entries = (entries.drop p.offset.toNat).take (size p.limit) := by
  rw [cut, toNat_effectiveLimit]
  by_cases hoffset : p.offset.toNat ≤ 0x7fffffffffffffff
  · rw [skipped, Nat.min_eq_left hoffset]
  · rw [skipped, Nat.min_eq_right (by omega), List.drop_eq_nil_of_le (by omega),
      List.drop_eq_nil_of_le (by omega)]

/-- The page of a number, for a limit: those before it are full. -/
def window (limit : UInt32) (k : Nat) : Page :=
  ⟨limit, UInt64.ofNat (k * size limit)⟩

/-- Windows side by side. -/
theorem flatten_windows (entries : List α) (m n : Nat) :
    ((List.range n).map fun k => (entries.drop (k * m)).take m).flatten = entries.take (n * m) := by
  induction n with
  | zero => rw [Nat.zero_mul, List.take_zero]; rfl
  | succ n ih =>
    rw [List.range_succ, List.map_append, List.flatten_append, ih, Nat.succ_mul, List.take_add]
    simp

/-- **Pages side by side are the listing** as far as they reach. -/
theorem flatten_cuts (h : entries.length < 2 ^ 63) (hfits : ∀ k < n, k * size limit < 2 ^ 64) :
    ((List.range n).map fun k => (window limit k).cut entries).flatten =
      entries.take (n * size limit) := by
  rw [← flatten_windows]
  congr 1
  refine List.map_congr_left fun k hk => ?_
  rw [cut_eq _ h, window, UInt64.toNat_ofNat_of_lt' (hfits k (List.mem_range.1 hk))]

/-- There are offsets for all pages that a listing fills. -/
theorem exists_enough (entries : List α) (limit : UInt32) :
    ∃ n, entries.length ≤ n * size limit ∧ ∀ k < n, k * size limit ≤ entries.length := by
  have hpos := size_pos limit
  refine ⟨entries.length / size limit + 1, ?_, fun k hk => ?_⟩
  · have hdiv := Nat.lt_div_mul_add (a := entries.length) hpos
    rw [Nat.succ_mul]
    omega
  · exact (Nat.le_div_iff_mul_le hpos).1 (Nat.lt_succ_iff.1 hk)

end Page

/-- The page of a number as callers ask for it. -/
def PageMessage.window (limit : UInt32) (k : Nat) : PageMessage :=
  ⟨limit, UInt32.ofNat (k * Page.size limit)⟩

theorem PageMessage.page_window {limit : UInt32} {k : Nat} (h : k * Page.size limit < 2 ^ 32) :
    (window limit k).page = Page.window limit k := by
  rw [page, window, UInt32.toNat_ofNat_of_lt' h, Page.window]

/-! ## The listing of accounts -/

namespace Store

variable {s : Store} {a : Account}

/-- What is listed is what is found. -/
theorem AccountsInOrder.mem_listAccounts_iff (h : s.AccountsInOrder) :
    a ∈ s.listAccounts none ↔ s.accountById a.id = .ok a := by
  constructor
  · intro ha
    rw [accountById, h.account?_eq_some_iff.2 ⟨ha, rfl⟩]
  · intro ha
    exact (mem_of_accountById ha).1

end Store

end SignOn
