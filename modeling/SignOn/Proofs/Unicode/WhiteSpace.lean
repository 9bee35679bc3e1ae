import Mathlib.Data.List.Perm.Basic
import SignOn.Unicode.Property
/-!
# What is white space

A union of tables holds what one of them holds, however it is sorted and
joined (`Ranges.contains_union`). So the characters that are skipped as
white space are those that have the property (`isWhiteSpace_eq`).
-/

namespace SignOn

namespace Unicode

namespace Ranges

variable {rs : Ranges} {sets : List Ranges} {lo hi n : Nat}

/-- Joining the ranges that touch leaves out nothing and adds nothing. -/
theorem contains_joinFrom (hsorted : ((lo, hi) :: rs).Pairwise fun a b => a.1 ≤ b.1) :
    (joinFrom lo hi rs).contains n = contains ((lo, hi) :: rs) n := by
  induction rs generalizing lo hi with
  | nil => rfl
  | cons r rest ih =>
    obtain ⟨a, b⟩ := r
    obtain ⟨hle, hrest⟩ := List.pairwise_cons.1 hsorted
    have ha : lo ≤ a := hle (a, b) (by simp)
    rw [joinFrom]
    split
    · next htouch =>
      have hjoined : ((lo, max hi b) :: rest).Pairwise fun a b => a.1 ≤ b.1 :=
        List.pairwise_cons.2 ⟨fun r hr => hle r (by simp [hr]), (List.pairwise_cons.1 hrest).2⟩
      rw [ih hjoined, Bool.eq_iff_iff]
      simp only [contains, List.any_cons, Bool.or_eq_true, Bool.and_eq_true, decide_eq_true_eq]
      rw [← or_assoc]
      refine or_congr_left ?_
      omega
    · have htail := ih hrest
      simp only [contains, List.any_cons] at htail ⊢
      rw [htail]

/-- Sorting does not count. -/
theorem contains_sorted : (sorted rs).contains n = rs.contains n :=
  (List.mergeSort_perm rs _).any_eq

/-- **A union holds what one of its sets holds.** -/
theorem contains_union : (union sets).contains n = sets.any fun rs => rs.contains n := by
  have hsorted : (sorted sets.flatten).Pairwise fun a b => a.1 ≤ b.1 := by
    have h : (sorted sets.flatten).Pairwise fun a b => decide (a.1 ≤ b.1) = true := by
      refine List.pairwise_mergeSort (fun a b c hab hbc => ?_) (fun a b => ?_) sets.flatten
      · simp only [decide_eq_true_eq] at hab hbc ⊢
        omega
      · simp only [Bool.or_eq_true, decide_eq_true_eq]
        omega
    exact h.imp fun hab => of_decide_eq_true hab
  have hsame : (sorted sets.flatten).contains n = sets.any fun rs => rs.contains n := by
    rw [contains_sorted, contains, List.any_flatten]
    rfl
  rw [union]
  split
  · next hnil =>
    rw [← hsame, hnil]
  · next lo hi rest hcons =>
    rw [contains_joinFrom (hcons ▸ hsorted), ← hcons, hsame]

end Ranges

/-- **White space is what has the property of that name**: the separators,
and the control characters that end a line or move along it. -/
theorem isWhiteSpace_eq {c : Char} :
    isWhiteSpace c = (propertyRanges "whitespace").contains c.toNat := by
  have hproperty : Property.ofName? "whitespace" =
    some ⟨["whitespace", "wspace", "space"], ["Zs", "Zl", "Zp"], "9-d 85"⟩ := rfl
  have hspaces : categoryRanges "Zs" = [(0x20, 0x20), (0xA0, 0xA0), (0x1680, 0x1680),
    (0x2000, 0x200A), (0x202F, 0x202F), (0x205F, 0x205F), (0x3000, 0x3000)] := rfl
  have hlines : categoryRanges "Zl" = [(0x2028, 0x2028)] := rfl
  have hparagraphs : categoryRanges "Zp" = [(0x2029, 0x2029)] := rfl
  have hothers : Ranges.ofText "9-d 85" = [(0x9, 0xD), (0x85, 0x85)] := rfl
  rw [propertyRanges, hproperty, Option.map_some, Option.getD_some, Property.ranges,
    Ranges.contains_union, hothers, isWhiteSpace, Bool.eq_iff_iff]
  generalize c.toNat = n
  simp only [whiteSpace, hspaces, hlines, hparagraphs, Ranges.contains, List.map_cons, List.map_nil,
    List.any_cons, List.any_nil, Bool.or_eq_true, Bool.and_eq_true, decide_eq_true_eq,
    Bool.false_eq_true, or_false]
  omega

end Unicode

end SignOn
