import Mathlib.Data.Nat.Bitwise
import Mathlib.Logic.Function.Iterate
import SignOn.Pattern.Match
/-!
# What a pattern matches

`Pattern.Matches` says of a pattern which parts of a text it matches, by
the way in which the pattern is put together. The matcher works with sets
of places instead, and unrolls repetitions: it finds a part exactly if
there is one (`Pattern.isMatch_iff`).

Between the two stands a relation between places. A part of a text runs
from a place to a place (`Portion.Links`), and a step of the matcher takes
a set of places to those that parts run to from there (`Follows`).
-/

namespace SignOn

/-! ## Conditions on a part of a text -/

/-- A condition on a part of a text: on what is before it, last character
first, on the part itself, and on what is after it. -/
abbrev Portion := List Char → List Char → List Char → Prop

namespace Portion

variable {M N K : Portion} {before part after : List Char} {m n : Nat}

/-- No character. -/
def Nothing : Portion := fun _ part _ => part = []

/-- A part that one condition holds of, and then one that another one holds
of. -/
def Then (M N : Portion) : Portion := fun before part after =>
  ∃ u v, part = u ++ v ∧ M before u (v ++ after) ∧ N (u.reverse ++ before) v after

/-- One condition or the other. -/
def Or (M N : Portion) : Portion := fun before part after =>
  M before part after ∨ N before part after

/-- So many parts in a row. -/
def Times (M : Portion) : Nat → Portion
  | 0 => Nothing
  | n + 1 => M.Then (M.Times n)

/-- At most so many parts in a row. -/
def UpTo (M : Portion) (most : Nat) : Portion := fun before part after =>
  ∃ n ≤ most, M.Times n before part after

/-- At least `min` parts in a row, and at most `max` if there is such a
limit and it is not below `min`. -/
def Repeated (M : Portion) (min : Nat) (max : Option Nat) : Portion := fun before part after =>
  ∃ n, min ≤ n ∧ (∀ most, max = some most → n ≤ most ∨ n = min) ∧ M.Times n before part after

theorem nothing_then : Nothing.Then M = M := by
  ext before part after
  constructor
  · rintro ⟨u, v, rfl, rfl, h⟩
    exact h
  · intro h
    exact ⟨[], part, rfl, rfl, h⟩

theorem then_assoc : (M.Then N).Then K = M.Then (N.Then K) := by
  ext before part after
  constructor
  · rintro ⟨_, w, rfl, ⟨u, v, rfl, hu, hv⟩, hw⟩
    refine ⟨u, v ++ w, by simp, by simpa using hu, v, w, rfl, hv, ?_⟩
    simpa using hw
  · rintro ⟨u, _, rfl, hu, v, w, rfl, hv, hw⟩
    refine ⟨u ++ v, w, by simp, ⟨u, v, rfl, by simpa using hu, hv⟩, ?_⟩
    simpa using hw

theorem times_add : M.Times (m + n) = (M.Times m).Then (M.Times n) := by
  induction m with
  | zero => rw [Nat.zero_add, Times, nothing_then]
  | succ m ih => rw [Nat.succ_add, Times, ih, Times, then_assoc]

/-- In so many turns, each of which may do nothing, there are at most so
many parts. -/
theorem times_nothing_or : (Nothing.Or M).Times m = M.UpTo m := by
  ext before part after
  induction m generalizing before part after with
  | zero =>
    constructor
    · intro h
      exact ⟨0, le_refl 0, h⟩
    · rintro ⟨n, hn, h⟩
      obtain rfl := Nat.le_zero.1 hn
      exact h
  | succ m ih =>
    constructor
    · rintro ⟨u, v, rfl, rfl | hu, hv⟩
      · obtain ⟨n, hn, hv⟩ := (ih _ _ _).1 hv
        exact ⟨n, by omega, hv⟩
      · obtain ⟨n, hn, hv⟩ := (ih _ _ _).1 hv
        exact ⟨n + 1, by omega, u, v, rfl, hu, hv⟩
    · rintro ⟨_ | n, hn, h⟩
      · obtain rfl := h
        exact ⟨[], [], rfl, .inl rfl, (ih _ _ _).2 ⟨0, Nat.zero_le m, rfl⟩⟩
      · obtain ⟨u, v, rfl, hu, hv⟩ := h
        exact ⟨u, v, rfl, .inr hu, (ih _ _ _).2 ⟨n, by omega, hv⟩⟩

/-- So many parts, and then some more up to a limit. -/
theorem repeated_some {most : Nat} :
    M.Repeated m (some most) = (M.Times m).Then (M.UpTo (most - m)) := by
  ext before part after
  constructor
  · rintro ⟨n, hn, hmost, h⟩
    have hmost := hmost most rfl
    obtain ⟨k, rfl⟩ := Nat.exists_eq_add_of_le hn
    rw [times_add] at h
    obtain ⟨u, v, hpart, hu, hv⟩ := h
    exact ⟨u, v, hpart, hu, k, by omega, hv⟩
  · rintro ⟨u, v, hpart, hu, n, hn, hv⟩
    refine ⟨m + n, by omega, fun most hmost => ?_, ?_⟩
    · obtain rfl := Option.some.inj hmost
      omega
    · rw [times_add]
      exact ⟨u, v, hpart, hu, hv⟩

/-- So many parts, and then any number of them. -/
theorem repeated_none_iff : (M.Repeated m none) before part after ↔
    ∃ n, ((M.Times m).Then (M.Times n)) before part after := by
  simp only [← times_add]
  constructor
  · rintro ⟨n, hn, -, h⟩
    obtain ⟨k, rfl⟩ := Nat.exists_eq_add_of_le hn
    exact ⟨k, h⟩
  · rintro ⟨n, h⟩
    exact ⟨m + n, by omega, nofun, h⟩

end Portion

/-- Which parts of a text a pattern matches. -/
def Pattern.Matches : Pattern → Portion
  | .empty => Portion.Nothing
  | .one s => fun _ part _ => ∃ c, part = [c] ∧ s.contains c = true
  | .anchor a => fun before part after => part = [] ∧ a.holds before after = true
  | .seq p q => p.Matches.Then q.Matches
  | .alt p q => p.Matches.Or q.Matches
  | .rep p min max => p.Matches.Repeated min max

/-! ## From place to place -/

namespace Portion

variable {text : List Char} {M N : Portion} {i j k m n : Nat}

/-- A condition holds of the part of a text from one place to another. -/
def Links (M : Portion) (text : List Char) (i j : Nat) : Prop :=
  ∃ before part after, text = before ++ (part ++ after) ∧ before.length = i ∧
    (before ++ part).length = j ∧ M before.reverse part after

theorem Links.le (h : M.Links text i j) : i ≤ j := by
  obtain ⟨before, part, after, -, rfl, rfl, -⟩ := h
  rw [List.length_append]
  omega

theorem Links.le_length (h : M.Links text i j) : j ≤ text.length := by
  obtain ⟨before, part, after, rfl, -, rfl, -⟩ := h
  simp only [List.length_append]
  omega

theorem Links.mono (h : M.Links text i j)
    (hM : ∀ {before part after}, M before part after → N before part after) :
    N.Links text i j := by
  obtain ⟨before, part, after, htext, hi, hj, h⟩ := h
  exact ⟨before, part, after, htext, hi, hj, hM h⟩

/-- No character is passed from a place to itself. -/
theorem links_nothing_iff : Nothing.Links text i j ↔ i ≤ text.length ∧ i = j := by
  constructor
  · intro h
    have hle := h.le.trans h.le_length
    obtain ⟨before, _, after, -, rfl, rfl, rfl⟩ := h
    exact ⟨hle, by rw [List.append_nil]⟩
  · rintro ⟨hi, rfl⟩
    exact ⟨text.take i, [], text.drop i, (List.take_append_drop i text).symm,
      List.length_take_of_le hi, by rw [List.append_nil, List.length_take_of_le hi], rfl⟩

theorem links_or_iff : (M.Or N).Links text i j ↔ M.Links text i j ∨ N.Links text i j := by
  constructor
  · rintro ⟨before, part, after, htext, hi, hj, h | h⟩
    · exact .inl ⟨before, part, after, htext, hi, hj, h⟩
    · exact .inr ⟨before, part, after, htext, hi, hj, h⟩
  · rintro (h | h)
    · exact h.mono .inl
    · exact h.mono .inr

/-- **Two parts in a row run from place to place to place.** -/
theorem links_then_iff :
    (M.Then N).Links text i k ↔ ∃ j, M.Links text i j ∧ N.Links text j k := by
  constructor
  · rintro ⟨before, _, after, htext, hi, hk, u, v, rfl, hu, hv⟩
    refine ⟨(before ++ u).length, ⟨before, u, v ++ after, ?_, hi, rfl, hu⟩,
      ⟨before ++ u, v, after, ?_, rfl, ?_, ?_⟩⟩
    · rw [htext, List.append_assoc]
    · rw [htext, List.append_assoc, List.append_assoc]
    · rw [← hk, List.append_assoc]
    · rw [List.reverse_append]
      exact hv
  · rintro ⟨j, ⟨before, u, rest, htext, hi, hj, hu⟩, middle, v, after, htext', hmiddle, hk, hv⟩
    -- both are cuts of the same text at the same place
    have hcut : before ++ u ++ rest = middle ++ (v ++ after) := by
      rw [List.append_assoc, ← htext, htext']
    obtain ⟨rfl, rfl⟩ := List.append_inj hcut (hj.trans hmiddle.symm)
    refine ⟨before, u ++ v, after, ?_, hi, ?_, u, v, rfl, hu, ?_⟩
    · rw [htext, List.append_assoc]
    · rw [← hk, List.append_assoc]
    · rw [← List.reverse_append]
      exact hv

/-- Parts that pass no character can be left out, so that there are no more
parts than characters. -/
theorem Links.exists_times_le (h : (M.Times n).Links text i j) :
    ∃ m, m ≤ n ∧ m ≤ j - i ∧ (M.Times m).Links text i j := by
  induction n generalizing i with
  | zero => exact ⟨0, le_refl 0, Nat.zero_le _, h⟩
  | succ n ih =>
    obtain ⟨k, hfirst, hrest⟩ := links_then_iff.1 h
    obtain ⟨m, hn, hm, hrest'⟩ := ih hrest
    have hik := hfirst.le
    have hkj := hrest.le
    by_cases hpassed : i = k
    · subst hpassed
      exact ⟨m, by omega, hm, hrest'⟩
    · exact ⟨m + 1, by omega, by omega, links_then_iff.2 ⟨k, hfirst, hrest'⟩⟩

/-- More parts than there are places reach nothing more. -/
theorem links_upTo_length_iff :
    (M.UpTo (text.length + 1)).Links text i j ↔ ∃ n, (M.Times n).Links text i j := by
  constructor
  · rintro ⟨before, part, after, htext, hi, hj, n, -, h⟩
    exact ⟨n, before, part, after, htext, hi, hj, h⟩
  · rintro ⟨n, h⟩
    have hlength := h.le_length
    obtain ⟨m, -, hm, before, part, after, htext, hi, hj, h⟩ := h.exists_times_le
    exact ⟨before, part, after, htext, hi, hj, m, by omega, h⟩

theorem links_repeated_none_iff : (M.Repeated m none).Links text i k ↔
    ((M.Times m).Then (M.UpTo (text.length + 1))).Links text i k := by
  simp only [links_then_iff, links_upTo_length_iff]
  constructor
  · rintro ⟨before, part, after, htext, hi, hk, h⟩
    obtain ⟨n, h⟩ := repeated_none_iff.1 h
    obtain ⟨j, hfirst, hrest⟩ :=
      links_then_iff.1 ⟨before, part, after, htext, hi, hk, h⟩
    exact ⟨j, hfirst, n, hrest⟩
  · rintro ⟨j, hfirst, n, hrest⟩
    exact (links_then_iff.2 ⟨j, hfirst, hrest⟩).mono fun h => repeated_none_iff.2 ⟨n, h⟩

end Portion

/-! ## Sets of places -/

variable {text : List Char} {M N : Portion} {f g : Places → Places} {s : Places} {n : Nat}

/-- The places at which a condition holds are the bits that are set. -/
theorem testBit_placesWhere {holds : List Char → List Char → Bool} {before rest : List Char}
    {k : Nat} : (placesWhere holds before rest).testBit k =
      (decide (k ≤ rest.length) && holds ((rest.take k).reverse ++ before) (rest.drop k)) := by
  induction rest generalizing before k with
  | nil =>
    cases k with
    | zero => cases hb : holds before [] <;> simp [placesWhere, hb]
    | succ k => cases hb : holds before [] <;> simp [placesWhere, hb, Nat.testBit_succ]
  | cons c rest ih =>
    have hhalf (b : Bool) (x : Nat) : (b.toNat + 2 * x) / 2 = x := by cases b <;> simp; omega
    cases k with
    | zero => cases hb : holds before (c :: rest) <;> simp [placesWhere, hb]
    | succ k =>
      rw [placesWhere, Nat.testBit_succ, hhalf, ih]
      simp

/-- All of a set's members are places of a text. -/
def Within (text : List Char) (s : Places) : Prop :=
  ∀ i, s.testBit i = true → i ≤ text.length

/-- A step takes a set of places of a text to the ends of the parts that
start there. -/
def Follows (text : List Char) (step : Places → Places) (M : Portion) : Prop :=
  ∀ s, Within text s →
    ∀ j, (step s).testBit j = true ↔ ∃ i, s.testBit i = true ∧ M.Links text i j

namespace Follows

theorem within (h : Follows text f M) (hs : Within text s) : Within text (f s) := by
  intro j hj
  obtain ⟨i, -, hlink⟩ := (h s hs j).1 hj
  exact hlink.le_length

theorem nothing : Follows text id .Nothing := by
  intro s hs j
  constructor
  · intro hj
    exact ⟨j, hj, Portion.links_nothing_iff.2 ⟨hs j hj, rfl⟩⟩
  · rintro ⟨i, hi, hlink⟩
    obtain ⟨-, rfl⟩ := Portion.links_nothing_iff.1 hlink
    exact hi

/-- One step after the other. -/
theorem comp (hf : Follows text f M) (hg : Follows text g N) :
    Follows text (fun s => g (f s)) (M.Then N) := by
  intro s hs k
  rw [hg (f s) (hf.within hs) k]
  constructor
  · rintro ⟨j, hj, hlink⟩
    obtain ⟨i, hi, hfirst⟩ := (hf s hs j).1 hj
    exact ⟨i, hi, Portion.links_then_iff.2 ⟨j, hfirst, hlink⟩⟩
  · rintro ⟨i, hi, hlink⟩
    obtain ⟨j, hfirst, hlink⟩ := Portion.links_then_iff.1 hlink
    exact ⟨j, (hf s hs j).2 ⟨i, hi, hfirst⟩, hlink⟩

/-- Both steps side by side. -/
theorem or (hf : Follows text f M) (hg : Follows text g N) :
    Follows text (fun s => f s ||| g s) (M.Or N) := by
  intro s hs j
  rw [Nat.testBit_or, Bool.or_eq_true, hf s hs j, hg s hs j]
  simp only [Portion.links_or_iff, and_or_left, exists_or]

/-- A repeated step stops early only where it would change nothing any
more. -/
theorem iterate_eq (f : Places → Places) (n : Nat) (s : Places) : iterate f n s = f^[n] s := by
  induction n generalizing s with
  | zero => rfl
  | succ n ih =>
    rw [iterate]
    by_cases h : f s = s
    · simp only [h, if_true, Function.iterate_fixed h]
    · simp only [h, if_false, Function.iterate_succ_apply, ih]

theorem iterate (h : Follows text f M) (n : Nat) :
    Follows text (SignOn.iterate f n) (M.Times n) := by
  simp only [funext (iterate_eq f n)]
  induction n with
  | zero => exact nothing
  | succ n ih => exact h.comp ih

/-- A step that keeps what there was, again and again. -/
theorem upTo (h : Follows text f M) (most : Nat) :
    Follows text (SignOn.iterate (fun t => t ||| f t) most) (M.UpTo most) := by
  rw [← Portion.times_nothing_or]
  exact (nothing.or h).iterate most

end Follows

/-! ## The matcher -/

/-- A set of characters is passed where its place is marked. -/
theorem follows_one (set : CharSet) :
    Follows text (((Pattern.one set).overlay text).ends (text.length + 1))
      (Pattern.one set).Matches := by
  intro s _ j
  simp only [Pattern.overlay, Overlay.ends, Nat.testBit_shiftLeft, Nat.testBit_and,
    testBit_placesWhere, Bool.and_eq_true, decide_eq_true_eq]
  constructor
  · rintro ⟨hj, hs, hlength, hc⟩
    obtain ⟨c, hc, hset⟩ : ∃ c, (text.drop (j - 1)).head? = some c ∧ set.contains c = true := by
      cases hhead : (text.drop (j - 1)).head? with
      | none => rw [hhead] at hc; cases hc
      | some c => rw [hhead] at hc; exact ⟨c, rfl, hc⟩
    obtain ⟨after, hafter⟩ := List.head?_eq_some_iff.1 hc
    refine ⟨j - 1, hs, text.take (j - 1), [c], after, ?_, List.length_take_of_le hlength, ?_,
      c, rfl, hset⟩
    · rw [List.singleton_append, ← hafter, List.take_append_drop]
    · rw [List.length_append, List.length_take_of_le hlength, List.length_singleton]
      omega
  · rintro ⟨_, hi, before, _, after, rfl, rfl, rfl, c, rfl, hset⟩
    simp [hi, hset]

/-- An anchor keeps the places that it holds at. -/
theorem follows_anchor (a : Anchor) :
    Follows text (((Pattern.anchor a).overlay text).ends (text.length + 1))
      (Pattern.anchor a).Matches := by
  intro s _ j
  simp only [Pattern.overlay, Overlay.ends, Nat.testBit_and, testBit_placesWhere,
    Bool.and_eq_true, decide_eq_true_eq, List.append_nil]
  constructor
  · rintro ⟨hs, hlength, hholds⟩
    exact ⟨j, hs, text.take j, [], text.drop j, (List.take_append_drop j text).symm,
      List.length_take_of_le hlength, by rw [List.append_nil, List.length_take_of_le hlength],
      rfl, hholds⟩
  · rintro ⟨_, hi, before, _, after, rfl, rfl, rfl, rfl, hholds⟩
    simp [hi, hholds]

/-- **The matcher's step over a pattern leads from where a part starts to
where it ends.** -/
theorem follows_ends (p : Pattern) :
    Follows text ((p.overlay text).ends (text.length + 1)) p.Matches := by
  induction p with
  | empty => exact Follows.nothing
  | one set => exact follows_one set
  | anchor a => exact follows_anchor a
  | seq p q hp hq => exact hp.comp hq
  | alt p q hp hq => exact hp.or hq
  | rep p min max ih =>
    cases max with
    | some most =>
      rw [Pattern.Matches, Portion.repeated_some]
      exact (ih.iterate min).comp (ih.upTo (most - min))
    | none =>
      intro s hs j
      simp only [Pattern.Matches, Portion.links_repeated_none_iff]
      exact (ih.iterate min).comp (ih.upTo (text.length + 1)) s hs j

/-- **A pattern is found in a text exactly if it matches some part of
it.** -/
theorem Pattern.isMatch_iff {p : Pattern} {text : String} : p.isMatch text = true ↔
    ∃ before part after, text.toList = before ++ (part ++ after) ∧
      p.Matches before.reverse part after := by
  set cs := text.toList with hcs
  have hall (i : Nat) : (1 <<< (cs.length + 1) - 1).testBit i = true ↔ i ≤ cs.length := by
    rw [Nat.one_shiftLeft, Nat.testBit_two_pow_sub_one, decide_eq_true_eq]
    omega
  have hfollows := follows_ends p (1 <<< (cs.length + 1) - 1) fun i hi => (hall i).1 hi
  rw [isMatch, bne_iff_ne]
  constructor
  · intro hne
    obtain ⟨j, hj⟩ := Nat.exists_testBit_of_ne_zero hne
    obtain ⟨i, -, before, part, after, htext, -, -, h⟩ := (hfollows j).1 hj
    exact ⟨before, part, after, htext, h⟩
  · rintro ⟨before, part, after, htext, h⟩ hzero
    have hlink : p.Matches.Links cs before.length (before ++ part).length :=
      ⟨before, part, after, htext, rfl, rfl, h⟩
    have hj := (hfollows _).2 ⟨_, (hall _).2 (hlink.le.trans hlink.le_length), hlink⟩
    rw [hzero, Nat.zero_testBit] at hj
    cases hj

end SignOn
