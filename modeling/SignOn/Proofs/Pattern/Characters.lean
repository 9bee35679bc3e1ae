import SignOn.Proofs.Pattern.Meaning
/-!
# Patterns of characters

The usual rule for a text describes all of it, from the first character to
the last, as runs of characters one after another. Such a pattern has no
choice where it may start (`Pattern.isMatch_whole_iff`), and a run is told
by its length and its characters (`Pattern.matches_run_iff`).
-/

namespace SignOn

namespace CharSet

variable {a b : CharSet} {c d : Char} {lo hi : Nat}

@[simp]
theorem contains_single : (single d).contains c = true ↔ c = d := by
  simp only [contains, single, containsCode, Unicode.Ranges.contains, List.any_cons, List.any_nil,
    Bool.or_false, Bool.and_eq_true, decide_eq_true_eq, ← Char.toNat_inj]
  omega

@[simp]
theorem contains_blanks : blanks.contains c = Unicode.isWhiteSpace c :=
  rfl

@[simp]
theorem contains_union : (union a b).contains c = (a.contains c || b.contains c) :=
  rfl

@[simp]
theorem contains_compl : (compl a).contains c = !a.contains c :=
  rfl

end CharSet

namespace Pattern

variable {p q : Pattern} {set : CharSet} {before part after : List Char} {text : String}
  {min n : Nat} {max : Option Nat}

/-! ## The whole text -/

/-- One pattern after another, with sequences nested to the right, which is
how they are read. -/
def followedBy : Pattern → Pattern → Pattern
  | .seq p q, r => .seq p (q.followedBy r)
  | p, r => .seq p r

/-- A pattern that has to match the whole of a text. -/
def whole (p : Pattern) : Pattern :=
  .seq (.anchor .textStart) (p.followedBy (.anchor .textEnd))

theorem matches_followedBy : (p.followedBy q).Matches = p.Matches.Then q.Matches := by
  induction p with
  | seq p₁ p₂ _ ih => rw [followedBy, Matches, ih, Matches, Portion.then_assoc]
  | empty => rfl
  | one set => rfl
  | anchor a => rfl
  | alt p₁ p₂ => rfl
  | rep p min max => rfl

/-- **Between the anchors of a text's ends there is the whole text.** -/
theorem isMatch_whole_iff : p.whole.isMatch text = true ↔ p.Matches [] text.toList [] := by
  rw [isMatch_iff]
  constructor
  · rintro ⟨before, _, after, htext, start, rest, rfl, ⟨rfl, hstart⟩, hrest⟩
    rw [matches_followedBy] at hrest
    obtain ⟨part, stop, rfl, hpart, rfl, hstop⟩ := hrest
    obtain rfl : before = [] := by simpa [Anchor.holds] using hstart
    obtain rfl : after = [] := by simpa [Anchor.holds] using hstop
    rw [htext]
    simpa using hpart
  · intro h
    refine ⟨[], text.toList, [], by simp, [], text.toList, rfl, ⟨rfl, rfl⟩, ?_⟩
    rw [matches_followedBy]
    exact ⟨text.toList, [], by simp, by simpa using h, rfl, rfl⟩

/-! ## Runs of characters -/

theorem times_one_iff : (one set).Matches.Times n before part after ↔
    part.length = n ∧ ∀ c ∈ part, set.contains c = true := by
  induction n generalizing before part with
  | zero =>
    constructor
    · rintro rfl
      exact ⟨rfl, nofun⟩
    · rintro ⟨hlength, -⟩
      exact List.length_eq_zero_iff.1 hlength
  | succ n ih =>
    constructor
    · rintro ⟨_, rest, rfl, ⟨c, rfl, hc⟩, hrest⟩
      obtain ⟨hlength, hall⟩ := ih.1 hrest
      exact ⟨by simp [hlength], List.forall_mem_cons.2 ⟨hc, hall⟩⟩
    · rintro ⟨hlength, hall⟩
      obtain ⟨c, rest, rfl⟩ := List.exists_cons_of_length_eq_add_one hlength
      obtain ⟨hc, hall⟩ := List.forall_mem_cons.1 hall
      exact ⟨[c], rest, rfl, ⟨c, rfl, hc⟩, ih.2 ⟨Nat.succ.inj hlength, hall⟩⟩

/-- A run matches the parts of the right length whose characters are all in
the set. -/
theorem matches_run_iff : (rep (one set) min max).Matches before part after ↔
    (∀ c ∈ part, set.contains c = true) ∧ min ≤ part.length ∧
      ∀ most, max = some most → part.length ≤ most ∨ part.length = min := by
  constructor
  · rintro ⟨n, hmin, hmax, h⟩
    obtain ⟨rfl, hall⟩ := times_one_iff.1 h
    exact ⟨hall, hmin, hmax⟩
  · rintro ⟨hall, hmin, hmax⟩
    exact ⟨part.length, hmin, hmax, times_one_iff.2 ⟨rfl, hall⟩⟩

/-- A run of at least so many characters. -/
theorem matches_atLeast_iff : (rep (one set) min none).Matches before part after ↔
    (∀ c ∈ part, set.contains c = true) ∧ min ≤ part.length := by
  simp [matches_run_iff]

/-- A run of so many characters to so many. -/
theorem matches_between_iff {most : Nat} (h : min ≤ most) :
    (rep (one set) min (some most)).Matches before part after ↔
      (∀ c ∈ part, set.contains c = true) ∧ min ≤ part.length ∧ part.length ≤ most := by
  simp only [matches_run_iff, Option.some.injEq, forall_eq']
  refine and_congr_right fun _ => ?_
  omega

/-- A set of characters is found where there is one of them. -/
theorem isMatch_one_iff :
    (one set).isMatch text = true ↔ ∃ c ∈ text.toList, set.contains c = true := by
  rw [isMatch_iff]
  constructor
  · rintro ⟨before, _, after, htext, c, rfl, hc⟩
    exact ⟨c, by simp [htext], hc⟩
  · rintro ⟨c, hmem, hc⟩
    obtain ⟨before, after, htext⟩ := List.append_of_mem hmem
    exact ⟨before, [c], after, htext, c, rfl, hc⟩

/-- A run of so many characters to so many is the whole of a text, but for a
sign that may stand before it. -/
theorem isMatch_signed_iff {sign : Char} {most : Nat} (h : min ≤ most) :
    (whole (.seq (.rep (.one (.single sign)) 0 (some 1))
      (.rep (.one set) min (some most)))).isMatch text = true ↔
    ∃ run, (text.toList = run ∨ text.toList = sign :: run) ∧
      (∀ c ∈ run, set.contains c = true) ∧ min ≤ run.length ∧ run.length ≤ most := by
  rw [isMatch_whole_iff]
  constructor
  · rintro ⟨signs, run, htext, hsigns, hrun⟩
    rw [matches_between_iff (by omega)] at hsigns
    refine ⟨run, ?_, (matches_between_iff h).1 hrun⟩
    obtain ⟨hsigns, -, hone⟩ := hsigns
    match signs, hone with
    | [], _ => exact .inl htext
    | [c], _ =>
      obtain rfl : c = sign := CharSet.contains_single.1 (hsigns c (by simp))
      exact .inr htext
  · rintro ⟨run, htext | htext, hrun⟩
    · exact ⟨[], run, htext, (matches_between_iff (by omega)).2 ⟨nofun, by simp, by simp⟩,
        (matches_between_iff h).2 hrun⟩
    · exact ⟨[sign], run, htext, (matches_between_iff (by omega)).2 ⟨by simp, by simp, by simp⟩,
        (matches_between_iff h).2 hrun⟩

end Pattern

end SignOn
