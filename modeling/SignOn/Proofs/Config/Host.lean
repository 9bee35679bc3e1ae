import Mathlib.Data.List.TakeWhile
import Mathlib.Data.Option.Basic
import SignOn.Config.Address
import SignOn.Proofs.Text.Decimal
/-!
# Hosts in writing

`Host.Spells` says which texts write a host: four octets as they are
printed, or eight groups in square brackets with at most one gap, the last
two perhaps as octets, and perhaps a zone. What is read at the front of a
text is what is written there (`Host.spells_of_readV4`,
`Host.spells_of_readV6`). Conversely a host that is written is read
(`Host.readV4_append`, `Host.readV6_append`): the reader takes as much as it
can, and a host is followed by nothing that it could go on with.
-/

namespace SignOn

namespace Host

/-! ## Characters of a class -/

/-- A text that does not go on with a character of a class. -/
def Stops (p : Char → Bool) (rest : List Char) : Prop :=
  ∀ c ∈ rest.head?, p c = false

variable {p : Char → Bool} {c : Char} {cs digits text rest : List Char}

@[simp] theorem stops_nil : Stops p [] := by
  rintro c ⟨⟩

@[simp] theorem stops_cons : Stops p (c :: rest) ↔ p c = false := by
  simp [Stops]

theorem Stops.mono {q : Char → Bool} (h : Stops p rest) (hq : ∀ c, q c = true → p c = true) :
    Stops q rest := by
  intro c hc
  have hp := h c hc
  by_contra hqc
  rw [hq c (by simpa using hqc)] at hp
  cases hp

/-- **The longest run of digits** is one that stops where the rest
begins. -/
theorem spanDigits_eq_iff : spanDigits p cs = (digits, rest) ↔
    cs = digits ++ rest ∧ (∀ c ∈ digits, p c = true) ∧ Stops p rest := by
  rw [spanDigits, Prod.mk.injEq]
  constructor
  · rintro ⟨rfl, rfl⟩
    refine ⟨List.takeWhile_append_dropWhile.symm, fun c hc => List.mem_takeWhile_imp hc, ?_⟩
    intro c hc
    have := List.head?_dropWhile_not p cs
    rw [Option.mem_def.1 hc] at this
    simpa using this
  · rintro ⟨rfl, hdigits, hstops⟩
    rw [List.takeWhile_append_of_pos hdigits, List.dropWhile_append_of_pos hdigits]
    cases rest with
    | nil => simp
    | cons c rest => simp [stops_cons.1 hstops]

theorem exists_spanDigits (p : Char → Bool) (cs : List Char) : ∃ digits rest,
    spanDigits p cs = (digits, rest) ∧ cs = digits ++ rest ∧ (∀ c ∈ digits, p c = true) ∧
      Stops p rest :=
  ⟨_, _, rfl, spanDigits_eq_iff.1 rfl⟩

theorem readChar_eq_some_iff : readChar c cs = some rest ↔ cs = c :: rest := by
  unfold readChar
  split
  · next d rest' =>
    split
    · next h => simp [h]
    · next h => simp [h]
  · simp

/-! ## Octets -/

variable {n : UInt8} {o : Vector UInt8 4}

/-- **An octet is read where it is written** as numbers are printed, and
the text does not go on with a digit. -/
theorem readOctet_eq_some_iff : readOctet cs = some (n, rest) ↔
    cs = Nat.toDigits 10 n.toNat ++ rest ∧ Stops Char.isDigit rest := by
  constructor
  · intro h
    obtain ⟨digits, rest', hspan, rfl, hdigits, hstops⟩ := exists_spanDigits Char.isDigit cs
    simp only [readOctet, hspan] at h
    split at h
    · cases h
    · next hfit =>
      simp only [not_or, not_and, Nat.not_lt] at hfit
      obtain ⟨hne, -, hle, hzero⟩ := hfit
      cases h
      rw [UInt8.toNat_ofNat_of_lt' (Nat.lt_succ_of_le hle), ofDigits_ten hdigits,
        toDigits_ofDigitChars hne hdigits fun hhead => ?_]
      · exact ⟨rfl, hstops⟩
      · have := List.length_pos_iff.2 hne
        by_contra hlength
        exact hzero (by omega) hhead
  · rintro ⟨rfl, hstops⟩
    have hdigits : ∀ c ∈ Nat.toDigits 10 n.toNat, c.isDigit = true :=
      fun c => isDigit_of_mem_toDigits
    have hvalue : ofDigits 10 (Nat.toDigits 10 n.toNat) = n.toNat := by
      rw [ofDigits_ten hdigits, Nat.ofDigitChars_ten_toDigits]
    have hlt := n.toNat_lt
    have hlength : (Nat.toDigits 10 n.toNat).length ≤ 3 :=
      (Nat.length_toDigits_le_iff (by decide) (by decide)).2 (by omega)
    have hzero : ¬ (1 < (Nat.toDigits 10 n.toNat).length ∧
        (Nat.toDigits 10 n.toNat).head? = some '0') := by
      rintro ⟨hlong, hhead⟩
      obtain ⟨cs, hcs⟩ := List.head?_eq_some_iff.1 hhead
      rw [eq_zero_of_toDigits_cons hcs] at hlong
      exact absurd hlong (by decide)
    rw [readOctet, spanDigits_eq_iff.2 ⟨rfl, hdigits, hstops⟩]
    simp only [hvalue]
    rw [if_neg]
    · rw [UInt8.ofNat_toNat]
    · rintro (hnil | hlong | hlarge | hneedless)
      · exact Nat.toDigits_ne_nil hnil
      · omega
      · omega
      · exact hzero hneedless

theorem exists_octets (o : Vector UInt8 4) : ∃ i j k l, o = #v[i, j, k, l] := by
  obtain ⟨⟨xs⟩, hlength⟩ := o
  match xs, hlength with
  | [i, j, k, l], _ => exact ⟨i, j, k, l, rfl⟩

/-- The text of four octets, octet by octet. -/
theorem toList_octetsText (i j k l : UInt8) : (octetsText #v[i, j, k, l]).toList =
    Nat.toDigits 10 i.toNat ++ '.' :: (Nat.toDigits 10 j.toNat ++
      '.' :: (Nat.toDigits 10 k.toNat ++ '.' :: Nat.toDigits 10 l.toNat)) := by
  simp [octetsText]

/-- **So are four octets**, as they are printed. -/
theorem readOctets_eq_some_iff : readOctets cs = some (o, rest) ↔
    cs = (octetsText o).toList ++ rest ∧ Stops Char.isDigit rest := by
  have hdot {cs : List Char} : Stops Char.isDigit ('.' :: cs) := stops_cons.2 rfl
  simp only [readOctets, Option.bind_eq_bind, Option.bind_eq_some_iff, Prod.exists,
    readOctet_eq_some_iff, readChar_eq_some_iff, Option.pure_def, Option.some.injEq,
    Prod.mk.injEq]
  constructor
  · rintro ⟨i, _, ⟨rfl, -⟩, _, rfl, j, _, ⟨rfl, -⟩, _, rfl, k, _, ⟨rfl, -⟩, _, rfl, l, _,
      ⟨rfl, hstops⟩, rfl, rfl⟩
    exact ⟨by simp [toList_octetsText], hstops⟩
  · rintro ⟨rfl, hstops⟩
    obtain ⟨i, j, k, l, rfl⟩ := exists_octets o
    simp only [toList_octetsText, List.append_assoc, List.cons_append]
    exact ⟨i, _, ⟨rfl, hdot⟩, _, rfl, j, _, ⟨rfl, hdot⟩, _, rfl, k, _, ⟨rfl, hdot⟩, _, rfl,
      l, _, ⟨rfl, hstops⟩, rfl, rfl⟩

/-! ## Groups -/

variable {first octets : Bool} {room : Nat} {g : UInt16} {gs head tail : List UInt16}
  {groups : Vector UInt16 8}

theorem isHexDigit_of_isDigit (h : c.isDigit = true) : isHexDigit c = true := by
  rw [isHexDigit, hexValue?, if_pos h]
  rfl

/-- **A group in writing**: one to four hexadecimal digits that have its
value, perhaps with zeros in front and letters of both cases. -/
structure SpellsGroup (g : UInt16) (text : List Char) : Prop where
  length : 1 ≤ text.length ∧ text.length ≤ 4
  digits : ∀ c ∈ text, isHexDigit c = true
  value : ofDigits 16 text = g.toNat

theorem hexValue?_lt {v : Nat} (h : hexValue? c = some v) : v < 16 := by
  unfold hexValue? at h
  split at h
  · next hdigit =>
    have := Ascii.isDigit_iff.1 hdigit
    cases h
    omega
  · split at h
    · next hlower =>
      have : c.toNat ≤ 102 := UInt32.le_iff_toNat_le.1 hlower.2
      cases h
      omega
    · split at h
      · next hupper =>
        have : c.toNat ≤ 70 := UInt32.le_iff_toNat_le.1 hupper.2
        cases h
        omega
      · cases h

/-- Digits write no number of more digits. -/
theorem ofDigits_sixteen_lt (digits : List Char) : ofDigits 16 digits < 16 ^ digits.length := by
  induction digits using List.reverseRecOn with
  | nil => decide
  | append_singleton cs c ih =>
    have hvalue : (hexValue? c).getD 0 < 16 := by
      cases h : hexValue? c with
      | none => decide
      | some v => exact hexValue?_lt h
    rw [ofDigits_concat, List.length_append, List.length_singleton, Nat.pow_succ]
    omega

/-- **A group is read where it is written**, and the text does not go on
with a digit. -/
theorem readGroup_eq_some_iff : readGroup cs = some (g, rest) ↔
    ∃ text, SpellsGroup g text ∧ cs = text ++ rest ∧ Stops isHexDigit rest := by
  constructor
  · intro h
    obtain ⟨digits, rest', hspan, rfl, hdigits, hstops⟩ := exists_spanDigits isHexDigit cs
    simp only [readGroup, hspan] at h
    split at h
    · cases h
    · next hfit =>
      simp only [not_or, Nat.not_lt] at hfit
      cases h
      refine ⟨digits, ⟨⟨List.length_pos_iff.2 hfit.1, hfit.2⟩, hdigits, ?_⟩, rfl, hstops⟩
      have hlt := ofDigits_sixteen_lt digits
      have hpow : 16 ^ digits.length ≤ 16 ^ 4 := Nat.pow_le_pow_right (by decide) hfit.2
      exact (UInt16.toNat_ofNat_of_lt' (Nat.lt_of_lt_of_le hlt hpow)).symm
  · rintro ⟨text, ⟨hlength, hdigits, hvalue⟩, rfl, hstops⟩
    rw [readGroup, spanDigits_eq_iff.2 ⟨rfl, hdigits, hstops⟩]
    simp only [hvalue]
    rw [if_neg, UInt16.ofNat_toNat]
    rintro (rfl | hlong)
    · exact absurd hlength.1 (by decide)
    · omega

/-- What a group or octets go on with. -/
def goesOn (c : Char) : Bool :=
  isHexDigit c || c = '.'

theorem Stops.hexDigits (h : Stops goesOn rest) : Stops isHexDigit rest :=
  h.mono fun c hc => by simp [goesOn, hc]

theorem Stops.decimalDigits (h : Stops goesOn rest) : Stops Char.isDigit rest :=
  h.mono fun c hc => by simp [goesOn, isHexDigit_of_isDigit hc]

/-- What does not begin with a digit begins neither with a group nor with
octets. -/
theorem readGroup_of_stops (h : Stops isHexDigit cs) : readGroup cs = none := by
  rw [readGroup, spanDigits_eq_iff.2 ⟨(List.nil_append cs).symm, by simp, h⟩]
  simp

theorem readOctets_of_stops (h : Stops Char.isDigit cs) : readOctets cs = none := by
  have hoctet : readOctet cs = none := by
    rw [readOctet, spanDigits_eq_iff.2 ⟨(List.nil_append cs).symm, by simp, h⟩]
    simp
  rw [readOctets, hoctet]
  rfl

/-- A group does not begin octets, unless a dot comes after it. -/
theorem SpellsGroup.readOctets_eq_none (h : SpellsGroup g text) (hrest : Stops goesOn rest) :
    readOctets (text ++ rest) = none := by
  rw [Option.eq_none_iff_forall_ne_some]
  rintro ⟨o, rest'⟩ hread
  obtain ⟨heq, -⟩ := readOctets_eq_some_iff.1 hread
  obtain ⟨i, j, k, l, rfl⟩ := exists_octets o
  rw [toList_octetsText, List.append_assoc, List.cons_append] at heq
  -- the digits of the first octet are those of the group
  have hfirst : ∀ c ∈ Nat.toDigits 10 i.toNat, isHexDigit c = true :=
    fun c hc => isHexDigit_of_isDigit (isDigit_of_mem_toDigits hc)
  have hspan := spanDigits_eq_iff.2 ⟨heq, hfirst, stops_cons.2 rfl⟩
  rw [spanDigits_eq_iff.2 ⟨rfl, h.digits, hrest.hexDigits⟩, Prod.mk.injEq] at hspan
  rw [hspan.2] at hrest
  exact absurd (stops_cons.1 hrest) (by decide)

/-! ## Groups in a row -/

/-- **Groups in a row**, with colons between them. The flag says that the
last two are written as octets. -/
inductive SpellsGroups : Bool → List UInt16 → List Char → Prop
  | octets (i j k l : UInt8) :
    SpellsGroups true [group i j, group k l] (octetsText #v[i, j, k, l]).toList
  | last {g : UInt16} {text : List Char} (h : SpellsGroup g text) : SpellsGroups false [g] text
  | cons {octets : Bool} {g : UInt16} {gs : List UInt16} {text texts : List Char}
    (h : SpellsGroup g text) (hs : SpellsGroups octets gs texts) :
    SpellsGroups octets (g :: gs) (text ++ ':' :: texts)

/-- A row as it comes after other groups, with a colon in front. -/
def following (first : Bool) (text : List Char) : List Char :=
  if first then text else ':' :: text

@[simp] theorem following_false (text : List Char) : following false text = ':' :: text := rfl

@[simp] theorem following_append (first : Bool) (text rest : List Char) :
    following first text ++ rest = following first (text ++ rest) := by
  cases first <;> rfl

theorem readSeparator_eq_some_iff :
    (if first then some cs else readChar ':' cs) = some text ↔ cs = following first text := by
  cases first with
  | true => simp [following]
  | false => simp [following, readChar_eq_some_iff]

/-- **Whatever is read of a row is written there.** -/
theorem spellsGroups_of_readGroups (h : readGroups first room cs = (gs, octets, rest)) :
    gs.length ≤ room ∧ ((octets = false ∧ gs = [] ∧ rest = cs) ∨
      ∃ text, SpellsGroups octets gs text ∧ cs = following first text ++ rest) := by
  -- along the room that is left: octets end the row, a group takes one place, all else none
  induction room generalizing first cs gs octets rest with
  | zero =>
    cases h
    exact ⟨Nat.le_refl 0, .inl ⟨rfl, rfl, rfl⟩⟩
  | succ room ih =>
    rw [readGroups] at h
    split at h
    · cases h
      exact ⟨Nat.zero_le _, .inl ⟨rfl, rfl, rfl⟩⟩
    · next inner hinner =>
      rw [readSeparator_eq_some_iff] at hinner
      subst hinner
      split at h
      · next o rest' hoctets =>
        cases h
        split at hoctets
        · next hroom =>
          obtain ⟨rfl, -⟩ := readOctets_eq_some_iff.1 hoctets
          obtain ⟨i, j, k, l, rfl⟩ := exists_octets o
          exact ⟨Nat.succ_le_succ hroom, .inr ⟨_, .octets i j k l, by simp⟩⟩
        · cases hoctets
      · split at h
        · cases h
          exact ⟨Nat.zero_le _, .inl ⟨rfl, rfl, rfl⟩⟩
        · next g rest' hgroup =>
          obtain ⟨text, hg, rfl, -⟩ := readGroup_eq_some_iff.1 hgroup
          obtain ⟨gs', octets', rest'', hread⟩ : ∃ gs' octets' rest'',
            readGroups false room rest' = (gs', octets', rest'') := ⟨_, _, _, rfl⟩
          rw [hread] at h
          cases h
          -- the group is the last one if nothing is read after it
          obtain ⟨hlength, ⟨rfl, rfl, rfl⟩ | ⟨texts, hs, rfl⟩⟩ := ih hread
          · exact ⟨by simp, .inr ⟨text, .last hg, by simp⟩⟩
          · exact ⟨by simpa using hlength, .inr ⟨_, .cons hg hs, by simp⟩⟩

/-- What ends a row of groups: a double colon, a zone or the bracket. -/
inductive Ends : List Char → Prop
  | gap (cs : List Char) : Ends (':' :: ':' :: cs)
  | zone (cs : List Char) : Ends ('%' :: cs)
  | bracket (cs : List Char) : Ends (']' :: cs)

theorem Ends.stops (h : Ends rest) : Stops goesOn rest := by
  cases h <;> exact stops_cons.2 (by decide)

/-- No group begins there, with or without a colon. -/
theorem Ends.readGroups_eq (h : Ends rest) (first : Bool) (room : Nat) :
    readGroups first room rest = ([], false, rest) := by
  cases room with
  | zero => rfl
  | succ room =>
    have hinner : ∀ inner, rest = following first inner → Stops isHexDigit inner := by
      intro inner hinner
      cases first with
      | true =>
        obtain rfl : rest = inner := hinner
        exact h.stops.hexDigits
      | false =>
        cases h with
        | gap cs =>
          -- the second colon stands where a group would begin
          cases hinner
          exact stops_cons.2 rfl
        | zone cs => cases hinner
        | bracket cs => cases hinner
    rw [readGroups]
    split
    · rfl
    · next inner hsep =>
      have hstops := hinner inner (readSeparator_eq_some_iff.1 hsep)
      have hdecimal := hstops.mono fun c => isHexDigit_of_isDigit
      simp only [readOctets_of_stops hdecimal, ite_self, readGroup_of_stops hstops]

/-- **A row that is written is read**, if there is room for it and the text
does not go on with more. -/
theorem SpellsGroups.readGroups_append (h : SpellsGroups octets gs text) (hroom : gs.length ≤ room)
    (hrest : Ends rest) (first : Bool) :
    readGroups first room (following first text ++ rest) = (gs, octets, rest) := by
  -- where a group is written, octets are not
  have hgroup {g : UInt16} {text rest : List Char} {p : Prop} [Decidable p] (h : SpellsGroup g text)
      (hrest : Stops goesOn rest) : (if p then readOctets (text ++ rest) else none) = none := by
    rw [h.readOctets_eq_none hrest, ite_self]
  induction h generalizing room first with
  | octets i j k l =>
    obtain ⟨room, rfl⟩ : ∃ r, room = r + 2 := ⟨room - 2, by simp at hroom; omega⟩
    rw [following_append, readGroups, readSeparator_eq_some_iff.2 rfl]
    simp only [Nat.zero_lt_succ, if_true,
      readOctets_eq_some_iff.2 ⟨rfl, hrest.stops.decimalDigits⟩]
    rfl
  | @last g text h =>
    obtain ⟨room, rfl⟩ : ∃ r, room = r + 1 := ⟨room - 1, by simp at hroom; omega⟩
    rw [following_append, readGroups, readSeparator_eq_some_iff.2 rfl]
    simp only [hgroup h hrest.stops,
      readGroup_eq_some_iff.2 ⟨text, h, rfl, hrest.stops.hexDigits⟩, hrest.readGroups_eq]
  | @cons octets g gs text texts h hs ih =>
    obtain ⟨room, rfl⟩ : ∃ r, room = r + 1 := ⟨room - 1, by simp at hroom; omega⟩
    have hcolon : Stops goesOn (':' :: (texts ++ rest)) := stops_cons.2 (by decide)
    have htail : readGroups false room (':' :: (texts ++ rest)) = (gs, octets, rest) :=
      ih (by simpa using hroom) false
    rw [following_append, readGroups, readSeparator_eq_some_iff.2 rfl, List.append_assoc,
      List.cons_append]
    simp only [hgroup h hcolon, readGroup_eq_some_iff.2 ⟨text, h, rfl, hcolon.hexDigits⟩, htail]

/-! ## Groups in brackets -/

/-- One side of a double colon: a row of groups, or nothing. -/
def SpellsSide (octets : Bool) (gs : List UInt16) (text : List Char) : Prop :=
  (octets = false ∧ gs = [] ∧ text = []) ∨ SpellsGroups octets gs text

theorem spellsSide_of_readGroups (h : readGroups true room cs = (gs, octets, rest)) :
    gs.length ≤ room ∧ ∃ text, SpellsSide octets gs text ∧ cs = text ++ rest := by
  obtain ⟨hlength, ⟨ho, hgs, rfl⟩ | ⟨text, hs, rfl⟩⟩ := spellsGroups_of_readGroups h
  · exact ⟨hlength, [], .inl ⟨ho, hgs, rfl⟩, rfl⟩
  · exact ⟨hlength, text, .inr hs, rfl⟩

theorem SpellsSide.readGroups_append (h : SpellsSide octets gs text) (hroom : gs.length ≤ room)
    (hrest : Ends rest) : readGroups true room (text ++ rest) = (gs, octets, rest) := by
  obtain ⟨rfl, rfl, rfl⟩ | hs := h
  · exact hrest.readGroups_eq true room
  · exact hs.readGroups_append hroom hrest true

/-- **Eight groups in writing**: all of them, or the ones before and after
a double colon, which stands for the zeros between them, at least one.
Octets stand only at the end. -/
inductive SpellsAll (groups : Vector UInt16 8) : List Char → Prop
  | whole {octets : Bool} {text : List Char} (h : SpellsGroups octets groups.toList text) :
    SpellsAll groups text
  | gap {octets : Bool} {head tail : List UInt16} {before after : List Char}
    (hhead : SpellsSide false head before) (htail : SpellsSide octets tail after)
    (hlength : head.length + tail.length < 8)
    (hgroups : groups.toList =
      head ++ List.replicate (8 - head.length - tail.length) 0 ++ tail) :
    SpellsAll groups (before ++ ':' :: ':' :: after)

theorem ofGroups_eq_some_iff : ofGroups gs = some groups ↔ gs = groups.toList := by
  have hback : groups.toList.toArray = groups.toArray := Array.toArray_toList
  unfold ofGroups
  constructor
  · intro h
    split at h
    · cases h
      rfl
    · cases h
  · rintro rfl
    simp [hback]

theorem ofGroups_eq_none_iff : ofGroups gs = none ↔ gs.length ≠ 8 := by
  rw [ofGroups, dite_eq_right_iff]
  simp

/-- **Whatever groups are read are written there.** -/
theorem spellsAll_of_readAllGroups (h : readAllGroups cs = some (groups, rest)) :
    ∃ text, SpellsAll groups text ∧ cs = text ++ rest := by
  obtain ⟨head, octets, rest₁, hhead⟩ :
    ∃ head octets rest₁, readGroups true 8 cs = (head, octets, rest₁) := ⟨_, _, _, rfl⟩
  obtain ⟨hroom, before, hbefore, rfl⟩ := spellsSide_of_readGroups hhead
  simp only [readAllGroups, hhead] at h
  split at h
  · next groups' hall =>
    cases h
    obtain rfl := ofGroups_eq_some_iff.1 hall
    -- eight groups are not none
    obtain ⟨-, hnil, -⟩ | hs := hbefore
    · cases groups.size_toArray.symm.trans (congrArg List.length hnil)
    · exact ⟨before, .whole hs, rfl⟩
  · next hnone =>
    simp only [Option.bind_eq_bind, Option.bind_eq_some_iff, Option.guard_eq_some',
      readChar_eq_some_iff, ofGroups_eq_some_iff] at h
    obtain ⟨-, hoctets, _, rfl, cs, rfl, groups', hgroups, h⟩ := h
    obtain ⟨tail, octets', rest₂, htail⟩ : ∃ tail octets' rest₂,
      readGroups true (7 - head.length) cs = (tail, octets', rest₂) := ⟨_, _, _, rfl⟩
    obtain ⟨hlength, after, hafter, rfl⟩ := spellsSide_of_readGroups htail
    rw [htail] at hgroups h
    cases h
    obtain rfl : octets = false := by simpa using hoctets
    -- at most eight groups came before the gap, and not eight
    have hne := ofGroups_eq_none_iff.1 hnone
    exact ⟨_, .gap hbefore hafter (by omega) hgroups.symm, by simp⟩

/-- **All groups that are written are read**, if the text does not go on
with more. -/
theorem SpellsAll.readAllGroups_append (h : SpellsAll groups text) (hrest : Ends rest) :
    readAllGroups (text ++ rest) = some (groups, rest) := by
  cases h with
  | whole h =>
    have hread : readGroups true 8 (text ++ rest) = (groups.toList, _, rest) :=
      h.readGroups_append (by simp) hrest true
    rw [readAllGroups]
    simp only [hread, ofGroups_eq_some_iff.2 rfl]
    rfl
  | @gap octets head tail before after hhead htail hlength hgroups =>
    -- the groups in front end where the double colon begins
    have hbefore : readGroups true 8 (before ++ ':' :: ':' :: (after ++ rest)) = (head, false, _) :=
      hhead.readGroups_append (by omega) (.gap (after ++ rest))
    have hafter : readGroups true (7 - head.length) (after ++ rest) = (tail, octets, rest) :=
      htail.readGroups_append (by omega) hrest
    have hnone : ofGroups head = none := ofGroups_eq_none_iff.2 (by omega)
    rw [List.append_assoc, List.cons_append, List.cons_append, readAllGroups]
    simp only [hbefore, hnone, readChar, if_true, Option.bind_eq_bind, Option.bind_some, hafter,
      ofGroups_eq_some_iff.2 hgroups.symm]
    rfl

/-- **A zone in writing**: nothing for zone 0, or a percent sign and digits
that write the zone, perhaps with zeros in front. -/
inductive SpellsZone : UInt32 → List Char → Prop
  | none : SpellsZone 0 []
  | digits {zone : UInt32} {digits : List Char} (hne : digits ≠ [])
    (hdigits : ∀ c ∈ digits, c.isDigit = true)
    (hvalue : zone.toNat = Nat.ofDigitChars 10 digits 0) : SpellsZone zone ('%' :: digits)

variable {zone : UInt32}

theorem spellsZone_of_readZone (h : readZone cs = (zone, rest)) :
    ∃ text, SpellsZone zone text ∧ cs = text ++ rest := by
  unfold readZone at h
  split at h
  · next after =>
    obtain ⟨digits, rest', hspan, rfl, -, -⟩ := exists_spanDigits Char.isDigit after
    simp only [hspan] at h
    split at h
    · next n hn =>
      obtain ⟨hne, hdigits, hvalue⟩ := decimal?_eq_some_iff_ofDigitChars.1 hn
      split at h
      · next hlt =>
        cases h
        refine ⟨_, .digits hne hdigits ?_, rfl⟩
        rw [← hvalue]
        exact UInt32.toNat_ofNat_of_lt' hlt
      · cases h
        exact ⟨[], .none, rfl⟩
    · cases h
      exact ⟨[], .none, rfl⟩
  · cases h
    exact ⟨[], .none, rfl⟩

theorem SpellsZone.readZone_append (h : SpellsZone zone text) (rest : List Char) :
    readZone (text ++ ']' :: rest) = (zone, ']' :: rest) := by
  cases h with
  | none => rfl
  | @digits _ digits hne hdigits hvalue =>
    have hspan : spanDigits Char.isDigit (digits ++ ']' :: rest) = (digits, ']' :: rest) :=
      spanDigits_eq_iff.2 ⟨rfl, hdigits, stops_cons.2 rfl⟩
    have hread := decimal?_eq_some_iff_ofDigitChars.2 ⟨hne, hdigits, hvalue⟩
    have hlt := zone.toNat_lt
    rw [List.cons_append, readZone]
    simp only [hspan, hread, UInt32.ofNat_toNat]
    exact if_pos hlt

/-! ## Hosts -/

/-- **A host in writing**: four octets as they are printed, or eight groups
in square brackets, perhaps with a zone. Nothing else is one, neither a
name nor groups without brackets. -/
inductive Spells : Host → List Char → Prop
  | v4 (o : Vector UInt8 4) : Spells (.v4 o) (octetsText o).toList
  | v6 {groups : Vector UInt16 8} {zone : UInt32} {text zoneText : List Char}
    (h : SpellsAll groups text) (hzone : SpellsZone zone zoneText) :
    Spells (.v6 groups zone) ('[' :: (text ++ (zoneText ++ [']'])))

variable {host : Host}

theorem spells_of_readV4 (h : readV4 cs = some (host, rest)) :
    ∃ text, host.Spells text ∧ cs = text ++ rest := by
  simp only [readV4, Option.bind_eq_bind, Option.bind_eq_some_iff, Prod.exists, Option.pure_def,
    Option.some.injEq, Prod.mk.injEq, readOctets_eq_some_iff] at h
  obtain ⟨o, _, ⟨rfl, -⟩, rfl, rfl⟩ := h
  exact ⟨_, .v4 o, rfl⟩

theorem readV4_append (o : Vector UInt8 4) (hrest : Stops Char.isDigit rest) :
    readV4 ((octetsText o).toList ++ rest) = some (.v4 o, rest) := by
  rw [readV4, readOctets_eq_some_iff.2 ⟨rfl, hrest⟩]
  rfl

theorem spells_of_readV6 (h : readV6 cs = some (host, rest)) :
    ∃ text, host.Spells text ∧ cs = text ++ rest := by
  simp only [readV6, Option.bind_eq_bind, Option.bind_eq_some_iff, Prod.exists, Option.pure_def,
    Option.some.injEq, Prod.mk.injEq, readChar_eq_some_iff] at h
  obtain ⟨_, rfl, groups, rest₁, hgroups, _, hbracket, rfl, rfl⟩ := h
  obtain ⟨text, hall, rfl⟩ := spellsAll_of_readAllGroups hgroups
  have hread : readZone rest₁ = ((readZone rest₁).1, (readZone rest₁).2) := rfl
  obtain ⟨zoneText, hzone, hrest⟩ := spellsZone_of_readZone hread
  refine ⟨_, .v6 hall hzone, ?_⟩
  rw [hrest, hbracket]
  simp

/-- What ends the groups in brackets. -/
theorem SpellsZone.ends (h : SpellsZone zone text) (rest : List Char) :
    Ends (text ++ ']' :: rest) := by
  cases h with
  | none => exact .bracket rest
  | digits => exact .zone _

theorem readV6_append (h : SpellsAll groups text) {zoneText : List Char}
    (hzone : SpellsZone zone zoneText) (rest : List Char) :
    readV6 ('[' :: (text ++ (zoneText ++ [']'])) ++ rest) = some (.v6 groups zone, rest) := by
  have hgroups := h.readAllGroups_append (hzone.ends rest)
  simp [readV6, readChar, hgroups, hzone.readZone_append]

/-! ## What is no host -/

/-- The characters of octets. -/
theorem isDigit_or_dot_of_mem (h : c ∈ (octetsText o).toList) : c.isDigit = true ∨ c = '.' := by
  obtain ⟨i, j, k, l, rfl⟩ := exists_octets o
  rw [toList_octetsText] at h
  simp only [List.mem_append, List.mem_cons] at h
  rcases h with h | h | h | h | h | h | h
  · exact .inl (isDigit_of_mem_toDigits h)
  · exact .inr h
  · exact .inl (isDigit_of_mem_toDigits h)
  · exact .inr h
  · exact .inl (isDigit_of_mem_toDigits h)
  · exact .inr h
  · exact .inl (isDigit_of_mem_toDigits h)

/-- The characters of groups in a row. -/
theorem SpellsGroups.mem (h : SpellsGroups octets gs text) :
    ∀ c ∈ text, goesOn c = true ∨ c = ':' := by
  have hgroup {g : UInt16} {text : List Char} (h : SpellsGroup g text) (c : Char) (hc : c ∈ text) :
      goesOn c = true := by
    simp [goesOn, h.digits c hc]
  induction h with
  | octets i j k l =>
    intro c hc
    rcases isDigit_or_dot_of_mem hc with hdigit | rfl
    · simp [goesOn, isHexDigit_of_isDigit hdigit]
    · exact .inl rfl
  | last h => exact fun c hc => .inl (hgroup h c hc)
  | cons h hs ih =>
    intro c hc
    rw [List.mem_append, List.mem_cons] at hc
    rcases hc with hc | rfl | hc
    · exact .inl (hgroup h c hc)
    · exact .inr rfl
    · exact ih c hc

/-- Octets alone are two groups. -/
theorem SpellsGroups.colon_mem (h : SpellsGroups octets gs text) (hlength : 2 < gs.length) :
    ':' ∈ text := by
  cases h with
  | octets => exact absurd hlength (by simp)
  | last h => exact absurd hlength (by simp)
  | cons h hs => simp

theorem SpellsSide.mem (h : SpellsSide octets gs text) :
    ∀ c ∈ text, goesOn c = true ∨ c = ':' := by
  rcases h with ⟨-, -, rfl⟩ | hs
  · rintro c ⟨⟩
  · exact hs.mem

/-- Eight groups have no bracket among them. -/
theorem SpellsAll.bracket_notMem (h : SpellsAll groups text) : '[' ∉ text := by
  intro hmem
  have hchar : goesOn '[' = true ∨ '[' = ':' := by
    cases h with
    | whole h => exact h.mem _ hmem
    | gap hhead htail =>
      rw [List.mem_append, List.mem_cons, List.mem_cons] at hmem
      rcases hmem with hmem | hmem | hmem | hmem
      · exact hhead.mem _ hmem
      · exact .inr hmem
      · exact .inr hmem
      · exact htail.mem _ hmem
  exact absurd hchar (by decide)

/-- But they have a colon. -/
theorem SpellsAll.colon_mem (h : SpellsAll groups text) : ':' ∈ text := by
  cases h with
  | whole h => exact h.colon_mem (by simp)
  | gap => simp

/-- A host is digits and dots, or it is in brackets. -/
theorem Spells.shape (h : host.Spells text) :
    (∀ c ∈ text, c.isDigit = true ∨ c = '.') ∨ text.head? = some '[' := by
  cases h with
  | v4 o => exact .inl fun c hc => isDigit_or_dot_of_mem hc
  | v6 => exact .inr rfl

/-- **A name is no host**: it has a character that is no digit and no dot,
and is not in brackets. -/
theorem not_spells_of_mem (hmem : c ∈ text) (hdigit : c.isDigit = false) (hdot : c ≠ '.')
    (hbracket : text.head? ≠ some '[') (host : Host) : ¬ host.Spells text := by
  intro hspells
  rcases hspells.shape with hall | hhead
  · rcases hall c hmem with hc | hc
    · exact absurd (hc.symm.trans hdigit) (by decide)
    · exact hdot hc
  · exact hbracket hhead

/-- **Groups without brackets are no host.** -/
theorem SpellsAll.not_spells (h : SpellsAll groups text) (host : Host) : ¬ host.Spells text :=
  not_spells_of_mem h.colon_mem rfl (by decide)
    (fun hhead => h.bracket_notMem (List.mem_of_mem_head? hhead)) host

end Host

end SignOn
