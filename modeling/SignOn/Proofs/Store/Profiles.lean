import Mathlib.Data.List.Induction
import SignOn.Proofs.Store.Revisions
/-!
# Changes of a profile

A patch changes the fields that it has. Of several patches one after
another each field keeps the last value that one of them has for it, so
that they come to one patch, `ProfilePatch.combined`, applied at the time
of the last (`Store.updateInTurn_concat`). What one patch does to the rows
is said field by field in `Account.Patched`.
-/

namespace SignOn

namespace ProfilePatch

variable {p q : ProfilePatch} {ps : List ProfilePatch} {a : Account}
  {now now' : Int}

/-- For each field, the last value that one of several patches has. -/
def combined (ps : List ProfilePatch) : ProfilePatch where
  displayName := (ps.filterMap displayName).getLast?
  phone := (ps.filterMap phone).getLast?
  telegram := (ps.filterMap telegram).getLast?
  avatar := (ps.filterMap avatar).getLast?

/-- The patch that has the fields of a newer one, and of an older one where
the newer one has none. -/
def onto (p q : ProfilePatch) : ProfilePatch where
  displayName := p.displayName.or q.displayName
  phone := p.phone.or q.phone
  telegram := p.telegram.or q.telegram
  avatar := p.avatar.or q.avatar

theorem combined_concat : combined (ps ++ [p]) = p.onto (combined ps) := by
  have hlast (field : ProfilePatch → Option String) :
      ((ps ++ [p]).filterMap field).getLast? = (field p).or (ps.filterMap field).getLast? := by
    rw [List.filterMap_append]
    cases hfield : field p <;> simp [hfield]
  simp only [combined, onto, hlast]

theorem combined_singleton : combined [p] = p := by
  have hlast (field : ProfilePatch → Option String) :
      ([p].filterMap field).getLast? = field p := by
    cases hfield : field p <;> simp [hfield]
  simp only [combined, hlast]

/-- What becomes of an account that is changed at a time. -/
def applyAt (p : ProfilePatch) (now : Int) (a : Account) : Account :=
  { p.apply a with updatedAt := now }

/-- **To apply the older and then the newer patch is to apply both**, at
the time of the newer. -/
theorem applyAt_onto :
    (p.onto q).applyAt now' a = p.applyAt now' (q.applyAt now a) := by
  simp only [applyAt, apply, onto]
  cases p.displayName <;> cases p.phone <;> cases p.telegram <;> cases p.avatar <;> simp

end ProfilePatch

/-! ## One row -/

/-- What a patch makes of an account: the fields that it has, and the date
of the change. All else is as it was. -/
structure Account.Patched (now : Int) (patch : ProfilePatch) (a b : Account) : Prop where
  displayName : b.displayName = patch.displayName.getD a.displayName
  phone : b.phone = patch.phone.or a.phone
  telegram : b.telegram = patch.telegram.or a.telegram
  avatar : b.avatar = patch.avatar.or a.avatar
  updatedAt : b.updatedAt = now
  id : b.id = a.id
  email : b.email = a.email
  passwordHash : b.passwordHash = a.passwordHash
  emailConfirmed : b.emailConfirmed = a.emailConfirmed
  phoneConfirmed : b.phoneConfirmed = a.phoneConfirmed
  telegramConfirmed : b.telegramConfirmed = a.telegramConfirmed
  createdAt : b.createdAt = a.createdAt

theorem ProfilePatch.patched_applyAt (p : ProfilePatch) (now : Int) (a : Account) :
    a.Patched now p (p.applyAt now a) where
  displayName := rfl
  phone := by cases h : p.phone <;> simp [applyAt, apply, h]
  telegram := by cases h : p.telegram <;> simp [applyAt, apply, h]
  avatar := by cases h : p.avatar <;> simp [applyAt, apply, h]
  updatedAt := rfl
  id := rfl
  email := rfl
  passwordHash := rfl
  emailConfirmed := rfl
  phoneConfirmed := rfl
  telegramConfirmed := rfl
  createdAt := rfl

/-- A patch without fields only dates the account. -/
theorem Account.Patched.eq_of_isEmpty {now : Int} {p : ProfilePatch} {a b : Account}
    (h : a.Patched now p b) (hp : p.isEmpty = true) : b = { a with updatedAt := now } := by
  obtain ⟨displayName, phone, telegram, avatar⟩ := p
  simp only [ProfilePatch.isEmpty, Bool.and_eq_true, Option.isNone_iff_eq_none] at hp
  obtain ⟨⟨⟨rfl, rfl⟩, rfl⟩, rfl⟩ := hp
  obtain ⟨⟩ := b
  obtain ⟨⟩ := a
  obtain ⟨rfl, rfl, rfl, rfl, rfl, rfl, rfl, rfl, rfl, rfl, rfl, rfl⟩ := h
  rfl

/-! ## The tables -/

namespace Store

variable {s s' : Store} {id now now' : Int} {p q patch : ProfilePatch}
  {updates : List (Int × ProfilePatch)}

/-- All that the change of a profile changes: each row of the account is
patched. -/
structure ProfilePatched (id now : Int) (patch : ProfilePatch) (s s' : Store) : Prop where
  rows : List.Forall₂ (fun a b => if a.id = id then a.Patched now patch b else b = a)
    s.accounts s'.accounts
  lastAccountId : s'.lastAccountId = s.lastAccountId
  sessions : s'.sessions = s.sessions
  lastSessionId : s'.lastSessionId = s.lastSessionId

/-- What a change of a profile comes to. -/
theorem updateProfile_eq_ok_iff : s.updateProfile now id patch = .ok s' ↔
    (∃ a ∈ s.accounts, a.id = id) ∧ s' = s.mapAccount id (patch.applyAt now) :=
  changeAccount_eq_ok_iff

/-- It fails if there is no such account. -/
theorem updateProfile_eq_error (ha : ∀ a ∈ s.accounts, a.id ≠ id) (now : Int)
    (patch : ProfilePatch) : s.updateProfile now id patch = .error (.noAccount id) := by
  have hnone := account?_isNone_iff.2 ha
  rw [updateProfile, changeAccount, if_neg (by simp [Option.isNone_iff_eq_none.1 hnone])]

theorem profilePatched_of_updateProfile (h : s.updateProfile now id patch = .ok s') :
    s.ProfilePatched id now patch s' := by
  obtain ⟨-, rfl⟩ := updateProfile_eq_ok_iff.1 h
  refine ⟨List.forall₂_map_right_iff.2 (List.forall₂_same.2 fun a _ => ?_), rfl, rfl, rfl⟩
  by_cases ha : a.id = id
  · rw [if_pos ha, if_pos ha]
    exact patch.patched_applyAt now a
  · rw [if_neg ha, if_neg ha]

/-- Two changes of an account are one change of it. -/
theorem mapAccount_mapAccount {f g : Account → Account} (hf : ∀ a, (f a).id = a.id) :
    (s.mapAccount id f).mapAccount id g = s.mapAccount id fun a => g (f a) := by
  simp only [mapAccount, List.map_map]
  congr 1
  refine List.map_congr_left fun a _ => ?_
  by_cases ha : a.id = id
  · simp [ha, hf]
  · simp [ha]

/-- Two changes of a profile come to one, with the newer patch over the
older. -/
theorem updateProfile_bind : (s.updateProfile now id p >>= fun s' => s'.updateProfile now' id q) =
    s.updateProfile now' id (q.onto p) := by
  by_cases ha : ∃ a ∈ s.accounts, a.id = id
  · rw [updateProfile_eq_ok_iff.2 ⟨ha, rfl⟩, updateProfile_eq_ok_iff.2 ⟨ha, rfl⟩]
    refine updateProfile_eq_ok_iff.2 ⟨?_, ?_⟩
    · obtain ⟨a, hmem, rfl⟩ := ha
      exact ⟨_, List.mem_map_of_mem hmem, by rw [if_pos rfl]; rfl⟩
    · have hid (a : Account) : (p.applyAt now a).id = a.id := rfl
      rw [mapAccount_mapAccount hid]
      simp only [← ProfilePatch.applyAt_onto]
  · have hnone : ∀ a ∈ s.accounts, a.id ≠ id := fun a hmem hid => ha ⟨a, hmem, hid⟩
    rw [updateProfile_eq_error hnone, updateProfile_eq_error hnone]
    rfl

/-- One change of a profile after another, each with its time. -/
def updateInTurn (s : Store) (id : Int) (updates : List (Int × ProfilePatch)) :
    Except StoreError Store :=
  updates.foldlM (fun s update => s.updateProfile update.1 id update.2) s

/-- **Patches one after another come to one patch** at the time of the
last. -/
theorem updateInTurn_concat (s : Store) (id : Int) (updates : List (Int × ProfilePatch))
    (now : Int) (patch : ProfilePatch) :
    s.updateInTurn id (updates ++ [(now, patch)]) =
      s.updateProfile now id (.combined ((updates ++ [(now, patch)]).map Prod.snd)) := by
  have hstep (updates : List (Int × ProfilePatch)) (now : Int) (patch : ProfilePatch) :
      s.updateInTurn id (updates ++ [(now, patch)]) =
        s.updateInTurn id updates >>= fun s' => s'.updateProfile now id patch := by
    simp [updateInTurn]
  induction updates using List.reverseRecOn generalizing now patch with
  | nil =>
    rw [hstep, List.nil_append, List.map_singleton, ProfilePatch.combined_singleton]
    rfl
  | append_singleton updates update ih =>
    obtain ⟨before, older⟩ := update
    rw [hstep, ih, updateProfile_bind]
    simp only [List.map_append, List.map_cons, List.map_nil, ProfilePatch.combined_concat]

end Store

end SignOn
