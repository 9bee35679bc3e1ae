import SignOn.Proofs.Store.Sessions
/-!
# The rows of others

What a query writes it writes in the rows of one account:
`Store.SameBut` says of two stores that the rows of all other accounts
are the same, in the same order. For most queries the account is named;
a session is ended by its token, and whose it is follows from the tokens
being different.
-/

namespace SignOn

namespace Store

variable {s s' s'' : Store} {now u ttl id : Int} {v : String} {r : Session}

/-- Two stores with the same rows, but for those of one account. -/
structure SameBut (u : Int) (s s' : Store) : Prop where
  accounts : s'.accounts.filter (fun a => a.id ≠ u) = s.accounts.filter fun a => a.id ≠ u
  sessions : s'.sessions.filter (fun r => r.accountId ≠ u) =
    s.sessions.filter fun r => r.accountId ≠ u

theorem SameBut.refl (u : Int) (s : Store) : s.SameBut u s :=
  ⟨rfl, rfl⟩

theorem SameBut.trans (h : s.SameBut u s') (h' : s'.SameBut u s'') : s.SameBut u s'' :=
  ⟨h'.accounts.trans h.accounts, h'.sessions.trans h.sessions⟩

/-- A change of some entries is not seen where those are left out. -/
theorem filter_map_eq_filter {α : Type} {p : α → Bool} {f : α → α} {l : List α}
    (hkeep : ∀ x ∈ l, p x = true → f x = x) (hleft : ∀ x ∈ l, p x = false → p (f x) = false) :
    (l.map f).filter p = l.filter p := by
  induction l with
  | nil => rfl
  | cons x l ih =>
    have htail := ih (fun y hy => hkeep y (List.mem_cons_of_mem x hy))
      fun y hy => hleft y (List.mem_cons_of_mem x hy)
    rw [List.map_cons]
    cases hx : p x with
    | true =>
      have hfx := hkeep x List.mem_cons_self hx
      rw [hfx, List.filter_cons_of_pos hx, List.filter_cons_of_pos hx, htail]
    | false =>
      have hfx := hleft x List.mem_cons_self hx
      rw [List.filter_cons_of_neg (by simp [hfx]), List.filter_cons_of_neg (by simp [hx]), htail]

/-! ## Accounts -/

/-- Whoever changes one account changes no other. -/
theorem sameBut_of_changeAccount {f : Account → Account} (hf : ∀ a : Account, (f a).id = a.id)
    (h : s.changeAccount now u f = .ok s') : s.SameBut u s' := by
  unfold changeAccount at h
  split at h
  · cases h
    refine ⟨filter_map_eq_filter (fun a _ ha => if_neg (of_decide_eq_true ha)) ?_, rfl⟩
    intro a _ ha
    have ha : a.id = u := by simpa using ha
    rw [if_pos ha]
    simp [hf, ha]
  · cases h

theorem sameBut_of_updateProfile {patch : ProfilePatch} (h : s.updateProfile now u patch = .ok s') :
    s.SameBut u s' := by
  refine sameBut_of_changeAccount ?_ h
  exact fun a => rfl

theorem sameBut_of_setPassword {hash : String} (h : s.setPassword now u hash = .ok s') :
    s.SameBut u s' := by
  refine sameBut_of_changeAccount ?_ h
  exact fun a => rfl

theorem sameBut_of_confirmEmail (h : s.confirmEmail now u = .ok s') : s.SameBut u s' := by
  unfold confirmEmail at h
  split at h
  · cases h
  · split at h
    · cases h
    · refine sameBut_of_changeAccount ?_ h
      exact fun a => rfl

/-- An account that is added is the next one. -/
theorem sameBut_of_insertAccount {new : NewAccount} (h : s.insertAccount now new = .ok (id, s')) :
    id = s.lastAccountId + 1 ∧ s.SameBut id s' := by
  unfold insertAccount at h
  split at h
  · cases h
  · cases h
    refine ⟨rfl, ?_, rfl⟩
    simp

/-- It has an address that no account had. -/
theorem accountWithEmail?_of_insertAccount {new : NewAccount}
    (h : s.insertAccount now new = .ok (id, s')) : s.accountWithEmail? new.email = none := by
  unfold insertAccount at h
  split at h
  · cases h
  · next hfree =>
    rw [accountWithEmail?, List.find?_eq_none]
    simpa using hfree

/-! ## Sessions -/

/-- Whoever ends sessions of one account ends no other's. -/
theorem sameBut_endSessions {p : Session → Bool}
    (hp : ∀ r ∈ s.sessions, p r = true → r.accountId = u) : s.SameBut u (s.endSessions now p) := by
  refine ⟨rfl, filter_map_eq_filter (fun r hr hu => ?_) fun r _ hu => ?_⟩
  · have hne : ¬ (p r && r.isLive now) = true := by
      intro hend
      rw [Bool.and_eq_true] at hend
      exact of_decide_eq_true hu (hp r hr hend.1)
    exact if_neg hne
  · -- the account of a session that is ended stays
    split <;> exact hu

theorem sameBut_of_openSession (h : s.openSession now u v ttl = .ok (id, s')) :
    s.SameBut u s' := by
  obtain ⟨-, -, -, rfl⟩ := openSession_eq_ok_iff.1 h
  have hended : s.SameBut u (s.endSessions now fun r => r.accountId == u) :=
    sameBut_endSessions fun r _ hr => beq_iff_eq.1 hr
  refine ⟨rfl, ?_⟩
  show ((s.endSessions now fun r => r.accountId == u).sessions ++ [_]).filter _ = _
  rw [List.filter_append, hended.sessions]
  simp

/-- The store with one session ended. -/
def withEnded (s : Store) (r : Session) (now : Int) : Store :=
  { s with sessions := s.sessions.map fun x => if x = r then r.endedAt now else x }

/-- **A token ends one session**, since no other has it. -/
theorem SessionsInOrder.endSessions_eq (h : s.SessionsInOrder) (hr : r ∈ s.sessions)
    (hlive : now < r.ttl) :
    s.endSessions now (fun x => x.value == r.value) = s.withEnded r now := by
  have hsessions : (s.endSessions now fun x => x.value == r.value).sessions =
      (s.withEnded r now).sessions := by
    refine List.map_congr_left fun x hx => ?_
    by_cases hxr : x = r
    · subst hxr
      rw [if_pos rfl, if_pos]
      rw [Bool.and_eq_true, Session.isLive_iff]
      exact ⟨beq_self_eq_true _, hlive⟩
    · rw [if_neg hxr, if_neg]
      intro hend
      rw [Bool.and_eq_true, beq_iff_eq] at hend
      exact hxr (h.eq_of_value_eq hx hr hend.1)
  exact congrArg (fun sessions => { s with sessions := sessions }) hsessions

/-- What is left when a session was ended by its token. -/
theorem SessionsInOrder.eq_withEnded (h : s.SessionsInOrder) (hr : r ∈ s.sessions)
    (hends : s.endSession now r.value = .ok s') : now < r.ttl ∧ s' = s.withEnded r now := by
  obtain ⟨⟨r', hr', hvalue, hlive⟩, rfl⟩ := endSession_eq_ok_iff.1 hends
  obtain rfl := h.eq_of_value_eq hr' hr hvalue
  exact ⟨hlive, h.endSessions_eq hr hlive⟩

/-- The rows of other accounts than its own stay as they are. -/
theorem sameBut_withEnded (s : Store) (r : Session) (now : Int) :
    s.SameBut r.accountId (s.withEnded r now) := by
  refine ⟨rfl, filter_map_eq_filter (fun x _ hx => if_neg ?_) fun x _ hx => ?_⟩
  · rintro rfl
    simp at hx
  · by_cases hxr : x = r
    · rw [if_pos hxr]
      show decide (r.accountId ≠ r.accountId) = false
      simp
    · rwa [if_neg hxr]

end Store

end SignOn
