import Mathlib.Algebra.Group.Nat.Defs
import SignOn.Proofs.Service.Leads
import SignOn.Proofs.Service.Reach
/-!
# Who is registered

The accounts of a world that is reached are those that were opened on the
way, each with the number and the address that it was given:
`Service.Reaches.registered_iff`. The numbers go up one by one, so that as
long as there are fewer than 2⁶³ accounts all of them fit the signed
range.
-/

namespace SignOn

variable {w w' : World} {l : List Transition} {id : Int} {email : String}

/-- One of the steps has opened an account for an address, under a
number. -/
def Registered (l : List Transition) (email : String) (id : Int) : Prop :=
  ∃ t ∈ l, ∃ new, new.email = email ∧ t.Answers (.insertAccount new) id

/-! ## Numbers without gaps -/

/-- All numbers up to the last one were given to an account that is
there. -/
def Store.Gapless (s : Store) : Prop :=
  s.lastAccountId = s.accounts.length

/-- An account comes with the next number, and none goes. -/
theorem Store.Gapless.run {s s' : Store} {now : Int} {q : Query} {x : q.Answer} (h : s.Gapless)
    (hrun : s.run now q = .ok (x, s')) : s'.Gapless := by
  rcases Store.accounts_of_run hrun with ⟨⟨f, -, heq⟩, hlast⟩ | ⟨new, -, heq, hlast⟩
  · rw [Gapless, hlast, heq, List.length_map]
    exact h
  · rw [Gapless, hlast, heq, List.length_append, h]
    rfl

theorem Leads.gapless (h : Leads w l w') (hw : w.store.Gapless) : w'.store.Gapless := by
  refine h.keeps (I := fun v => v.store.Gapless) hw fun t _ hv => ?_
  rcases t.store_cases with ⟨hsame, -⟩ | ⟨q, x, -, hrun⟩
  · rwa [hsame]
  · exact hv.run hrun

namespace Service

variable {s : Service}

theorem Reaches.gapless (h : s.Reaches l w) : w.store.Gapless := by
  obtain ⟨w₀, requests, turns, hw₀, rfl, rfl⟩ := h
  refine (Pool.leads_trace (s.start w₀ requests) turns).gapless ?_
  rw [start, hw₀]
  rfl

/-- **The numbers of accounts are positive and fit the signed range**, as
long as there are fewer accounts than it has numbers. -/
theorem Reaches.id_lt (h : s.Reaches l w) (hfew : w.store.accounts.length < 2 ^ 63) {a : Account}
    (ha : a ∈ w.store.accounts) : 0 < a.id ∧ a.id < 0x8000000000000000 := by
  have hlast : w.store.lastAccountId = w.store.accounts.length := h.gapless
  have hle := h.accounts.le_last a ha
  exact ⟨h.accounts.positive a ha, by omega⟩

/-! ## The accounts that were opened -/

/-- **The accounts are those that were opened**, with the number and the
address that they were opened with. -/
theorem Reaches.registered_iff (h : s.Reaches l w) :
    Registered l email id ↔ ∃ a ∈ w.store.accounts, a.id = id ∧ a.email = email := by
  obtain ⟨w₀, requests, turns, hw₀, rfl, rfl⟩ := h
  have hleads := Pool.leads_trace (s.start w₀ requests) turns
  constructor
  · rintro ⟨t, ht, new, rfl, hanswers⟩
    obtain ⟨l₁, l₂, -, -, hafter⟩ := hleads.split_of_mem ht
    obtain ⟨-, hid, hopened⟩ :=
      Store.insertAccount_eq_ok_iff.1 (Transition.run_of_answers hanswers)
    have ha : t.before.store.opened t.time new ∈ t.after.store.accounts := by
      rw [hopened]
      exact List.mem_append_right _ (List.mem_singleton_self _)
    obtain ⟨a, ha, hremains⟩ := hafter.accountsRemain _ ha
    exact ⟨a, ha, hremains.id.trans hid.symm, hremains.email⟩
  · rintro ⟨a, ha, rfl, rfl⟩
    rcases hleads.exists_opening ha with ⟨b, hb, -⟩ | ⟨t, ht, new, hemail, hanswers⟩
    · have hnone : (s.start w₀ requests).world.store.accounts = [] := by
        rw [start, hw₀]
        rfl
      rw [hnone] at hb
      cases hb
    · exact ⟨t, ht, new, hemail, hanswers⟩

/-- A number that was given to no account is looked up in vain. -/
theorem Reaches.account?_eq_none (h : s.Reaches l w) (hnone : ∀ email, ¬ Registered l email id) :
    w.store.account? id = none := by
  rw [← Option.isNone_iff_eq_none, Store.account?_isNone_iff]
  exact fun a ha hid => hnone a.email (h.registered_iff.2 ⟨a, ha, hid, rfl⟩)

/-- So is an address that no account was opened for. -/
theorem Reaches.accountWithEmail?_eq_none (h : s.Reaches l w)
    (hnone : ∀ id, ¬ Registered l email id) : w.store.accountWithEmail? email = none := by
  simp only [Store.accountWithEmail?, List.find?_eq_none, beq_iff_eq]
  exact fun a ha hemail => hnone a.id (h.registered_iff.2 ⟨a, ha, rfl, hemail⟩)

end Service

end SignOn
