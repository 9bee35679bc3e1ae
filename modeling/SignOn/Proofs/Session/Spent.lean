import SignOn.Proofs.Service.Runs
/-!
# A session that was ended stays ended

Along a run whose clock does not go back and whose identifiers are all
different: no token is used for a second session, an account has at most
one live session, and a session that was ended by its token is not live
again. So no token ends a session twice.
-/

namespace SignOn

/-- Whoever has an identifier has drawn it. -/
theorem exists_of_drew {i : Nat} {l : List Transition} {id : String}
    (h : Drew (stepsOf i l) id) : ∃ t ∈ l, t.program = i ∧ t.identifier? = some id := by
  obtain ⟨t, ht, hi, hstep⟩ := mem_stepsOf.1 h
  exact ⟨t, ht, hi, Transition.identifier?_of_step hstep⟩

/-- A step that asks to open a session with a token. -/
def Transition.Offers (t : Transition) (v : String) : Prop :=
  ∃ ctx u ttl, t.effect = .query ctx (.openSession u v ttl)

theorem Transition.Answers.offers {t : Transition} {u ttl id : Int} {v : String}
    (h : t.Answers (.openSession u v ttl) id) : t.Offers v := by
  obtain ⟨ctx, hstep⟩ := h
  exact ⟨ctx, u, ttl, congrArg Step.effect hstep⟩

namespace Service

variable {s : Service} {w : World} {requests : List Request} {l : List Transition}
variable {q : Pool (Except (Failure ServiceError) Answer)} {t : Turn} {tr : Transition}

/-- **No token is offered twice.** The token says which identifier was
drawn for it, and only the program that drew it has it; and that program
opens one session at most. -/
theorem InConduct.not_offered (h : s.InConduct requests l q) (hfresh : (identifiers l).Nodup)
    (htr : q.transition? t = some tr) {v : String} (hoffers : tr.Offers v) :
    ∀ t' ∈ l, ¬ t'.Offers v := by
  rintro t' ht' ⟨ctx', u', ttl', heffect'⟩
  obtain ⟨ctx, u, ttl, heffect⟩ := hoffers
  obtain ⟨request, -, hpermits⟩ := h.request htr
  obtain ⟨-, access, jti, hdrew, ⟨iat, hsigns⟩, -⟩ := hpermits.opens ctx u v ttl heffect
  obtain ⟨access', jti', hdrew', ⟨iat', hsigns'⟩, -⟩ := h.opens t' ht' ctx' u' v ttl' heffect'
  -- one identifier, one draw, one program
  obtain rfl : jti = jti' := congrArg Claims.jti (hsigns.unique hsigns')
  obtain ⟨x, hx, hprogram, hid⟩ := exists_of_drew hdrew
  obtain ⟨x', hx', hprogram', hid'⟩ := exists_of_drew hdrew'
  obtain rfl := eq_of_identifier?_eq hfresh hx hx' hid hid'
  have hmem : t'.step ∈ stepsOf tr.program l :=
    mem_stepsOf.2 ⟨t', ht', hprogram'.symm.trans hprogram, rfl⟩
  exact hpermits.unopened _ hmem ⟨ctx', u', v, ttl', heffect'⟩

/-- What the sessions of a store are like after the steps of a trace. -/
structure Settled (l : List Transition) (store : Store) : Prop where
  oneLive : ∀ now, (∀ t ∈ l, t.time ≤ now) → store.OneLive now
  offered : ∀ t ∈ l, ∀ v, t.Answers (.endSession v) () → ∃ t' ∈ l, t'.Offers v
  spent : ∀ t ∈ l, ∀ v, t.Answers (.endSession v) () → ∀ now, (∀ t ∈ l, t.time ≤ now) →
    ∀ r ∈ store.sessions, r.value = v → r.ttl ≤ now
  once : ∀ t ∈ l, ∀ t' ∈ l, ∀ v, t.Answers (.endSession v) () → t'.Answers (.endSession v) () →
    t.program = t'.program

theorem settled_start (hw : w.store = .empty) : Settled [] w.store where
  oneLive now _ := Store.oneLive_of_nil (by rw [hw]; rfl)
  offered := by simp
  spent := by simp
  once := by simp

/-- The live session that a token is about to end. -/
theorem exists_of_answers_endSession {v : String} (h : tr.Answers (.endSession v) ()) :
    ∃ r ∈ tr.before.store.sessions, r.value = v ∧ tr.time < r.ttl :=
  (Store.endSession_eq_ok_iff.1
    (Store.changed_eq_ok_iff.1 (Transition.run_of_answers h))).1

/-- Whoever ends a session by its token ends one that was opened. -/
theorem Ledger.exists_offers (h : s.Ledger l tr.before.store) {v : String}
    (hends : tr.Answers (.endSession v) ()) : ∃ t ∈ l, t.Offers v := by
  obtain ⟨r, hr, rfl, -⟩ := exists_of_answers_endSession hends
  obtain ⟨-, t, ht, exp, id, -, hopens, -⟩ := h.rows r hr
  exact ⟨t, ht, hopens.offers⟩

/-- **No step ends what was ended before**: the session is not live any
more. -/
theorem Settled.not_ends_again (h : Settled l tr.before.store) (htime : ∀ t ∈ l, t.time ≤ tr.time)
    {t : Transition} (ht : t ∈ l) {v : String} (hends : t.Answers (.endSession v) ()) :
    ¬ tr.Answers (.endSession v) () := by
  intro hagain
  obtain ⟨r, hr, hv, hlive⟩ := exists_of_answers_endSession hagain
  have := h.spent t ht v hends tr.time htime r hr hv
  omega

/-- What was ended before stays ended: only a session with another token
is opened. -/
theorem Settled.spent_of_mem (h : Settled l q.world.store) (hconduct : s.InConduct requests l q)
    (hfresh : (identifiers l).Nodup) (htr : q.transition? t = some tr) {t' : Transition}
    (ht' : t' ∈ l) {v : String} (hends : t'.Answers (.endSession v) ()) {now : Int}
    (hnow : ∀ t ∈ l, t.time ≤ now) (hle : tr.time ≤ now) :
    ∀ r ∈ tr.after.store.sessions, r.value = v → r.ttl ≤ now := by
  intro r hr hv
  obtain ⟨-, -, hbefore, -⟩ := Pool.advance_of_transition? htr
  rw [← hbefore] at h
  rcases tr.store_cases with ⟨hsame, -⟩ | ⟨query, x, hanswers, hrun⟩
  · exact h.spent t' ht' v hends now hnow r (hsame ▸ hr) hv
  · rcases Store.mem_sessions_of_run hrun hr with hr | ⟨r, -, -, -, rfl⟩ | hq
    · exact h.spent t' ht' v hends now hnow r hr hv
    · show tr.time - 1 ≤ now
      omega
    · -- a new row has a token that was never offered, and this one was
      subst hq
      obtain ⟨t₀, ht₀, hoffers⟩ := h.offered t' ht' v hends
      exact absurd hoffers (hconduct.not_offered hfresh htr (hv ▸ hanswers.offers) t₀ ht₀)

/-- The step that ends a session leaves it ended. -/
theorem ttl_le_of_ends {v : String} (hends : tr.Answers (.endSession v) ()) :
    ∀ r ∈ tr.after.store.sessions, r.value = v → r.ttl ≤ tr.time := by
  intro r hr hv
  obtain ⟨-, hafter⟩ := Store.endSession_eq_ok_iff.1
    (Store.changed_eq_ok_iff.1 (Transition.run_of_answers hends))
  rw [hafter] at hr
  rcases Store.mem_endSessions.1 hr with ⟨-, hlive⟩ | ⟨r, -, -, -, rfl⟩
  · have hended : ¬ tr.time < r.ttl := fun hlt => hlive ⟨beq_iff_eq.2 hv, hlt⟩
    omega
  · show tr.time - 1 ≤ tr.time
    omega

/-- **A step keeps what is settled.** -/
theorem Settled.step (h : Settled l q.world.store) (hconduct : s.InConduct requests l q)
    (hledger : s.Ledger l q.world.store) (horderly : Orderly (l ++ [tr]))
    (htr : q.transition? t = some tr) : Settled (l ++ [tr]) tr.after.store := by
  obtain ⟨-, -, hbefore, -⟩ := Pool.advance_of_transition? htr
  have h' : Settled l tr.before.store := by rwa [hbefore]
  have hledger' : s.Ledger l tr.before.store := by rwa [hbefore]
  have htime := horderly.time_le
  -- nothing in the trace is later than a moment that the whole of it is not later than
  have hle {now : Int} (hnow : ∀ t ∈ l ++ [tr], t.time ≤ now) :
      (∀ t ∈ l, t.time ≤ now) ∧ tr.time ≤ now :=
    ⟨fun t ht => hnow t (List.mem_append_left _ ht), hnow tr (by simp)⟩
  refine ⟨fun now hnow => ?_, fun t' ht' v hends => ?_, fun t' ht' v hends now hnow => ?_,
    fun t₁ ht₁ t₂ ht₂ v hends₁ hends₂ => ?_⟩
  · rcases tr.store_cases with ⟨hsame, -⟩ | ⟨query, x, -, hrun⟩
    · rw [hsame]
      exact h'.oneLive now (hle hnow).1
    · exact ((h'.oneLive tr.time htime).run hledger'.sessions hrun).mono (hle hnow).2
  · rcases List.mem_append.1 ht' with ht' | ht'
    · obtain ⟨t₀, ht₀, hoffers⟩ := h'.offered t' ht' v hends
      exact ⟨t₀, List.mem_append_left _ ht₀, hoffers⟩
    · rw [List.mem_singleton.1 ht'] at hends
      obtain ⟨t₀, ht₀, hoffers⟩ := hledger'.exists_offers hends
      exact ⟨t₀, List.mem_append_left _ ht₀, hoffers⟩
  · rcases List.mem_append.1 ht' with ht' | ht'
    · exact h.spent_of_mem hconduct horderly.of_append.fresh htr ht' hends (hle hnow).1 (hle hnow).2
    · rw [List.mem_singleton.1 ht'] at hends
      exact fun r hr hv => Int.le_trans (ttl_le_of_ends hends r hr hv) (hle hnow).2
  · -- of two steps that end one session neither comes before the other
    rcases List.mem_append.1 ht₁ with ht₁ | ht₁ <;> rcases List.mem_append.1 ht₂ with ht₂ | ht₂
    · exact h'.once t₁ ht₁ t₂ ht₂ v hends₁ hends₂
    · rw [List.mem_singleton.1 ht₂] at hends₂
      exact absurd hends₂ (h'.not_ends_again htime ht₁ hends₁)
    · rw [List.mem_singleton.1 ht₁] at hends₁
      exact absurd hends₁ (h'.not_ends_again htime ht₂ hends₂)
    · rw [List.mem_singleton.1 ht₁, List.mem_singleton.1 ht₂]

/-! ## Along a run -/

/-- All that is kept along a run. -/
structure Sound (s : Service) (requests : List Request) (l : List Transition)
    (q : Pool (Except (Failure ServiceError) Answer)) : Prop where
  conduct : s.InConduct requests l q
  ledger : s.Ledger l q.world.store
  settled : Orderly l → Settled l q.world.store

theorem sound_start (s : Service) (hw : w.store = .empty) (requests : List Request) :
    s.Sound requests [] (s.start w requests) :=
  ⟨s.inConduct_start w requests, s.ledger_start hw, fun _ => settled_start hw⟩

theorem Sound.step (h : s.Sound requests l q) (htr : q.transition? t = some tr) :
    s.Sound requests (l ++ [tr]) (q.advance t) := by
  obtain ⟨-, -, -, next, -, hadvance⟩ := Pool.advance_of_transition? htr
  refine ⟨h.conduct.step htr, ?_, fun horderly => ?_⟩
  · rw [hadvance]
    exact h.ledger.step h.conduct htr
  · rw [hadvance]
    exact (h.settled horderly.of_append).step h.conduct h.ledger horderly htr

/-- **Every run is sound.** -/
theorem sound_run (s : Service) (hw : w.store = .empty) (requests : List Request)
    (turns : List Turn) : s.Sound requests ((s.start w requests).trace turns)
      ((s.start w requests).run turns) :=
  Pool.run_induction (s.sound_start hw requests) (fun _ _ _ _ h htr => h.step htr) turns

/-- **A token that was offered is not offered later.** -/
theorem not_offered_later (hw : w.store = .empty) {turns : List Turn} {l₁ l₂ : List Transition}
    (hfresh : (identifiers ((s.start w requests).trace turns)).Nodup)
    (htrace : (s.start w requests).trace turns = l₁ ++ l₂) (htr : tr ∈ l₁) {v : String}
    (hoffers : tr.Offers v) : ∀ t' ∈ l₂, ¬ t'.Offers v := by
  intro t' ht' hoffers'
  obtain ⟨k₁, k₂, rfl⟩ := List.append_of_mem ht'
  rw [← List.append_assoc] at htrace
  rw [htrace, identifiers_append] at hfresh
  obtain ⟨turns₁, turn, -, hearlier, htr'⟩ := Pool.exists_turn_of_trace_eq htrace
  have hconduct := (s.sound_run hw requests turns₁).conduct
  rw [hearlier] at hconduct
  exact hconduct.not_offered (List.nodup_append.1 hfresh).1 htr' hoffers' tr
    (List.mem_append_left _ htr) hoffers

/-- Whoever has redeemed a refresh token has ended its session. -/
theorem InConduct.ended_of_refreshed (h : s.InConduct requests l q) {i : Nat} {ctx : RequestContext}
    {token : String} {p : Answer} (hrequest : requests[i]? = some ⟨ctx, .refresh token⟩)
    (hdone : q.programs[i]? = some (.done (.ok p))) :
    ∃ v, Wrapped.decodeString token = .ok v ∧
      ∃ t ∈ l, t.program = i ∧ t.Answers (.endSession v) () := by
  obtain ⟨prog, hprog, hmeets⟩ := h.meets i _ hrequest
  obtain rfl := Option.some.inj (hprog.symm.trans hdone)
  obtain ⟨-, -, h₀, ctx', u, v, ttl, id, heq, -, ⟨-, r, hr, -, hends⟩, -⟩ := hmeets
  refine ⟨r.value, hr, got_stepsOf.1 ?_⟩
  rw [heq]
  exact hends.mono fun x => List.mem_append_left _

end Service

end SignOn
