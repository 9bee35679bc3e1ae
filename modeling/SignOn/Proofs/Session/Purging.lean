import SignOn.Proofs.Session.Admission
import SignOn.Proofs.Session.Purge
import SignOn.Proofs.Session.Spent
/-!
# Purges are invisible

Whether and when sessions are purged makes no difference to anything
else: two runs that differ in their purges only give the same results, and
leave the same accounts, the same events and the same live sessions
(`Service.purging_invisible`).

The proof compares a run with the run of the same turns without those of
purges. The store of the one is the store of the other without the
sessions with certain tokens (`Service.Beside`). None of these is live any
more, and none of the tokens is offered again.
-/

namespace SignOn

/-! ## Worlds with fewer sessions -/

/-- A world is like another one, but without the sessions with certain
tokens. -/
structure World.Thins (gone : List String) (w w₀ : World) : Prop where
  outbox : w.outbox = w₀.outbox
  store : w.store = w₀.store.thin gone

namespace World.Thins

variable {gone gone' : List String} {w w' w₀ : World} {d : Draw} {ctx : RequestContext}

theorem trans (h' : w'.Thins gone' w) (h : w.Thins gone w₀) : w'.Thins (gone ++ gone') w₀ :=
  ⟨h'.outbox.trans h.outbox, by rw [h'.store, h.store, Store.thin_thin]⟩

/-- It answers a query alike. -/
theorem query (h : w.Thins gone w₀) {q : Query} (hspares : (Effect.query ctx q).Spares)
    (hdead : w₀.store.Dead d.moment.seconds gone)
    (hreuse : ∀ u v ttl, q = .openSession u v ttl → v ∉ gone) :
    (w.query d ctx q).1 = (w₀.query d ctx q).1 ∧
      (w.query d ctx q).2.Thins gone (w₀.query d ctx q).2 := by
  have hpurge (before : Int) : q ≠ .purge before := by
    rintro rfl
    cases hspares
  unfold World.query
  rw [h.store, Store.run_thin hdead hpurge hreuse]
  cases d.storeFault with
  | some e => exact ⟨rfl, h⟩
  | none =>
    by_cases hover : ctx.isOver d.moment = true
    · simp only [hover, if_true]
      exact ⟨trivial, h⟩
    · simp only [hover]
      cases w₀.store.run d.moment.seconds q with
      | ok p => exact ⟨rfl, h.outbox, rfl⟩
      | error e => exact ⟨rfl, h⟩

/-- It publishes alike. -/
theorem publish (h : w.Thins gone w₀) (subject : String) (payload : List UInt8) :
    (w.publish d subject payload).1 = (w₀.publish d subject payload).1 ∧
      (w.publish d subject payload).2.Thins gone (w₀.publish d subject payload).2 := by
  unfold World.publish
  rw [h.outbox]
  cases d.publishFault with
  | some e => exact ⟨rfl, h⟩
  | none =>
    cases w₀.outbox.publish subject payload with
    | ok outbox => exact ⟨rfl, rfl, h.store⟩
    | error e => exact ⟨rfl, h⟩

/-- **It answers every step alike** that does not purge, as long as the
sessions that it is without are not live and none of their tokens is used
again. -/
theorem answer (h : w.Thins gone w₀) {e : Effect} (hspares : e.Spares)
    (hdead : w₀.store.Dead d.moment.seconds gone)
    (hreuse : ∀ ctx u v ttl, e = .query ctx (.openSession u v ttl) → v ∉ gone) :
    (w.answer d e).1 = (w₀.answer d e).1 ∧ (w.answer d e).2.Thins gone (w₀.answer d e).2 := by
  cases e with
  | query ctx q =>
    have hnote : (w.note (.query q)).Thins gone (w₀.note (.query q)) := ⟨h.outbox, h.store⟩
    refine hnote.query hspares hdead ?_
    rintro u v ttl rfl
    exact hreuse ctx u v ttl rfl
  | publish ctx subject payload =>
    have hnote : (w.note (.publish subject payload)).Thins gone
        (w₀.note (.publish subject payload)) := ⟨h.outbox, h.store⟩
    exact hnote.publish subject payload
  | _ => exact ⟨rfl, h⟩

end World.Thins

/-- The steps of a purge take away sessions that have ended, or nothing. -/
theorem World.exists_thins (w : World) (hs : w.store.SessionsInOrder) (d : Draw) {e : Effect}
    (he : e.Clears) :
    ∃ gone, (w.answer d e).2.Thins gone w ∧
      ∀ v ∈ gone, ∃ ctx before, e = .query ctx (.purge before) ∧ v ∈ w.store.ended before := by
  have hkept {w' : World} (houtbox : w'.outbox = w.outbox) (hstore : w'.store = w.store) :
      w'.Thins [] w := ⟨houtbox, hstore.trans w.store.thin_nil.symm⟩
  rcases he with rfl | he
  · exact ⟨[], hkept rfl rfl, by simp⟩
  · obtain ⟨ctx, before, rfl⟩ := Effect.isPurge_iff.1 he
    rcases (w.note (.query (.purge before))).query_cases d ctx (.purge before) with
      ⟨e, hquery⟩ | ⟨n, store, hrun, hquery⟩
    · refine ⟨[], ?_, by simp⟩
      show ((w.note _).query d ctx (.purge before)).2.Thins [] w
      rw [hquery]
      exact hkept rfl rfl
    · refine ⟨w.store.ended before, ?_, fun v hv => ⟨ctx, before, rfl, hv⟩⟩
      show ((w.note _).query d ctx (.purge before)).2.Thins _ w
      rw [hquery]
      exact ⟨rfl, (Store.eq_purge_of_run hrun).trans (Store.purge_snd_eq_thin hs before)⟩

/-! ## Runs without purges -/

/-- What a program is asked for, unless it is a purge. -/
def other? (requests : List Request) (i : Nat) : Option Request :=
  requests[i]?.filter fun request => request.operation ≠ .purge

theorem other?_eq_some_iff {requests : List Request} {i : Nat} {request : Request} :
    other? requests i = some request ↔
      requests[i]? = some request ∧ request.operation ≠ .purge := by
  simp [other?, Option.filter_eq_some_iff]

/-- The turns of programs that are not purges. -/
def otherTurns (requests : List Request) (turns : List Turn) : List Turn :=
  turns.filter fun t => (other? requests t.program).isSome

namespace Service

variable {s : Service} {w : World} {requests requests₀ : List Request} {l : List Transition}
variable {q q₀ : Pool (Except (Failure ServiceError) Answer)} {t : Turn} {tr : Transition}
variable {gone : List String}

/-- After the steps `l` a pool is like one in which nothing was purged:
programs that are not purges are where they are there. The store is
without the sessions with certain tokens, which have all been offered, and
which are not live any more. -/
structure Beside (requests : List Request) (l : List Transition)
    (q q₀ : Pool (Except (Failure ServiceError) Answer)) (gone : List String) : Prop where
  programs : ∀ i, (other? requests i).isSome → q.programs[i]? = q₀.programs[i]?
  thins : q.world.Thins gone q₀.world
  dead : ∀ now, (∀ t ∈ l, t.time ≤ now) → q₀.world.store.Dead now gone
  offered : ∀ v ∈ gone, ∃ t ∈ l, t.Offers v

theorem beside_start (s : Service) (w : World)
    (hothers : ∀ i, other? requests i = other? requests₀ i) :
    Beside requests [] (s.start w requests) (s.start w requests₀) [] where
  programs i hi := by
    obtain ⟨request, hother⟩ := Option.isSome_iff_exists.1 hi
    rw [s.start_getElem? w (other?_eq_some_iff.1 hother).1,
      s.start_getElem? w (other?_eq_some_iff.1 ((hothers i).symm.trans hother)).1]
  thins := ⟨rfl, (Store.thin_nil _).symm⟩
  dead := by simp [Store.Dead]
  offered := by simp

/-- **Other programs go on alike.** -/
theorem Beside.step (h : Beside requests l q q₀ gone) (hconduct : s.InConduct requests l q)
    (horderly : Orderly (l ++ [tr])) (hother : (other? requests t.program).isSome)
    (htr : q.transition? t = some tr) (hspares : tr.effect.Spares) :
    Beside requests (l ++ [tr]) (q.advance t) (q₀.advance t) gone := by
  have hdead : q₀.world.store.Dead tr.time gone := h.dead tr.time horderly.time_le
  have hreuse : ∀ ctx u v ttl, tr.effect = .query ctx (.openSession u v ttl) → v ∉ gone := by
    intro ctx u v ttl heffect hv
    obtain ⟨t', ht', hoffers⟩ := h.offered v hv
    exact hconduct.not_offered horderly.of_append.fresh htr ⟨ctx, u, ttl, heffect⟩ t' ht' hoffers
  -- the same program takes the same step, and gets the same reply
  obtain ⟨e, next, hnext, rfl⟩ := Pool.transition?_eq_some_iff.1 htr
  have hnext₀ := (h.programs t.program hother).symm.trans hnext
  obtain ⟨hreply, hthins⟩ := h.thins.answer (d := t.draw) hspares hdead hreuse
  rw [Pool.advance_of_program hnext, Pool.advance_of_program hnext₀]
  refine ⟨fun i hi => ?_, hthins, fun now hnow => ?_, fun v hv => ?_⟩
  · show (q.programs.set _ _)[i]? = (q₀.programs.set _ _)[i]?
    rw [hreply]
    by_cases heq : t.program = i
    · subst heq
      rw [List.getElem?_set_self (List.getElem?_eq_some_iff.1 hnext).1,
        List.getElem?_set_self (List.getElem?_eq_some_iff.1 hnext₀).1]
    · rw [List.getElem?_set_ne heq, List.getElem?_set_ne heq]
      exact h.programs i hi
  · refine Store.Dead.mono ?_ (hnow _ (List.mem_append_right _ (List.mem_singleton_self _)))
    let tr₀ : Transition := ⟨t.program, t.draw, q₀.world, e⟩
    rcases tr₀.store_cases with ⟨hsame, -⟩ | ⟨query, x, ⟨ctx, hstep⟩, hrun⟩
    · exact (congrArg (fun store => Store.Dead store t.draw.moment.seconds gone) hsame).mpr hdead
    · refine Store.Dead.run hdead hrun fun u v ttl hq => hreuse ctx u v ttl ?_
      rw [← hq]
      exact congrArg Step.effect hstep
  · obtain ⟨t', ht', hoffers⟩ := h.offered v hv
    exact ⟨t', List.mem_append_left _ ht', hoffers⟩

/-- **A purge makes no difference**: it takes away sessions that have
ended. -/
theorem Beside.purge (h : Beside requests l q q₀ gone) (hconduct : s.InConduct requests l q)
    (hledger : s.Ledger l q.world.store) (horder : q₀.world.store.SessionsInOrder)
    (hother : other? requests t.program = none) (htr : q.transition? t = some tr)
    (heffect : tr.effect.Clears) :
    ∃ gone', Beside requests (l ++ [tr]) (q.advance t) q₀ gone' := by
  obtain ⟨request, -, hpermits⟩ := hconduct.request htr
  obtain ⟨e, next, hnext, rfl⟩ := Pool.transition?_eq_some_iff.1 htr
  obtain ⟨gone', hthins, hended⟩ := q.world.exists_thins hledger.sessions t.draw heffect
  -- a row that is taken away had ended at a moment that was read
  have hrow {v : String} (hv : v ∈ gone') : ∃ r ∈ q.world.store.sessions, r.value = v ∧
      ∃ t' ∈ l, r.ttl ≤ t'.time := by
    obtain ⟨ctx, before, hpurge, hv⟩ := hended v hv
    obtain ⟨r, hr, hle, rfl⟩ := Store.mem_ended.1 hv
    obtain ⟨m, hm, rfl⟩ := hpermits.purges ctx before hpurge
    obtain ⟨t', ht', -, hstep⟩ := mem_stepsOf.1 hm
    exact ⟨r, hr, rfl, t', ht', Transition.seconds_eq_time hstep ▸ hle⟩
  refine ⟨gone ++ gone', ?_⟩
  rw [Pool.advance_of_program hnext]
  refine ⟨fun i hi => ?_, hthins.trans h.thins, fun now hnow r hr hv => ?_, fun v hv => ?_⟩
  · rw [← h.programs i hi]
    refine List.getElem?_set_ne ?_
    rintro rfl
    rw [hother] at hi
    cases hi
  · have hnow' : ∀ t' ∈ l, t'.time ≤ now := fun t' ht' => hnow t' (List.mem_append_left _ ht')
    rcases List.mem_append.1 hv with hv | hv
    · exact h.dead now hnow' r hr hv
    · obtain ⟨r', hr', hvalue, t', ht', hle⟩ := hrow hv
      have hmem : r' ∈ q₀.world.store.sessions := by
        rw [h.thins.store] at hr'
        exact List.mem_of_mem_filter hr'
      obtain rfl := horder.eq_of_value_eq hmem hr hvalue
      exact Int.le_trans hle (hnow' t' ht')
  · rcases List.mem_append.1 hv with hv | hv
    · obtain ⟨t', ht', hoffers⟩ := h.offered v hv
      exact ⟨t', List.mem_append_left _ ht', hoffers⟩
    · obtain ⟨r, hr, rfl, -⟩ := hrow hv
      obtain ⟨-, t', ht', exp, id, access, hopens, -⟩ := hledger.rows r hr
      exact ⟨t', List.mem_append_left _ ht', hopens.offers⟩

/-- Where nothing is done beside it, nothing is done. -/
theorem Beside.advance_of_none (h : Beside requests l q q₀ gone)
    (hother : (other? requests t.program).isSome) (htr : q.transition? t = none) :
    q₀.advance t = q₀ := by
  refine Pool.advance_of_none (Option.eq_none_iff_forall_ne_some.2 fun tr htr₀ => ?_)
  obtain ⟨e, next, hnext₀, -⟩ := Pool.transition?_eq_some_iff.1 htr₀
  have hnext := (h.programs t.program hother).trans hnext₀
  cases htr.symm.trans (Pool.transition?_eq_some_iff.2 ⟨e, next, hnext, rfl⟩)

/-- **A run is beside the run of its turns without those of purges.** -/
theorem exists_beside (s : Service) (hw : w.store = .empty)
    (hothers : ∀ i, other? requests i = other? requests₀ i) (turns : List Turn)
    (horderly : Orderly ((s.start w requests).trace turns)) :
    ∃ gone, Beside requests ((s.start w requests).trace turns) ((s.start w requests).run turns)
      ((s.start w requests₀).run (otherTurns requests turns)) gone := by
  induction turns using List.reverseRecOn with
  | nil => exact ⟨[], beside_start s w hothers⟩
  | append_singleton turns t ih =>
    have htrace := (s.start w requests).trace_concat turns t
    rw [htrace] at horderly
    obtain ⟨gone, hbeside⟩ := ih horderly.of_append
    have hsound := s.sound_run hw requests turns
    have hsound₀ := s.sound_run hw requests₀ (otherTurns requests turns)
    have hturns : otherTurns requests (turns ++ [t]) = otherTurns requests turns ++
        if (other? requests t.program).isSome then [t] else [] := by
      rw [otherTurns, List.filter_append, List.filter_singleton, Bool.cond_eq_ite]
      rfl
    rw [htrace, hturns, Pool.run_append, Pool.run_append]
    show ∃ gone, Beside requests _ (((s.start w requests).run turns).advance t) _ gone
    cases htr : ((s.start w requests).run turns).transition? t with
    | none =>
      rw [Pool.advance_of_none htr, Option.toList_none, List.append_nil]
      refine ⟨gone, ?_⟩
      split
      · next hother =>
        show Beside requests _ _ (Pool.advance _ t) gone
        rwa [hbeside.advance_of_none hother htr]
      · exact hbeside
    | some tr =>
      rw [htr] at horderly htrace
      rw [Option.toList_some] at horderly htrace ⊢
      obtain ⟨request, hrequest, -⟩ := hsound.conduct.request htr
      have hmem : tr ∈ (s.start w requests).trace (turns ++ [t]) := by
        rw [htrace]
        exact List.mem_append_right _ (List.mem_singleton_self _)
      have hprogram := (Pool.advance_of_transition? htr).1
      split
      · next hother =>
        obtain ⟨request', hrequest'⟩ := Option.isSome_iff_exists.1 hother
        obtain ⟨hrequest', hop⟩ := other?_eq_some_iff.1 hrequest'
        have hspares := uses_of_trace hmem (hprogram ▸ hrequest')
          (s.perform_spares request'.ctx hop)
        exact ⟨gone, hbeside.step hsound.conduct horderly hother htr hspares⟩
      · next hother =>
        have hnone := Option.not_isSome_iff_eq_none.1 hother
        have hop : request.operation = .purge := by
          by_contra hop
          cases hnone.symm.trans (other?_eq_some_iff.2 ⟨hprogram ▸ hrequest, hop⟩)
        have heffect := uses_of_trace hmem hrequest (hop ▸ s.perform_purge_clears request.ctx)
        exact hbeside.purge hsound.conduct hsound.ledger hsound₀.ledger.sessions hnone htr heffect

/-- **Purges are invisible.** Two runs on a store without rows are asked
for the same operations and take the same turns, at the same moments, with
the same draws and the same faults, except that either may have purges
that the other does not have, anywhere in between. In neither an
identifier is drawn twice or the clock goes back. Then every operation
that is not a purge stands in the one where it stands in the other, and
gives the same result; the accounts are the same, and so is what was
published; and at any moment from then on the same sessions are live. This
is so wherever the two runs are cut short. A purge that has had its two
turns has removed exactly the sessions that had ended at the moment that
it read, and answers how many they were. -/
theorem purging_invisible (s : Service) {w : World} (hw : w.store = .empty)
    {requests requests' : List Request} (hothers : ∀ i, other? requests i = other? requests' i)
    {turns turns' : List Turn} (hturns : otherTurns requests turns = otherTurns requests' turns')
    (horderly : Orderly ((s.start w requests).trace turns))
    (horderly' : Orderly ((s.start w requests').trace turns')) :
    (∀ i, (other? requests i).isSome → ((s.start w requests).run turns).programs[i]? =
      ((s.start w requests').run turns').programs[i]?) ∧
    ((s.start w requests).run turns).world.store.accounts =
      ((s.start w requests').run turns').world.store.accounts ∧
    ((s.start w requests).run turns).world.store.lastAccountId =
      ((s.start w requests').run turns').world.store.lastAccountId ∧
    ((s.start w requests).run turns).world.outbox =
      ((s.start w requests').run turns').world.outbox ∧
    (∀ now, (∀ t ∈ (s.start w requests).trace turns, t.time ≤ now) →
      (∀ t ∈ (s.start w requests').trace turns', t.time ≤ now) →
      ((s.start w requests).run turns).world.store.sessions.filter (·.isLive now) =
        ((s.start w requests').run turns').world.store.sessions.filter (·.isLive now)) ∧
    ∀ i ctx, requests[i]? = some ⟨ctx, .purge⟩ → 2 ≤ turns.countP (fun t => t.program = i) →
      s.PurgesExactly w requests turns i ctx := by
  -- both are compared with one run without purges
  have hself (i : Nat) : other? requests i = other? requests i := rfl
  obtain ⟨gone, h⟩ := s.exists_beside hw hself turns horderly
  obtain ⟨gone', h'⟩ := s.exists_beside hw (fun i => (hothers i).symm) turns' horderly'
  rw [← hturns] at h'
  have hstore := h.thins.store
  have hstore' := h'.thins.store
  refine ⟨fun i hi => ?_, ?_, ?_, h.thins.outbox.trans h'.thins.outbox.symm,
    fun now hnow hnow' => ?_, fun i ctx => purgesExactly_of_turns⟩
  · have hi' : (other? requests' i).isSome := by rwa [← hothers]
    exact (h.programs i hi).trans (h'.programs i hi').symm
  · rw [hstore, hstore']
    rfl
  · rw [hstore, hstore']
    rfl
  · rw [hstore, hstore', Store.filter_isLive_thin (h.dead now hnow),
      Store.filter_isLive_thin (h'.dead now hnow')]

/-- Somebody has opened a session, and it ends. In the one run it is purged
then, and in the other it is not. -/
theorem purging_invisible_plain : ∃ requests turns turns' i n,
    ((plain.start {} requests).run turns).programs[i]? = some (.done (.ok (.count n))) ∧ 0 < n ∧
    (∀ t ∈ (plain.start {} requests).trace turns', t.program ≠ i) ∧
    ∀ j, (other? requests j).isSome → ((plain.start {} requests).run turns).programs[j]? =
      ((plain.start {} requests).run turns').programs[j]? := by
  obtain ⟨es, token, hes, hnow, -, r, hr, -, hlive⟩ := exists_session_plain
  let requests := es.map Errand.request ++ [⟨unhurried, .purge⟩]
  have hpurge : requests[es.length]? = some ⟨unhurried, .purge⟩ := by simp [requests]
  have hprefix : es.map Errand.request <+: requests := List.prefix_append _ _
  obtain ⟨before, hbefore⟩ := hes.exists_inTurn hprefix
  have hunbegun : ∀ t ∈ (plain.start {} requests).trace before, t.program ≠ es.length :=
    fun t ht => Nat.ne_of_lt (hbefore.calm t ht).1
  -- the purge has its turns when the session has ended
  let q := (plain.start {} requests).run before
  let turn : Turn := ⟨es.length, ⟨⟨r.ttl, 0⟩, "", default, none, none⟩⟩
  have hq : q.programs[es.length]? = some (plain.perform unhurried .purge).run :=
    (Pool.getElem?_run_of_notMem before hunbegun).trans (plain.start_getElem? {} hpurge)
  obtain ⟨htrace, hdone⟩ := trace_purge (d := turn.draw) hq rfl rfl
  have horderly : Orderly ((plain.start {} requests).trace (before ++ [turn, turn])) := by
    have hfirst := hbefore.orderly hes
    rw [Pool.trace_append]
    change Orderly (_ ++ q.trace [turn, turn])
    rw [htrace]
    refine ⟨?_, List.pairwise_append.2 ⟨hfirst.forward, ?_, fun t ht t' ht' => ?_⟩⟩
    · rw [identifiers_append]
      exact (List.append_nil _).symm ▸ hfirst.fresh
    · exact List.pairwise_pair.2 (Int.le_refl _)
    · obtain ⟨-, e, he, hcalm⟩ := hbefore.calm t ht
      have htime : t'.time = r.ttl := by
        simp only [List.mem_cons, List.not_mem_nil, or_false] at ht'
        rcases ht' with rfl | rfl <;> rfl
      rw [hcalm.time, hnow e he, htime]
      exact Int.le_of_lt hlive
  have hothers : otherTurns requests (before ++ [turn, turn]) = otherTurns requests before := by
    have hnone : other? requests turn.program = none := by
      simp [other?, turn, hpurge]
    simp [otherTurns, hnone]
  obtain ⟨hsame, -⟩ := purging_invisible plain (w := {}) rfl (fun _ => rfl) hothers horderly
    (hbefore.orderly hes)
  refine ⟨requests, before ++ [turn, turn], before, es.length, (q.world.store.purge r.ttl).1,
    ?_, ?_, hunbegun, hsame⟩
  · rw [Pool.run_append]
    exact hdone
  · rw [Store.purge_fst, List.countP_pos_iff]
    refine ⟨r, ?_, by simp⟩
    show r ∈ ((plain.start {} requests).run before).world.store.sessions
    rwa [hbefore.world]

end Service

end SignOn
