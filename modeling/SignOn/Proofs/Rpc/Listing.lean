import SignOn.Proofs.Rpc.Unhashed
import SignOn.Proofs.Service.Registered
import SignOn.Proofs.Service.Undisturbed
import SignOn.Proofs.Store.Pages
/-!
# Listing the accounts page by page

In a world that is reached the listing has every account that was opened,
once, in the order of their numbers. Who asks for it page by page, as an
operation of the service or in calls, gets it piece by piece, with no
account lost or repeated: `Service.pages_tile_listing`.
-/

namespace SignOn

namespace Service

open Procedure

variable {s : Service} {w : World} {e : Errand} {es : List Errand} {c : Incoming}
variable {calls : List Incoming} {works : Prop}

/-! ## One page -/

theorem getUsers_undisturbed {ctx : RequestContext} {page : Option Page} :
    Meets (.undisturbed works)
      (fun w' as => as = w.store.listAccounts page ∧ w'.store = w.store) (fun _ _ => False)
      (getUsers ctx page) w := by
  refine meets_undisturbed_ask (fun now as store hrun => ?_) fun now e hrun => ?_
  · have hlist : w.store.unchanged (.ok (w.store.listAccounts page)) = .ok (as, store) := hrun
    obtain ⟨has, rfl⟩ := Store.unchanged_eq_ok_iff.1 hlist
    exact ⟨(Except.ok.inj has).symm, rfl⟩
  · cases hrun

/-- **The operation answers the page that was asked for**, and changes
nothing. -/
theorem carryOut_getUsers {page : Option Page} (hop : e.operation = .getUsers page)
    (hsteps : ∀ t ∈ s.stepsTaken w e, t.Undisturbed) :
    (s.carryOut w e).result = .ok (.accounts (w.store.listAccounts page)) ∧
      (s.carryOut w e).world.store = w.store := by
  have hmeets : (s.perform e.ctx e.operation).run.Meets (.undisturbed False)
      (fun w' r => ∃ a, r = .ok a ∧ a = .accounts (w.store.listAccounts page) ∧
        w'.store = w.store) w := by
    rw [hop]
    refine Meets.run_ok (meets_map.2 (getUsers_undisturbed.mono ?_ fun _ _ h => h))
    rintro w' as ⟨rfl, hstore⟩
    exact ⟨rfl, hstore⟩
  obtain ⟨_, hresult, rfl, hstore⟩ := carryOut_of_meets_undisturbed hmeets hsteps nofun
  exact ⟨hresult, hstore⟩

/-- To take in a request leaves the world. -/
theorem receive_undisturbed (m : Metadata) {Q : World → RequestContext → Prop}
    (h : ∀ ctx, Q w ctx) : m.receive.Meets (.undisturbed works) Q w := by
  refine ⟨trivial, ?_⟩
  rintro fresh _ ⟨t, -, -, rfl, hstep, rfl⟩
  have hfresh : t.effect = .identifier := congrArg Step.effect hstep
  rw [Transition.after_of_inward (hfresh ▸ trivial)]
  refine ⟨trivial, ?_⟩
  rintro now _ ⟨t', -, -, hbefore, hstep', rfl⟩
  have hclock : t'.effect = .clock := congrArg Step.effect hstep'
  rw [Transition.after_of_inward (hclock ▸ trivial), hbefore]
  exact h _

/-- **A call is answered with the page that was asked for**, and changes
nothing. -/
theorem handle_getUsers {page : Option PageMessage} (hrequest : c.request = .getUsers page)
    (hsteps : ∀ t ∈ (s.handle c.metadata c.request).trace c.draws 0 w, t.Undisturbed) :
    ((s.handle c.metadata c.request).run c.draws 0 w).result = .ok (.users
        ((w.store.listAccounts (page.map PageMessage.page)).map UserMessage.ofAccount)) ∧
      ((s.handle c.metadata c.request).run c.draws 0 w).world.store = w.store := by
  have hmeets : (s.handle c.metadata c.request).Meets (.undisturbed False)
      (fun w' r => r = .ok (.users
          ((w.store.listAccounts (page.map PageMessage.page)).map UserMessage.ofAccount)) ∧
        w'.store = w.store) w := by
    rw [hrequest]
    refine Program.meets_bind.2 (receive_undisturbed c.metadata fun ctx => ?_)
    have hlisted : Meets (.undisturbed False)
        (fun w' a => a = .users
          ((w.store.listAccounts (page.map PageMessage.page)).map UserMessage.ofAccount) ∧
          w'.store = w.store)
        (fun _ _ => False) (s.serve ctx (.getUsers page)) w :=
      meets_bind.2 (getUsers_undisturbed.mono (fun _ _ h => ⟨by rw [h.1], h.2⟩) fun _ _ h => h)
    refine Program.meets_bind.2 (Program.Meets.mono hlisted.run_ok ?_)
    rintro w' _ ⟨_, rfl, rfl, hstore⟩
    exact ⟨rfl, hstore⟩
  exact Program.run_of_meets_undisturbed hmeets hsteps nofun

/-! ## Page after page -/

/-- Errands one after another that no fault of the store and no deadline
disturbs. -/
def Undisturbedly (s : Service) (w : World) : List Errand → Prop
  | [] => True
  | e :: es => (∀ t ∈ s.stepsTaken w e, t.Undisturbed) ∧
    Undisturbedly s (s.carryOut w e).world es

/-- Calls one after another that no fault of the store and no deadline
disturbs. -/
def AnsweredUndisturbed (s : Service) (w : World) : List Incoming → Prop
  | [] => True
  | c :: calls =>
    (∀ t ∈ (s.handle c.metadata c.request).trace c.draws 0 w, t.Undisturbed) ∧
      AnsweredUndisturbed s ((s.handle c.metadata c.request).run c.draws 0 w).world calls

/-- Who asks for pages gets them all from the same listing. -/
theorem history_getUsers {pages : List (Option Page)}
    (hops : es.map Errand.operation = pages.map .getUsers) (h : s.Undisturbedly w es) :
    (s.history w es).map Outcome.result =
      pages.map fun page => .ok (.accounts (w.store.listAccounts page)) := by
  induction es generalizing w pages with
  | nil =>
    obtain rfl : pages = [] := List.map_eq_nil_iff.1 hops.symm
    rfl
  | cons e es ih =>
    obtain ⟨page, pages, rfl, hop, hops⟩ := List.map_eq_cons_iff.1 hops.symm
    obtain ⟨hresult, hstore⟩ := carryOut_getUsers hop.symm h.1
    have hrest := ih hops.symm h.2
    rw [hstore] at hrest
    simp only [history, List.map_cons, hresult, hrest]

/-- So does who calls for them. -/
theorem answerInTurn_getUsers {pages : List (Option PageMessage)}
    (hrequests : calls.map Incoming.request = pages.map .getUsers)
    (h : s.AnsweredUndisturbed w calls) :
    (s.answerInTurn w calls).1 = pages.map fun page => .ok (.users
      ((w.store.listAccounts (page.map PageMessage.page)).map UserMessage.ofAccount)) := by
  induction calls generalizing w pages with
  | nil =>
    obtain rfl : pages = [] := List.map_eq_nil_iff.1 hrequests.symm
    rfl
  | cons c calls ih =>
    obtain ⟨page, pages, rfl, hrequest, hrequests⟩ := List.map_eq_cons_iff.1 hrequests.symm
    obtain ⟨hresult, hstore⟩ := handle_getUsers hrequest.symm h.1
    have hrest := ih hrequests.symm h.2
    rw [hstore] at hrest
    simp only [answerInTurn, List.map_cons, hresult, hrest]

/-! ## The theorem -/

/-- The numbers of the accounts are those that were given to them when they
were opened. -/
theorem Reaches.exists_id_iff {l : List Transition} (h : s.Reaches l w) {id : Int} :
    (∃ a ∈ w.store.accounts, a.id = id) ↔ ∃ t ∈ l, ∃ new, t.Answers (.insertAccount new) id := by
  constructor
  · rintro ⟨a, ha, rfl⟩
    obtain ⟨t, ht, new, -, hanswers⟩ := h.registered_iff.2 ⟨a, ha, rfl, rfl⟩
    exact ⟨t, ht, new, hanswers⟩
  · rintro ⟨t, ht, new, hanswers⟩
    obtain ⟨a, ha, hid, -⟩ := h.registered_iff.1 ⟨t, ht, new, rfl, hanswers⟩
    exact ⟨a, ha, hid⟩

/-- **Pages tile the listing.** In a world that is reached, with fewer than
2⁶³ accounts, the listing is in the strict order of the numbers; it has an
account exactly if the account is found by its number, and the numbers are
those that were given.

A page is the window of it that the offset and the limit describe, a limit
of zero standing for a hundred, and an offset above the signed range being
as good as any. For every limit there are offsets for as many pages as it
takes. And the pages of a limit one after another, if nothing disturbs them,
are the listing as far as they reach, whether they are asked for as
operations, or in calls with the offsets that fit there. -/
theorem pages_tile_listing (s : Service) {l : List Transition} (hw : s.Reaches l w)
    (hfew : w.store.accounts.length < 2 ^ 63) :
    let full := w.store.listAccounts none
    (full.Pairwise (fun a b => a.id < b.id) ∧
      (∀ a, a ∈ full ↔ w.store.accountById a.id = .ok a) ∧
      ∀ id, (∃ a ∈ full, a.id = id) ↔ ∃ t ∈ l, ∃ new, t.Answers (.insertAccount new) id) ∧
    (∀ page : Page, w.store.listAccounts (some page) =
      (full.drop page.offset.toNat).take (Page.size page.limit)) ∧
    (∀ limit, ∃ n, full.length ≤ n * Page.size limit ∧
      ∀ k < n, k * Page.size limit ≤ full.length) ∧
    (∀ limit n es, (∀ k < n, k * Page.size limit < 2 ^ 64) →
      es.map Errand.operation = (List.range n).map (fun k => .getUsers (some (.window limit k))) →
      s.Undisturbedly w es →
      ∃ pages : List (List Account),
        (s.history w es).map Outcome.result = pages.map (fun as => .ok (.accounts as)) ∧
        pages.flatten = full.take (n * Page.size limit) ∧
        (full.length ≤ n * Page.size limit → pages.flatten = full)) ∧
    ∀ limit n calls, (∀ k < n, k * Page.size limit < 2 ^ 32) →
      calls.map Incoming.request =
        (List.range n).map (fun k => .getUsers (some (.window limit k))) →
      s.AnsweredUndisturbed w calls →
      ∃ pages : List (List UserMessage),
        (s.answerInTurn w calls).1 = pages.map (fun us => .ok (.users us)) ∧
        pages.flatten = (full.take (n * Page.size limit)).map UserMessage.ofAccount ∧
        (full.length ≤ n * Page.size limit → pages.flatten = full.map UserMessage.ofAccount) := by
  intro full
  refine ⟨⟨hw.accounts.ids, fun a => hw.accounts.mem_listAccounts_iff, fun id => hw.exists_id_iff⟩,
    fun page => page.cut_eq hfew, fun limit => Page.exists_enough full limit,
    fun limit n es hfits hops h => ?_, fun limit n calls hfits hrequests h => ?_⟩
  · let cuts := (List.range n).map fun k => (Page.window limit k).cut full
    have htile : cuts.flatten = full.take (n * Page.size limit) := Page.flatten_cuts hfew hfits
    have hasked : es.map Errand.operation =
        ((List.range n).map fun k => some (Page.window limit k)).map .getUsers := by
      rw [hops, List.map_map]
      rfl
    refine ⟨cuts, ?_, htile, fun hall => ?_⟩
    · rw [history_getUsers hasked h, List.map_map, List.map_map]
      rfl
    · rw [htile, List.take_of_length_le hall]
  · let cuts := (List.range n).map fun k => (Page.window limit k).cut full
    have htile : cuts.flatten = full.take (n * Page.size limit) :=
      Page.flatten_cuts hfew fun k hk => (hfits k hk).trans (by omega)
    have hasked : calls.map Incoming.request =
        ((List.range n).map fun k => some (PageMessage.window limit k)).map .getUsers := by
      rw [hrequests, List.map_map]
      rfl
    refine ⟨cuts.map (List.map UserMessage.ofAccount), ?_, ?_, fun hall => ?_⟩
    · rw [answerInTurn_getUsers hasked h, List.map_map, List.map_map, List.map_map]
      refine List.map_congr_left fun k hk => ?_
      simp only [Function.comp_apply, Option.map_some,
        PageMessage.page_window (hfits k (List.mem_range.1 hk))]
      rfl
    · rw [← List.map_flatten, htile]
    · rw [← List.map_flatten, htile, List.take_of_length_le hall]

/-- A call without metadata has no deadline that could disturb it. -/
theorem undisturbed_handle {request : RpcRequest}
    (h : ∀ ctx, (s.serve ctx request).Uses (Effect.IsFor ctx)) (now : Int) (id : Nat → String)
    (w : World) :
    ∀ t ∈ (s.handle {} request).trace (calmDraws now id) 0 w, t.Undisturbed := by
  have hmeets (ctx : RequestContext) : ((s.serve ctx request).run.bind fun r =>
      .done (r.mapError (Failure.map Status.ofError))).Meets (.only (Effect.IsFor ctx))
        (fun _ _ => True) () :=
    Program.meets_bind.2 (Program.Meets.mono (h ctx) fun _ _ _ => trivial)
  refine List.forall_mem_cons.2 ⟨⟨rfl, nofun⟩, List.forall_mem_cons.2 ⟨⟨rfl, nofun⟩, ?_⟩⟩
  exact fun t ht => (Program.calm_trace (hmeets _) rfl 2 _ t ht).undisturbed

/-- After three registrations there are three accounts, and two pages of at
most two entries are the listing. -/
theorem pages_tile_listing_plain : ∃ l w es calls, ∃ pages : List (List Account),
    ∃ messages : List (List UserMessage), plain.Reaches l w ∧
    w.store.accounts.length < 2 ^ 63 ∧
    es.map Errand.operation = [.getUsers (some (.window 2 0)), .getUsers (some (.window 2 1))] ∧
    plain.Undisturbedly w es ∧
    (plain.history w es).map Outcome.result = pages.map (fun as => .ok (.accounts as)) ∧
    pages.map (fun as => as.map Account.email) =
      [["first@example.org", "second@example.org"], ["third@example.org"]] ∧
    pages.flatten = w.store.listAccounts none ∧
    calls.map Incoming.request = [.getUsers (some (.window 2 0)), .getUsers (some (.window 2 1))] ∧
    plain.AnsweredUndisturbed w calls ∧
    (plain.answerInTurn w calls).1 = messages.map (fun us => .ok (.users us)) ∧
    messages.flatten = (w.store.listAccounts none).map UserMessage.ofAccount := by
  let input (email : String) : Registration := ⟨email, "password", "Owner"⟩
  have hacceptable (email : String) : plain.Acceptable (input email) :=
    ⟨rfl, rfl, rfl, acceptable_plain.size, acceptable_plain.cost⟩
  obtain ⟨registrations, hregistered, -, hemails⟩ := exists_registered (w := {}) ready_plain
    (by decide) rfl (["first@example.org", "second@example.org", "third@example.org"].map input)
    (by simp [hacceptable]) (by decide)
  obtain ⟨l, hreaches, -, -⟩ := hregistered.exists_reaches rfl
  generalize plain.after {} registrations = w at hreaches hemails
  have hlength : w.store.accounts.length = 3 := by
    rw [← List.length_map Account.email]
    exact congrArg List.length hemails
  have hfew : w.store.accounts.length < 2 ^ 63 := by
    rw [hlength]
    decide
  have hall : w.store.accounts.length ≤ 2 * Page.size 2 := by
    rw [hlength]
    decide
  have hsize : Page.size 2 = 2 := by decide
  obtain ⟨-, hpage, -, hoperations, hcalls⟩ := pages_tile_listing plain hreaches hfew
  -- two pages, from the service
  let ask (k : Nat) : Errand :=
    ⟨unhurried, .getUsers (some (.window 2 k)), 0, calmDraws 0 toString⟩
  have hcalm (k : Nat) (w : World) (t) (ht : t ∈ plain.stepsTaken w (ask k)) : t.Undisturbed :=
    Transition.Calm.undisturbed (Program.calm_trace
      (plain.perform_isFor unhurried (.getUsers (some (.window 2 k)))) rfl 0 w t ht)
  have hundisturbed : plain.Undisturbedly w [ask 0, ask 1] := ⟨hcalm 0 _, hcalm 1 _, trivial⟩
  obtain ⟨pages, hpages, -, htiled⟩ :=
    hoperations 2 2 [ask 0, ask 1] (fun k hk => by rw [hsize]; omega) rfl hundisturbed
  have hcuts : pages = [w.store.listAccounts (some (.window 2 0)),
      w.store.listAccounts (some (.window 2 1))] := by
    have hasked : [ask 0, ask 1].map Errand.operation =
        [some (Page.window 2 0), some (.window 2 1)].map .getUsers := rfl
    refine (List.map_inj_right fun _ _ h => ?_).1
      (hpages.symm.trans (history_getUsers hasked hundisturbed))
    exact Answer.accounts.inj (Except.ok.inj h)
  have hshown : pages.map (fun as => as.map Account.email) =
      [["first@example.org", "second@example.org"], ["third@example.org"]] := by
    simp only [hcuts, hpage, List.map_cons, List.map_nil, List.map_take, List.map_drop]
    rw [show (w.store.listAccounts none).map Account.email = _ from hemails]
    decide
  -- two pages, in calls
  let call (k : Nat) : Incoming := ⟨{}, .getUsers (some (.window 2 k)), calmDraws 0 toString⟩
  have huses (k : Nat) (ctx : RequestContext) :
      (plain.serve ctx (call k).request).Uses (Effect.IsFor ctx) :=
    (uses_ask (P := Effect.IsFor ctx) rfl _).bind fun _ => uses_pure _
  have hquiet (k : Nat) (w : World) (t)
      (ht : t ∈ (plain.handle {} (call k).request).trace (calmDraws 0 toString) 0 w) :
      t.Undisturbed :=
    undisturbed_handle (huses k) 0 toString w t ht
  have hanswered : plain.AnsweredUndisturbed w [call 0, call 1] := ⟨hquiet 0 _, hquiet 1 _, trivial⟩
  obtain ⟨messages, hmessages, -, htiled'⟩ :=
    hcalls 2 2 [call 0, call 1] (fun k hk => by rw [hsize]; omega) rfl hanswered
  exact ⟨l, w, _, _, pages, messages, hreaches, hfew, rfl, hundisturbed, hpages, hshown,
    htiled hall, rfl, hanswered, hmessages, htiled' hall⟩

end Service

end SignOn
