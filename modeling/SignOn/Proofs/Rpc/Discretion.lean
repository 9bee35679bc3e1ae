import SignOn.Proofs.Rpc.Alike
import SignOn.Proofs.Session.Admission
/-!
# What goes wrong within stays within

A storage error or a notification error has a text for the log, and often
a cause that is nobody's business. Two runs that meet such errors at the
same steps, of the same kinds, answer the same: neither the texts nor,
among internal errors, the component that failed get out.
-/

namespace SignOn

/-- Draws that differ at most in what is said about faults: storage faults
are of one kind, and publishing fails in both or in neither. -/
structure Draw.Alike (d d' : Draw) : Prop where
  moment : d.moment = d'.moment
  identifier : d.identifier = d'.identifier
  salt : d.salt = d'.salt
  storeFault : d.storeFault.map StoreError.kind = d'.storeFault.map StoreError.kind
  publishFault : d.publishFault.isSome = d'.publishFault.isSome

variable {d d' : Draw}

/-- A query meets a fault with both draws, or it is carried out the same
way. -/
theorem World.query_alike (w : World) (h : d.Alike d') (ctx : RequestContext) (q : Query) :
    Effect.Alike id (.query ctx q) (w.query d ctx q).1 (w.query d' ctx q).1 ∧
      (w.query d ctx q).2 = (w.query d' ctx q).2 := by
  have hfault := h.storeFault
  unfold query
  cases hd : d.storeFault with
  | some c =>
    cases hd' : d'.storeFault with
    | some c' =>
      rw [hd, hd'] at hfault
      exact ⟨congrArg Except.error (Option.some.inj hfault), rfl⟩
    | none =>
      rw [hd, hd'] at hfault
      cases hfault
  | none =>
    cases hd' : d'.storeFault with
    | some c' =>
      rw [hd, hd'] at hfault
      cases hfault
    | none =>
      rw [h.moment]
      exact ⟨rfl, rfl⟩

/-- So it is with publishing. -/
theorem World.publish_alike (w : World) (h : d.Alike d') (ctx : RequestContext) (subject : String)
    (payload : List UInt8) :
    Effect.Alike id (.publish ctx subject payload) (w.publish d subject payload).1
        (w.publish d' subject payload).1 ∧
      (w.publish d subject payload).2 = (w.publish d' subject payload).2 := by
  have hfault := h.publishFault
  unfold publish
  cases hd : d.publishFault with
  | some c =>
    cases hd' : d'.publishFault with
    | some c' => exact ⟨rfl, rfl⟩
    | none =>
      rw [hd, hd'] at hfault
      cases hfault
  | none =>
    cases hd' : d'.publishFault with
    | some c' =>
      rw [hd, hd'] at hfault
      cases hfault
    | none => exact ⟨rfl, rfl⟩

/-- **A world answers a step alike** with draws that are alike, and is then
the same. -/
theorem World.answer_alike (w : World) (h : d.Alike d') (e : Effect) :
    e.Alike id (w.answer d e).1 (w.answer d' e).1 ∧ (w.answer d e).2 = (w.answer d' e).2 := by
  cases e with
  | clock => exact ⟨h.moment, rfl⟩
  | identifier => exact ⟨h.identifier, rfl⟩
  | salt => exact ⟨h.salt, rfl⟩
  | deadline ctx => exact ⟨congrArg ctx.isOver h.moment, rfl⟩
  | query ctx q => exact (w.note (.query q)).query_alike h ctx q
  | publish ctx subject payload =>
    exact (w.note (.publish subject payload)).publish_alike h ctx subject payload

namespace Service

/-- **What goes wrong within stays within.** A call of either service in
any world, carried out twice with the same readings of the clock, the same
identifiers and the same salts, is answered the same both times, a response
or a status with its code and its text, and leaves the same world, if the
same of its queries and publications fail: a query fails with errors of
one kind, whatever they say, where all errors of input and output, of the
connection, of a migration and of a query itself are one kind, and a
publication fails with any two errors. -/
theorem handle_eq_of_alike (s : Service) (m : Metadata) (request : RpcRequest) (w : World)
    {draws draws' : Draws} (h : ∀ n e, (draws n e).Alike (draws' n e)) :
    ((s.handle m request).run draws 0 w).result = ((s.handle m request).run draws' 0 w).result ∧
      ((s.handle m request).run draws 0 w).world = ((s.handle m request).run draws' 0 w).world := by
  have halike := s.alike_handle m fun ctx => s.alike_serve_self ctx request
  refine halike.run (V := Eq) (D := Draw.Alike) ?_ h rfl
  rintro w _ d d' e rfl hd
  exact w.answer_alike hd e

/-- Every query of a call meets a fault. -/
def faultyDraws (fault : StoreError) : Draws :=
  fun n e => { calmDraws 0 (fun _ => "") n e with storeFault := some fault }

/-- That the disk is full is told as it is told that a table is missing. -/
theorem fault_not_told_plain :
    (∀ n e, (faultyDraws (.io "disk full") n e).Alike
      (faultyDraws (.query "no such table: users") n e)) ∧
    ((plain.handle {} (.getUsers none)).run (faultyDraws (.io "disk full")) 0 {}).result =
      .error (.reported ⟨.internal, "internal error"⟩) ∧
    ((plain.handle {} (.getUsers none)).run (faultyDraws (.io "disk full")) 0 {}).result =
      ((plain.handle {} (.getUsers none)).run
        (faultyDraws (.query "no such table: users")) 0 {}).result := by
  have halike : ∀ n e, (faultyDraws (.io "disk full") n e).Alike
      (faultyDraws (.query "no such table: users") n e) := fun _ _ => ⟨rfl, rfl, rfl, rfl, rfl⟩
  exact ⟨halike, rfl, (handle_eq_of_alike plain {} (.getUsers none) {} halike).1⟩

end Service

end SignOn
