import SqlScope.Proofs.Holding
import SqlScope.Proofs.Manner

set_option autoImplicit false

namespace SqlScope

open SqlScope.Action

variable {α β : Type} {l : Law} {s : Session}

namespace Session

def inScope (s : Session) (w : World) : Bool := (w.sessions.get s.index).inTransaction

def setScope (s : Session) (b : Bool) : Action Unit := s.update fun t => { t with inTransaction := b }

def nested : Failure := Kind.nestedTransaction.failure "A transaction is already active on this session"

def scope (s : Session) (op : Connection → Action α) (savepoint : Value) (c : Connection) : Action α := do
  s.setScope true
  ensuring (s.setScope false) (c.transact op savepoint)

end Session

theorem set_scope_ok (s : Session) (b : Bool) (w : World) :
    s.setScope b w = .ok ()
      { w with sessions := w.sessions.put s.index { w.sessions.get s.index with inTransaction := b } } := rfl

theorem set_scope_in_scope (s : Session) (b : Bool) (w : World) : s.inScope ((s.setScope b).after w) = b := by
  rw [after_of_ok (set_scope_ok s b w), Session.inScope]
  simp only [Table.get_put, if_true]

theorem set_scope_binding (s : Session) (b : Bool) (w : World) :
    s.binding ((s.setScope b).after w) = s.binding w := by
  rw [after_of_ok (set_scope_ok s b w), Session.binding, Session.binding]
  simp only [Table.get_put, if_true]

theorem transact_in_scope {w : World} (inside : s.inScope w = true) (op : Connection → Action α)
    (savepoint : Value) : s.transact op savepoint w = .error Session.nested w := by
  change (if s.inScope w then throw Session.nested else _ : Action α) w = _
  rw [if_pos inside]
  rfl

theorem transact_outside {w : World} (outside : s.inScope w = false) (op : Connection → Action α)
    (savepoint : Value) : s.transact op savepoint w = s.holding (s.scope op savepoint) w := by
  change (if s.inScope w then throw Session.nested else s.holding (s.scope op savepoint) : Action α) w = _
  rw [if_neg (by rw [outside]; decide)]

theorem ensuring_after {close : Action Unit} (calm : ∀ w, ∃ w', close w = .ok () w') (body : Action α)
    (w : World) : (ensuring close body).after w = close.after (body.after w) := by
  cases ran : body w with
  | ok v w₁ =>
      obtain ⟨w₂, closed⟩ := calm w₁
      rw [ensuring, after_bind_of_ok (outcome_of_ok ran), after_of_ok ran]
      exact (after_bind_of_ok closed).trans (after_of_ok closed).symm
  | error f w₁ =>
      obtain ⟨w₂, closed⟩ := calm w₁
      rw [ensuring, after_bind_of_ok (outcome_of_error ran), after_of_error ran]
      exact (after_bind_of_ok closed).trans (after_of_ok closed).symm

theorem scope_after (op : Connection → Action α) (savepoint : Value) (c : Connection) (w : World) :
    (s.scope op savepoint c).after w =
      (s.setScope false).after ((c.transact op savepoint).after ((s.setScope true).after w)) := by
  rw [Session.scope, after_bind_of_ok (set_scope_ok s true w), after_of_ok (set_scope_ok s true w)]
  exact ensuring_after (fun u => ⟨_, set_scope_ok s false u⟩) _ _

theorem Connection.transact_kept {c : Connection}
    (on : ∀ {β : Type} (a : Action β), (acting (Call.On c.raw)).Kept a → l.Kept a)
    {op : Connection → Action α} (kept : l.Kept (op c)) (savepoint : Value) :
    l.Kept (c.transact op savepoint) := by
  apply kept_bind (on _ (Savepoint.request_acts savepoint))
  intro name
  refine kept_bind (kept_on_ordinary (on _ (Transaction.begin_acts c name)) fun _ => kept_throw _) fun _ => ?_
  refine kept_bind (kept_on_ordinary ?_ fun f => ?_) fun v => ?_
  · exact kept_bind kept fun v => kept_bind (on _ (c.commit_acts ⟨rfl, rfl⟩)) fun _ => kept_pure v
  · exact kept_bind (on _ (Transaction.roll_back_after_failure_acts c name)) fun _ => kept_throw _
  · exact kept_bind (on _ (debug_acts _ _)) fun _ => kept_pure v

theorem state_kept (s : Session) : l.Kept s.state := kept_bind kept_get fun _ => kept_pure _

theorem commit_write_acts (s : Session) (c : Connection) : (acting (Call.On c.raw)).Kept (s.commitWrite c) := by
  apply kept_bind (state_kept s)
  intro t
  by_cases inside : t.inTransaction
  · rw [if_pos inside]
    exact kept_pure ()
  · rw [if_neg inside]
    exact kept_wrapping _ _ (c.commit_acts ⟨rfl, rfl⟩)

theorem undo_write_acts (s : Session) (c : Connection) : (acting (Call.On c.raw)).Kept (s.undoWrite c) := by
  apply kept_bind (state_kept s)
  intro t
  by_cases inside : t.inTransaction
  · rw [if_pos inside]
    exact kept_pure ()
  · rw [if_neg inside]
    exact kept_on_ordinary (c.rollback_acts ⟨rfl, rfl⟩) fun _ => warn_acts _ _

def Session.written (s : Session) (body : Connection → Action α) (c : Connection) : Action α := do
  match ← outcome (body c) with
  | .error f =>
    s.undoWrite c
    throw f
  | .ok v =>
    s.commitWrite c
    pure v

theorem written_kept {c : Connection}
    (on : ∀ {β : Type} (a : Action β), (acting (Call.On c.raw)).Kept a → l.Kept a)
    {body : Connection → Action α} (kept : l.Kept (body c)) : l.Kept (s.written body c) := by
  apply kept_bind (kept_outcome kept)
  intro r
  cases r with
  | ok v => exact kept_bind (on _ (commit_write_acts s c)) fun _ => kept_pure v
  | error f => exact kept_bind (on _ (undo_write_acts s c)) fun _ => kept_throw f

theorem write_eq (s : Session) (body : Connection → Action α) : s.write body = s.holding (s.written body) := rfl

-- A law that survives each change of a binding is kept by whatever holds a connection.
structure Rides (l : Law) (s : Session) (fits : RawConnection → Prop) : Prop where
  drops : ∀ w w', l.inv w → (∀ d, s.binding w = some d → ¬ d.ReadsOpen w) → Drops s w w' → l.inv w' ∧ l.rel w w'
  found : ∀ w c, l.inv w → s.binding w = some c → fits c.raw
  binds : ∀ w w' c, l.inv w → (∀ d, s.binding w = some d → ¬ d.ReadsOpen w) → Binds s c w w' →
    fits c.raw ∧ l.inv w' ∧ l.rel w w'
  releases : ∀ w w' c, l.inv w → s.binding w = some c → Releases s c w w' → l.inv w' ∧ l.rel w w'

theorem finish_rides {fits : RawConnection → Prop} (rides : Rides l s fits) {c : Connection}
    {r : EStateM.Result Failure World α} (holds : l.inv (worldOf r)) :
    l.inv (worldOf (s.finish c r)) ∧ l.rel (worldOf r) (worldOf (s.finish c r)) := by
  by_cases bound : s.binding (worldOf r) = some c
  · exact rides.releases _ _ c holds bound (finish_of_bound bound)
  · rw [finish_of_other bound]
    exact ⟨holds, l.refl _⟩

theorem holding_rides {fits : RawConnection → Prop} (rides : Rides l s fits) {body : Connection → Action α}
    (kept : ∀ c, fits c.raw → l.Kept (body c)) : l.Kept (s.holding body) := by
  intro w holds
  rcases holding_cases s w with
    ⟨f, w₁, _, drops, shut, run⟩ | ⟨c, _, bound, _, run⟩ | ⟨c, w₁, _, binds, shut, run⟩
  · rw [after_of_error (run body)]
    exact rides.drops w w₁ holds shut drops
  · rw [Action.after, run body]
    exact kept c (rides.found w c holds bound) w holds
  · obtain ⟨fit, holds₁, moved₁⟩ := rides.binds w w₁ c holds shut binds
    obtain ⟨holds₂, moved₂⟩ := kept c fit w₁ holds₁
    have last := finish_rides (c := c) (r := body c w₁) rides holds₂
    obtain ⟨holds₃, moved₃⟩ := last
    rw [Action.after, run body]
    exact ⟨holds₃, l.trans _ _ _ moved₁ (l.trans _ _ _ moved₂ moved₃)⟩

theorem close_rides {fits : RawConnection → Prop} (rides : Rides l s fits) : l.Kept s.close := by
  intro w holds
  cases bound : s.binding w with
  | none =>
      rw [after_of_ok (session_close_of_unbound bound)]
      exact ⟨holds, l.refl w⟩
  | some c => exact rides.releases _ _ c holds bound (session_close_of_bound bound)

theorem transact_rides {fits : RawConnection → Prop} (rides : Rides l s fits) {op : Connection → Action α}
    {savepoint : Value} (kept : ∀ c, fits c.raw → l.Kept (s.scope op savepoint c)) :
    l.Kept (s.transact op savepoint) := by
  intro w holds
  cases inside : s.inScope w with
  | true =>
      rw [after_of_error (transact_in_scope inside op savepoint)]
      exact ⟨holds, l.refl w⟩
  | false =>
      rw [Action.after, transact_outside inside]
      exact holding_rides rides kept w holds

theorem scope_kept {c : Connection} (flag : ∀ b, l.Kept (s.setScope b))
    (on : ∀ {β : Type} (a : Action β), (acting (Call.On c.raw)).Kept a → l.Kept a)
    {op : Connection → Action α} (kept : l.Kept (op c)) (savepoint : Value) : l.Kept (s.scope op savepoint c) :=
  kept_bind (flag true) fun _ => kept_ensuring (flag false) (Connection.transact_kept on kept savepoint)

-- Callbacks get connections that fit, and may rely on nothing else.
structure Governs (l : Law) (m : Manner) (s : Session) (fits : RawConnection → Prop) : Prop where
  own : ∀ {α : Type} (a : Action α), m.own a → l.Kept a
  works : ∀ {α : Type} (a : Action α) (held : Option RawConnection), (∀ c, held = some c → fits c) →
    Routine.Works m.text held a → l.Kept a
  holding : ∀ {α : Type} (body : Connection → Action α), (∀ c, fits c.raw → l.Kept (body c)) →
    l.Kept (s.holding body)
  transact : ∀ {α : Type} (op : Connection → Action α) (savepoint : Value),
    (∀ c, fits c.raw → l.Kept (op c)) → l.Kept (s.transact op savepoint)
  write : ∀ {α : Type} (body : Connection → Action α), (∀ c, fits c.raw → l.Kept (body c)) →
    l.Kept (s.write body)
  close : m.closes → l.Kept s.close

theorem run_kept {m : Manner} {fits : RawConnection → Prop} (governs : Governs l m s fits) {x : Routine α}
    {held : Option RawConnection} (lent : ∀ c, held = some c → fits c) (keeps : x.Keeps m s held) :
    l.Kept (x.run s) := by
  have given : ∀ c d : RawConnection, fits c → some c = some d → fits d := by
    rintro c d fit ⟨⟩
    exact fit
  induction x generalizing held with
  | act party a =>
      cases party with
      | layer => exact governs.works a held lent keeps
      | client => exact governs.own a keeps
  | next x k ihx ihk => exact kept_bind_of (ihx lent keeps.1) fun w v w' ran => ihk v lent (keeps.2 w v w' ran)
  | caught x ih => exact kept_outcome (ih lent keeps)
  | holding op ih => exact governs.holding _ fun c fit => ih c (fun d same => given _ d fit same) (keeps c)
  | transact op savepoint ih =>
      exact governs.transact _ savepoint fun c fit => ih c (fun d same => given _ d fit same) (keeps c)
  | write body ih => exact governs.write _ fun c fit => ih c (fun d same => given _ d fit same) (keeps c)
  | close => exact governs.close keeps

end SqlScope
