import SqlScope.Proofs.Marks
import SqlScope.Proofs.RollBack

set_option autoImplicit false

namespace SqlScope

open SqlScope.Action

variable {α : Type} {s : Session} {c d : Connection} {u v w w' w₁ : World} {P : Call → Prop} {rest t : Trace}

def failureOf : EStateM.Result Failure World α → Option Failure
  | .ok _ _ => none
  | .error f _ => some f

-- A call of `with_transaction` that entered its operation and raised: whether its connection was bound
-- before, what the operation or the commit after it failed with, and the worlds in which the operation and
-- the call ended.
structure Abort where
  connection : Connection
  savepoint : Option String
  borrowed : Bool
  cause : Option Failure
  ended : World
  left : World

namespace Abort

def Undone (a : Abort) : Prop := Shows (Event.undoes a.connection.raw a.savepoint) a.ended a.left

def Stopped (a : Abort) : Prop := ∃ e, a.cause = some e ∧ e.isOrdinary = false

end Abort

-- In its run from the world, the routine makes such a call, and `rest` is the trace of what follows it.
def Routine.aborts (s : Session) {α : Type} : Routine α → World → Abort → Trace → Prop
  | act _ _, _, _, _ => False
  | next x k, w, a, rest =>
    (∃ t, x.aborts s w a t ∧ rest = t ++ match x.run s w with
      | .ok v w₁ => (k v).trace s w₁
      | .error _ _ => []) ∨
    ∃ v w₁, x.run s w = .ok v w₁ ∧ (k v).aborts s w₁ a rest
  | caught x, w, a, rest => x.aborts s w a rest
  | holding op, w, a, rest =>
    ∃ c w₁ t, s.entry w = .ok c w₁ ∧ (op c).aborts s w₁ a t ∧
      rest = t ++ between .layer (((op c).run s).after w₁) ((s.holding fun c => (op c).run s).after w)
  | transact op savepoint, w, a, rest =>
    s.inScope w = false ∧ ∃ c name w₁ w₂, s.entry w = .ok c w₁ ∧ s.begins savepoint c w₁ = .ok name w₂ ∧
      ((∃ f w', s.transact (fun c => (op c).run s) savepoint w = .error f w' ∧ rest = [] ∧
          a = ⟨c, name, decide (s.binding w = some c), failureOf ((outcome ((op c).run s) >>= c.trial) w₂),
            ((op c).run s).after w₂, w'⟩) ∨
        ∃ t, (op c).aborts s w₂ a t ∧ rest = t ++ between .layer (((op c).run s).after w₂)
          ((s.transact (fun c => (op c).run s) savepoint).after w))
  | write body, w, a, rest =>
    ∃ c w₁ t, s.entry w = .ok c w₁ ∧ (body c).aborts s w₁ a t ∧
      rest = t ++ between .layer (((body c).run s).after w₁) ((s.write fun c => (body c).run s).after w)
  | close, _, _, _ => False

theorem aborts_inside {x : Routine α} {held : Option RawConnection} (keeps : x.Keeps (.modest s P) s held)
    (inside : s.inScope w = true) (a : Abort) (rest : Trace) : ¬ x.aborts s w a rest := by
  induction x generalizing held w rest with
  | act party action => exact id
  | next x k ihx ihk =>
      rintro (⟨t, first, _⟩ | ⟨v, w₁, ran, later⟩)
      · exact ihx keeps.1 inside t first
      · have settles := run_settles (modest_apart s P) keeps.1 w
        rw [after_of_ok ran] at settles
        exact ihk v (keeps.2 w v w₁ ran) (settles.scope.trans inside) rest later
  | caught x ih => exact ih keeps inside rest
  | holding op ih =>
      rintro ⟨c, w₁, t, entered, inner, _⟩
      exact ih c (keeps c) ((entry_in_scope entered).trans inside) t inner
  | transact op savepoint ih =>
      rintro ⟨outside, _⟩
      rw [inside] at outside
      cases outside
  | write body ih =>
      rintro ⟨c, w₁, t, entered, inner, _⟩
      exact ih c (keeps c) ((entry_in_scope entered).trans inside) t inner
  | close => exact id

structure Abort.Settled (a : Abort) : Prop where
  failed : a.borrowed = true → a.cause.isSome
  undone : ∀ e, a.cause = some e → e.isOrdinary = true → a.Undone
  spared : a.Stopped → Grew (fun call => call.closes = true ∨ call = .commit a.connection.raw) a.ended a.left

theorem scope_settles (op : Connection → Action α) {savepoint : Value} {name : Option String} {w₂ : World}
    (begun : s.begins savepoint c w₁ = .ok name w₂) :
    let cause := failureOf ((outcome (op c) >>= c.trial) w₂)
    let ended := (op c).after w₂
    let left := (s.scope op savepoint c).after w₁
    (cause = none → ∃ v, s.scope op savepoint c w₁ = .ok v left) ∧
      (∀ e, cause = some e → e.isOrdinary = true → Shows (Event.undoes c.raw name) ended left) ∧
      ((∃ e, cause = some e ∧ e.isOrdinary = false) → Grew (· = .commit c.raw) ended left) := by
  obtain ⟨r, run⟩ := after_outcome_bind (β := α) (op c) w₂
  intro cause ended left
  have scope : s.scope op savepoint c w₁ = s.concludes c name r ended := (scope_of_begun begun op).trans (run _)
  have tried : cause = failureOf (c.trial r ended) := congrArg failureOf (run c.trial)
  have commits := (trial_acts c r ended trivial).2.grew
  cases trial : c.trial r ended with
  | ok v u =>
      rw [trial] at tried
      obtain ⟨u', concluded⟩ := concludes_of_passed trial name
      have passed : s.scope op savepoint c w₁ = .ok v ((s.setScope false).after u') :=
        scope.trans ((bind_of_ok (outcome_of_ok concluded)).trans rfl)
      refine ⟨fun _ => ⟨v, ?_⟩, fun e absurd => ?_, fun absurd => ?_⟩
      · exact passed.trans (by rw [← after_of_ok passed])
      · rw [tried] at absurd
        cases absurd
      · obtain ⟨e, absurd, _⟩ := absurd
        rw [tried] at absurd
        cases absurd
  | error e u =>
      rw [trial] at tried
      rw [after_of_error trial] at commits
      obtain ⟨f, u', concluded, shows, same⟩ := concludes_of_failed trial name
      have failed : s.scope op savepoint c w₁ = .error f ((s.setScope false).after u') :=
        scope.trans ((bind_of_ok (outcome_of_error concluded)).trans rfl)
      have there : left = (s.setScope false).after u' := after_of_error failed
      have still : Grew (fun _ => True) u' left := by
        rw [there]
        exact grew_same rfl
      refine ⟨fun absurd => ?_, fun e' found ordinary => ?_, fun stopped => ?_⟩
      · rw [tried] at absurd
        cases absurd
      · rw [tried] at found
        cases found
        exact shows_then (shows_after commits (shows ordinary)) still
      · obtain ⟨e', found, stopped⟩ := stopped
        rw [tried] at found
        cases found
        rw [there, same stopped]
        exact grew_trans commits (grew_same rfl)

-- From a world in which the scope was still to come to one after it: what followed the scope, and that a
-- connection which the scope bound itself is not committed any more.
structure Aftermath (s : Session) (a : Abort) (w w' : World) (rest : Trace) : Prop where
  settled : a.Settled
  marks : Marks (fun _ => True) a.left w' rest
  owned : a.borrowed = false → w.opened ≤ a.connection.raw.index ∧ s.Apart a.connection.raw w' ∧
    Marks (· ≠ .commit a.connection.raw) a.left w' rest

theorem aftermath_extended {a : Abort} (aftermath : Aftermath s a w₁ u rest) (opened : w.opened ≤ w₁.opened)
    (marks : Marks (fun _ => True) u w' t)
    (spares : a.borrowed = false → w₁.opened ≤ a.connection.raw.index → s.Apart a.connection.raw u →
      Marks (· ≠ .commit a.connection.raw) u w' t)
    (left : s.binding w' = s.binding u ∨ s.binding w' = none) (opened' : u.opened ≤ w'.opened) :
    Aftermath s a w w' (rest ++ t) where
  settled := aftermath.settled
  marks := marks_append aftermath.marks marks
  owned own := by
    obtain ⟨new, apart, spared⟩ := aftermath.owned own
    exact ⟨Nat.le_trans opened new, (apart_marking s _).kept u w' apart left opened',
      marks_append spared (spares own new apart)⟩

theorem aftermath_held {a : Abort} (placed : s.Placed w) (entered : s.entry w = .ok d w₁)
    (aftermath : Aftermath s a w₁ u rest) (leaves : Leaves s d u w') :
    Aftermath s a w w' (rest ++ between .layer u w') := by
  obtain ⟨_, _, opened, _, _⟩ := entry_onward placed entered
  obtain ⟨left, opened'⟩ := leaves_settles leaves
  refine aftermath_extended aftermath opened (marks_between (grew_mono (fun _ _ => trivial) (leaves_grew leaves)))
    (fun _ _ _ => marks_between (grew_mono (fun _ => ?_) (leaves_grew leaves))) left opened'
  exact fun closes => not_commit_of_unsettling (closing_unsettling closes)

theorem entered_of_begun {savepoint : Value} {name : Option String} {w₂ : World} (outside : s.inScope w = false)
    (entered : s.entry w = .ok c w₁) (begun : s.begins savepoint c w₁ = .ok name w₂) :
    s.enterScope savepoint w = .ok c w₂ := by
  rw [enter_scope_outside outside, bind_of_ok entered, bind_of_ok begun]
  rfl

theorem abort_settled (op : Connection → Action α) {savepoint : Value} {name : Option String} {w₂ : World}
    {f : Failure} (placed : s.Placed w) (outside : s.inScope w = false) (entered : s.entry w = .ok c w₁)
    (begun : s.begins savepoint c w₁ = .ok name w₂) (raised : s.transact op savepoint w = .error f w') :
    Abort.Settled ⟨c, name, decide (s.binding w = some c), failureOf ((outcome (op c) >>= c.trial) w₂),
      (op c).after w₂, w'⟩ := by
  obtain ⟨passed, undone, spared⟩ := scope_settles op begun
  have whole : s.holding (s.scope op savepoint) w = .error f w' := (transact_outside outside op savepoint).symm.trans raised
  have leaves := leaves_grew (holding_leaves entered (s.scope op savepoint))
  rw [after_of_error whole] at leaves
  refine ⟨fun borrowed => ?_, fun e found ordinary => ?_, fun stopped => ?_⟩
  · -- On a connection that was bound before, what the scope raised is what the call raised.
    have bound : s.binding w = some c := of_decide_eq_true borrowed
    rcases entered_cases entered with ⟨rfl, _, run⟩ | ⟨binds, _⟩
    · rw [run] at whole
      cases cause : failureOf ((outcome (op c) >>= c.trial) w₂) with
      | some e => rfl
      | none =>
          obtain ⟨v, ended⟩ := passed cause
          rw [whole] at ended
          cases ended
    · have old := placed c bound
      have new := congrArg RawConnection.index binds.rest.raw
      exact absurd new (Nat.ne_of_lt old)
  · exact shows_then (undone e found ordinary) leaves
  · exact grew_trans (grew_mono (fun _ => Or.inr) (spared stopped)) (grew_mono (fun _ => Or.inl) leaves)

theorem aftermath_of_abort {op : Connection → Routine α} {savepoint : Value} {name : Option String} {w₂ : World}
    {f : Failure} (keeps : (Routine.transact op savepoint).Keeps (.modest s P) s none) (placed : s.Placed w)
    (outside : s.inScope w = false) (entered : s.entry w = .ok c w₁)
    (begun : s.begins savepoint c w₁ = .ok name w₂)
    (raised : s.transact (fun c => (op c).run s) savepoint w = .error f w') :
    Aftermath s ⟨c, name, decide (s.binding w = some c), failureOf ((outcome ((op c).run s) >>= c.trial) w₂),
      ((op c).run s).after w₂, w'⟩ w w' [] where
  settled := abort_settled (fun c => (op c).run s) placed outside entered begun raised
  marks := marks_nil _ w'
  owned own := by
    have settles := run_settles (modest_apart s P) keeps w
    have placed' := (run_onward keeps placed).1
    rw [Routine.run, after_of_error raised] at settles placed'
    obtain ⟨placed₁, _, _, _, found⟩ := entry_onward placed entered
    have new : w.opened ≤ c.raw.index := found.resolve_left (of_decide_eq_false own)
    have scope : (onward s).Kept (s.scope (fun c => (op c).run s) savepoint c) :=
      scope_kept set_scope_onward (fun _ => acts_onward) (run_kept (onward_governs s P) (fun _ _ => trivial) (keeps c))
        savepoint
    have leaves := leaves_settles (holding_leaves entered (s.scope (fun c => (op c).run s) savepoint))
    have same : (s.holding (s.scope (fun c => (op c).run s) savepoint)).after w = w' :=
      after_of_error ((transact_outside outside _ savepoint).symm.trans raised)
    rw [same] at leaves
    have old := placed₁ c (entry_binding entered)
    refine ⟨new, ⟨placed', ?_, fun d bound => ?_⟩, marks_nil _ w'⟩
    · exact Nat.lt_of_lt_of_le old (Nat.le_trans (scope w₁ placed₁).2.2 leaves.2)
    · exact raw_ne_of_index (placed d (bound_before settles.binding bound)) new

theorem aftermath_next {β : Type} {x : Routine β} {k : β → Routine α} {held : Option RawConnection} {a : Abort}
    (keeps : (Routine.next x k).Keeps (.modest s P) s held) (placed : s.Placed w)
    (lent : ∀ k, held = some k → k.index < w.opened) (aftermath : Aftermath s a w ((x.run s).after w) t) :
    Aftermath s a w (((Routine.next x k).run s).after w) (t ++ match x.run s w with
      | .ok v w₁ => (k v).trace s w₁
      | .error _ _ => []) := by
  have placed₁ := (run_onward keeps.1 placed).1
  rw [Routine.run]
  cases ran : x.run s w with
  | ok v w₁ =>
      rw [after_of_ok ran] at aftermath placed₁
      rw [after_bind_of_ok ran]
      have rest := keeps.2 w v w₁ ran
      refine aftermath_extended aftermath (Nat.le_refl _) ?_ (fun _ new apart => ?_)
        (run_settles (modest_apart s P) rest w₁).binding (run_onward rest placed₁).2.2
      · exact run_marks (placed_marking s) rest (fun _ _ => trivial) placed₁
      · refine run_marks (apart_marking s _) rest (fun j here => ?_) apart
        rintro rfl
        exact absurd (lent _ here) (Nat.not_lt.mpr new)
  | error f w₁ =>
      rw [after_of_error ran] at aftermath
      rw [after_of_error (bind_of_error ran), List.append_nil]
      exact aftermath

theorem aftermath_later {a : Abort} (aftermath : Aftermath s a w₁ w' rest) (opened : w.opened ≤ w₁.opened) :
    Aftermath s a w w' rest where
  settled := aftermath.settled
  marks := aftermath.marks
  owned own := by
    obtain ⟨new, apart, spared⟩ := aftermath.owned own
    exact ⟨Nat.le_trans opened new, apart, spared⟩

theorem aftermath_written {body : Connection → Action α} {a : Abort} (placed : s.Placed w)
    (entered : s.entry w = .ok d w₁) (aftermath : Aftermath s a w₁ ((body d).after w₁) t) :
    Aftermath s a w ((s.write body).after w) (t ++ between .layer ((body d).after w₁) ((s.write body).after w)) := by
  obtain ⟨placed₁, _, opened, _, _⟩ := entry_onward placed entered
  have bound := placed₁ d (entry_binding entered)
  obtain ⟨grew, same, still⟩ := written_onto s body d w₁
  have leaves := holding_leaves entered (s.written body)
  obtain ⟨left, opened'⟩ := leaves_settles leaves
  refine aftermath_extended aftermath opened (marks_between ?_) (fun _ new _ => marks_between ?_) ?_ ?_
  · exact grew_trans (grew_mono (fun _ _ => trivial) grew) (grew_mono (fun _ _ => trivial) (leaves_grew leaves))
  · exact grew_trans (grew_mono (on_spares (raw_ne_of_index bound new)) grew)
      (grew_mono (fun _ closes => not_commit_of_unsettling (closing_unsettling closes)) (leaves_grew leaves))
  · rw [← same]
    exact left
  · rw [← still]
    exact opened'

theorem run_aftermath {x : Routine α} {held : Option RawConnection} (keeps : x.Keeps (.modest s P) s held)
    (placed : s.Placed w) (lent : ∀ k, held = some k → k.index < w.opened) {a : Abort}
    (aborted : x.aborts s w a rest) : Aftermath s a w ((x.run s).after w) rest := by
  induction x generalizing held w rest with
  | act party action => exact aborted.elim
  | next x k ihx ihk =>
      rcases aborted with ⟨t, first, rfl⟩ | ⟨v, w₁, ran, later⟩
      · exact aftermath_next keeps placed lent (ihx keeps.1 placed lent first)
      · have onward := run_onward keeps.1 placed
        rw [after_of_ok ran] at onward
        rw [Routine.run, after_bind_of_ok ran]
        refine aftermath_later (ihk v (keeps.2 w v w₁ ran) onward.1 (fun j here => ?_) later) onward.2.2
        exact Nat.lt_of_lt_of_le (lent j here) onward.2.2
  | caught x ih =>
      rw [Routine.run, after_outcome]
      exact ih keeps placed lent aborted
  | holding op ih =>
      obtain ⟨d, w₁, t, entered, inner, rfl⟩ := aborted
      have aftermath := ih d (keeps d) (entry_onward placed entered).1 (lent_of_entered placed entered) inner
      exact aftermath_held placed entered aftermath (holding_leaves entered _)
  | transact op savepoint ih =>
      obtain ⟨outside, c, name, w₁, w₂, entered, begun, ⟨f, w', raised, rfl, rfl⟩ | ⟨t, inner, _⟩⟩ := aborted
      · rw [Routine.run, after_of_error raised]
        exact aftermath_of_abort keeps placed outside entered begun raised
      · have within := within_of_entered (entered_of_begun outside entered begun)
        exact absurd inner (aborts_inside (keeps c) within.inside a t)
  | write body ih =>
      obtain ⟨d, w₁, t, entered, inner, rfl⟩ := aborted
      have aftermath := ih d (keeps d) (entry_onward placed entered).1 (lent_of_entered placed entered) inner
      exact aftermath_written placed entered aftermath
  | close => exact aborted.elim

-- The failure that ended a scope is what its operation raised, or the commit after it. If it is an ordinary
-- one, the scope is rolled back before the call raises. If it is a request to stop, nothing is rolled back;
-- the layer then commits that connection later only if it was bound before the scope.
theorem failed_scope_undone_unless_stopped (s : Session) {x : Routine α} (keeps : x.Keeps (.modest s P) s none)
    {w : World} (idle : s.Idle w) {a : Abort} {rest : Trace} (aborted : x.aborts s w a rest) :
    ((x.run s).after w).history = (rest.map Prod.snd).reverse ++ a.left.history ∧
    (∀ fault, (.layer, .call (.commit a.connection.raw) fault) ∈ rest → a.borrowed = true ∧ (a.Undone ∨ a.Stopped)) ∧
    (∀ e, a.cause = some e → e.isOrdinary = true → a.Undone) ∧
    (a.Stopped → Grew (fun call => call.closes = true ∨ call = .commit a.connection.raw) a.ended a.left) := by
  have placed : s.Placed w := by
    intro d bound
    rw [idle.unbound] at bound
    cases bound
  obtain ⟨settled, marks, owned⟩ := run_aftermath keeps placed (fun _ absurd => by cases absurd) aborted
  refine ⟨marks.records, fun fault member => ?_, settled.undone, settled.spared⟩
  cases borrowed : a.borrowed with
  | false =>
      have spares := (owned borrowed).2.2.layer _ member rfl
      exact absurd rfl spares
  | true =>
      obtain ⟨e, cause⟩ := Option.isSome_iff_exists.mp (settled.failed borrowed)
      cases ordinary : e.isOrdinary with
      | true => exact ⟨rfl, Or.inl (settled.undone e cause ordinary)⟩
      | false => exact ⟨rfl, Or.inr ⟨e, cause, ordinary⟩⟩

theorem Routine.trace_of_update {sql : String} {bind : Statement → Routine Unit} {consumer : Int → Routine Unit}
    {n : Int} (entered : s.entry w = .ok c w₁) (ran : c.runUpdate sql (fun t => (bind t).run s) w₁ = .ok n v)
    (wrote : s.written (fun d => d.runUpdate sql fun t => (bind t).run s) c w₁ = .ok n u) :
    between .layer v u ⊆ (update sql bind consumer).trace s w := by
  intro e added
  have body : ∀ d, (Stepwise.withStatement d sql bind fun t => step t.runUpdate : Routine Int).run s =
      d.runUpdate sql fun t => (bind t).run s := fun d => (runs s).with_statement d sql bind _
  rw [update, trace]
  refine List.mem_append_left _ ?_
  simp only [trace, around, entered, body, after_of_ok wrote]
  exact List.mem_append_left _ (List.mem_append_right _ (List.mem_append_right _ (after_of_ok ran ▸ added)))

-- A scope inside an operation is interrupted. Its failure is caught there, and the next write commits what
-- the scope had done.
theorem stopped_scope_committed_later :
    let s : Session := ⟨0, .plain⟩
    let w := World.start [] default 0
    let scope : Routine Unit := .transact (fun _ => .act .client (throw (Kind.interrupt.failure "stop"))) .null
    let update : Routine Int := .update "UPDATE t SET a = 1" (fun _ => .done ()) fun _ => .done ()
    let x : Routine Int := .holding fun _ => .next (.caught scope) fun _ => update
    ∃ a rest, x.aborts s w a rest ∧ (.layer, .call (.commit a.connection.raw) none) ∈ rest ∧
      Grew (fun call => call.closes = true ∨ call = .commit a.connection.raw) a.ended a.left := by
  intro s w scope update x
  have keeps : x.Keeps (.modest s fun _ => False) s none := by
    refine fun c => ⟨fun c w₁ => ⟨rfl, Nat.le_refl _, grew_same rfl⟩, fun _ _ _ _ => ?_⟩
    exact Routine.keeps_update trivial (fun _ _ => Routine.keeps_done ()) fun _ => Routine.keeps_done ()
  obtain ⟨w₁, a, w₂, v, u, entered, aborted, caught, stopped, same, entry, ran, wrote, added⟩ : ∃ w₁ a w₂ v u,
      s.entry w = .ok (.direct ⟨0⟩) w₁ ∧ scope.aborts s w₁ a [] ∧
      (scope.caught.run s) w₁ = .ok (.error (Kind.interrupt.failure "stop")) w₂ ∧ a.Stopped ∧ a.connection = .direct ⟨0⟩ ∧
      s.entry w₂ = .ok (.direct ⟨0⟩) w₂ ∧
      (Connection.direct ⟨0⟩).runUpdate "UPDATE t SET a = 1" (fun _ => pure ()) w₂ = .ok (-1) v ∧
      s.written (fun d => d.runUpdate "UPDATE t SET a = 1" fun _ => pure ()) (.direct ⟨0⟩) w₂ = .ok (-1) u ∧
      u.history = [.call (.commit ⟨0⟩) none] ++ v.history :=
    ⟨_, _, _, _, _, rfl, ⟨rfl, .direct ⟨0⟩, none, _, _, rfl, rfl, Or.inl ⟨_, _, rfl, rfl, rfl⟩⟩, rfl, ⟨_, rfl, rfl⟩, rfl,
      rfl, rfl, rfl, rfl⟩
  have commits : (.layer, .call (.commit ⟨0⟩) none) ∈ update.trace s w₂ := by
    refine Routine.trace_of_update entry ran wrote ?_
    rw [between_of_grown added]
    exact List.mem_cons_self
  have whole : ∃ rest, x.aborts s w a rest ∧ (.layer, .call (.commit ⟨0⟩) none) ∈ rest := by
    refine ⟨_, ⟨.direct ⟨0⟩, w₁, _, entered, Or.inl ⟨[], aborted, rfl⟩, rfl⟩, List.mem_append_left _ ?_⟩
    rw [caught]
    exact commits
  obtain ⟨rest, whole, member⟩ := whole
  have spared := (failed_scope_undone_unless_stopped s keeps ⟨rfl, rfl⟩ whole).2.2.2 stopped
  exact ⟨a, rest, whole, same ▸ member, spared⟩

end SqlScope
