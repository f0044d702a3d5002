import SqlScope.Driver
import SqlScope.Proofs.Law

set_option autoImplicit false

namespace SqlScope

open SqlScope.Action

variable {α : Type}

namespace Call

def opens : Call → Bool
  | .create => true
  | .borrow => true
  | .connect _ _ => true
  | _ => false

def closes : Call → Bool
  | .close _ => true
  | .giveBack _ => true
  | _ => false

def raw? : Call → Option RawConnection
  | .giveBack (.lent c) => some c
  | .openCursor c => some c
  | .commit c => some c
  | .rollback c => some c
  | .close c => some c
  | .assign c _ _ => some c
  | .execute q _ _ => some q.connection
  | .fetch q => some q.connection
  | .scroll q _ => some q.connection
  | .closeCursor q => some q.connection
  | _ => none

end Call

def Event.raw? : Event → Option RawConnection
  | .call made _ => made.raw?
  | _ => none

def Event.closes : Event → Bool
  | .call made _ => made.closes
  | _ => false

def Event.Meets (P : Call → Prop) : Event → Prop
  | .call made _ => P made
  | _ => True

-- The history only grows, by calls that meet a condition and by entries that are no calls.
def Grew (P : Call → Prop) (w w' : World) : Prop :=
  ∃ added, w'.history = added ++ w.history ∧ ∀ e ∈ added, e.Meets P

theorem grew_same {P : Call → Prop} {w w' : World} (same : w'.history = w.history) : Grew P w w' :=
  ⟨[], same, by simp⟩

theorem grew_by {P : Call → Prop} {w w' : World} {e : Event} (grown : w'.history = e :: w.history)
    (meets : e.Meets P) : Grew P w w' :=
  ⟨[e], grown, by simpa using meets⟩

theorem grew_trans {P : Call → Prop} {u v w : World} (first : Grew P u v) (second : Grew P v w) :
    Grew P u w := by
  obtain ⟨early, earlyHistory, earlyMeets⟩ := first
  obtain ⟨late, lateHistory, lateMeets⟩ := second
  refine ⟨late ++ early, by rw [lateHistory, earlyHistory, List.append_assoc], ?_⟩
  intro e member
  rcases List.mem_append.mp member with isLate | isEarly
  · exact lateMeets e isLate
  · exact earlyMeets e isEarly

theorem meets_mono {P Q : Call → Prop} {e : Event} (implies : ∀ call, P call → Q call)
    (meets : e.Meets P) : e.Meets Q := by
  cases e with
  | call call fault => exact implies call meets
  | _ => trivial

theorem grew_mono {P Q : Call → Prop} {w w' : World} (implies : ∀ call, P call → Q call)
    (grew : Grew P w w') : Grew Q w w' := by
  obtain ⟨added, history, meets⟩ := grew
  exact ⟨added, history, fun e member => meets_mono implies (meets e member)⟩

def RawConnectionState.standing (s : RawConnectionState) : Option Fault × Option (Reading Value) :=
  (s.openFault, s.attributes.get? "closed")

def ProxyState.bearing (s : ProxyState) : Value × Option Value × Option Value :=
  (s.released, s.attributes.get? "_connection", s.attributes.get? "_pool")

structure Acts (P : Call → Prop) (w w' : World) : Prop where
  sessions : ∀ i, w'.sessions.get i = w.sessions.get i
  proxies : ∀ i, w'.proxies.get i = w.proxies.get i
  opened : w'.opened = w.opened
  handles : w.handles ≤ w'.handles
  standing : ∀ i, (w'.connections.get i).standing = (w.connections.get i).standing
  grew : Grew P w w'

theorem acts_refl (P : Call → Prop) (w : World) : Acts P w w :=
  ⟨fun _ => rfl, fun _ => rfl, rfl, Nat.le_refl _, fun _ => rfl, grew_same rfl⟩

theorem acts_trans (P : Call → Prop) (u v w : World) (first : Acts P u v) (second : Acts P v w) :
    Acts P u w where
  sessions i := (second.sessions i).trans (first.sessions i)
  proxies i := (second.proxies i).trans (first.proxies i)
  opened := second.opened.trans first.opened
  handles := Nat.le_trans first.handles second.handles
  standing i := (second.standing i).trans (first.standing i)
  grew := grew_trans first.grew second.grew

def acting (P : Call → Prop) : Law := ⟨fun _ => True, Acts P, acts_refl P, acts_trans P⟩

theorem acts_mono {P Q : Call → Prop} {w w' : World} (implies : ∀ call, P call → Q call)
    (acts : Acts P w w') : Acts Q w w' :=
  { acts with grew := grew_mono implies acts.grew }

theorem acting_mono {P Q : Call → Prop} {a : Action α} (implies : ∀ call, P call → Q call)
    (kept : (acting P).Kept a) : (acting Q).Kept a :=
  kept_weaken kept (fun _ _ => trivial) fun _ _ _ acts => ⟨trivial, acts_mono implies acts⟩

section

variable {P : Call → Prop}

theorem note_acts {e : Event} (meets : e.Meets P) : (acting P).Kept (note e) :=
  kept_modify fun _ _ => ⟨trivial, fun _ => rfl, fun _ => rfl, rfl, Nat.le_refl _, fun _ => rfl,
    grew_by rfl meets⟩

theorem debug_acts (channel : Channel) (text : String) : (acting P).Kept (debug channel text) :=
  note_acts (e := .log channel .debug text) trivial

theorem warn_acts (channel : Channel) (text : String) : (acting P).Kept (warn channel text) :=
  note_acts (e := .log channel .warning text) trivial

theorem fresh_acts : (acting P).Kept fresh :=
  kept_get_bind fun _ _ => ⟨trivial, fun _ => rfl, fun _ => rfl, rfl, Nat.le_succ _, fun _ => rfl,
    grew_same rfl⟩

theorem refuse_acts {call : Call} (meets : P call) (f : Fault) :
    (acting P).Kept (refuse call f : Action α) :=
  kept_bind (note_acts (e := .call call (some f)) meets) fun _ => kept_throw f.raised

theorem attempt_acts {call : Call} (meets : P call) (due : Option Fault) :
    (acting P).Kept (attempt call due) := by
  cases due with
  | none => exact note_acts (e := .call call none) meets
  | some f => exact refuse_acts meets f

theorem close_after_failure_acts {close : Action Unit} (closes : (acting P).Kept close)
    (what : String) : (acting P).Kept (closeAfterFailure close what) :=
  kept_close_after_failure closes warn_acts what

theorem releasing_acts {close : Action Unit} {body : Action α} (what : String) (kind : Kind)
    (closes : (acting P).Kept close) (kept : (acting P).Kept body) :
    (acting P).Kept (releasing close what kind body) :=
  kept_releasing what kind closes warn_acts kept

end

section

variable {l : Law}

theorem reading_kept (r : Reading α) : l.Kept r.get := by
  cases r with
  | gives a => exact kept_pure a
  | raises f => exact kept_throw f.raised

theorem RawConnection.state_kept (c : RawConnection) : l.Kept c.state :=
  kept_bind kept_get fun _ => kept_pure _

theorem RawConnection.read_kept (c : RawConnection) (name : String) : l.Kept (c.read name) := by
  apply kept_bind c.state_kept
  intro s
  cases s.attributes.get? name with
  | none => exact kept_throw _
  | some r => exact reading_kept r

theorem RawCursor.state_kept (q : RawCursor) : l.Kept q.state :=
  kept_bind q.connection.state_kept fun _ => kept_pure _

theorem RawCursor.description_kept (q : RawCursor) : l.Kept q.description :=
  kept_bind q.state_kept fun _ => reading_kept _

theorem RawCursor.row_count_kept (q : RawCursor) : l.Kept q.rowCount :=
  kept_bind q.state_kept fun _ => reading_kept _

theorem RawCursor.scroll_support_kept (q : RawCursor) : l.Kept q.scrollSupport :=
  kept_bind q.state_kept fun _ => reading_kept _

theorem RawCursor.rows_left_kept (q : RawCursor) : l.Kept q.rowsLeft :=
  kept_bind q.state_kept fun _ => kept_pure _

end

namespace RawConnection

variable {P : Call → Prop}

theorem update_acts (c : RawConnection) (f : RawConnectionState → RawConnectionState)
    (keeps : ∀ s, (f s).standing = s.standing) : (acting P).Kept (c.update f) := by
  refine kept_modify fun w _ => ⟨trivial, fun _ => rfl, fun _ => rfl, rfl, Nat.le_refl _, ?_, grew_same rfl⟩
  intro i
  by_cases same : c.index = i
  · subst same
    simp only [Table.get_put, if_true, keeps]
  · simp only [Table.get_put, if_neg same]

theorem open_cursor_acts (c : RawConnection) (meets : P (.openCursor c)) :
    (acting P).Kept c.openCursor := by
  apply kept_bind c.state_kept
  intro s
  refine kept_bind (c.update_acts _ fun _ => rfl) fun _ => ?_
  apply kept_bind (attempt_acts meets _)
  intro _
  exact kept_bind (c.update_acts _ fun _ => rfl) fun _ => kept_pure _

theorem commit_acts (c : RawConnection) (meets : P (.commit c)) : (acting P).Kept c.commit := by
  apply kept_bind c.state_kept
  intro s
  exact kept_bind (c.update_acts _ fun _ => rfl) fun _ => attempt_acts meets _

theorem rollback_acts (c : RawConnection) (meets : P (.rollback c)) :
    (acting P).Kept c.rollback := by
  apply kept_bind c.state_kept
  intro s
  exact kept_bind (c.update_acts _ fun _ => rfl) fun _ => attempt_acts meets _

theorem assign_acts (c : RawConnection) {name : String} (other : name ≠ "closed") (value : Value)
    (reading : Reading Value) (meets : P (.assign c name value)) :
    (acting P).Kept (c.assign name value reading) := by
  apply kept_bind c.state_kept
  intro s
  refine kept_bind (c.update_acts _ fun _ => rfl) fun _ => ?_
  refine kept_bind (attempt_acts meets _) fun _ => c.update_acts _ fun t => ?_
  simp only [RawConnectionState.standing, Entries.get?_insert, beq_iff_eq, if_neg other]

end RawConnection

namespace RawCursor

variable {P : Call → Prop}

theorem update_acts (q : RawCursor) (f : RawCursorState → RawCursorState) :
    (acting P).Kept (q.update f) :=
  q.connection.update_acts _ fun _ => rfl

theorem execute_acts (q : RawCursor) (sql : String) (parameters : Option (List Value))
    (meets : P (.execute q sql parameters)) : (acting P).Kept (q.execute sql parameters) := by
  apply kept_bind q.connection.state_kept
  intro s
  refine kept_bind (q.connection.update_acts _ fun _ => rfl) fun _ => ?_
  exact kept_bind (q.update_acts _) fun _ => attempt_acts meets _

theorem fetch_acts (q : RawCursor) (meets : P (.fetch q)) : (acting P).Kept q.fetch := by
  apply kept_bind q.state_kept
  intro s
  apply kept_bind (q.update_acts _)
  intro _
  apply kept_bind (attempt_acts meets _)
  intro _
  cases s.result.rows[s.position]? with
  | none => exact kept_pure none
  | some values => exact kept_bind (q.update_acts _) fun _ => kept_pure _

theorem scroll_acts (q : RawCursor) (position : Int) (meets : P (.scroll q position)) :
    (acting P).Kept (q.scroll position) := by
  apply kept_bind q.state_kept
  intro s
  apply kept_bind (q.update_acts _)
  intro _
  exact kept_bind (attempt_acts meets _) fun _ => q.update_acts _

theorem close_acts (q : RawCursor) (meets : P (.closeCursor q)) : (acting P).Kept q.close := by
  apply kept_bind q.connection.state_kept
  intro s
  exact kept_bind (q.connection.update_acts _ fun _ => rfl) fun _ => attempt_acts meets _

end RawCursor

end SqlScope
