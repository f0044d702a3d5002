import SqlScope.Session.Reading
import SqlScope.Proofs.Acts

set_option autoImplicit false

namespace SqlScope

open SqlScope.Action

variable {α β : Type}

def Connection.raw : Connection → RawConnection
  | .direct c => c
  | .pooled p => p.raw

namespace Call

def On (c : RawConnection) (call : Call) : Prop :=
  call.raw? = some c ∧ call.closes = false

-- Calls of statements and result cursors: no commit, no rollback.
def Work (c : RawConnection) (T : String → Prop) : Call → Prop
  | .openCursor d => d = c
  | .execute q sql _ => q.connection = c ∧ T sql
  | .fetch q => q.connection = c
  | .scroll q _ => q.connection = c
  | .closeCursor q => q.connection = c
  | _ => False

theorem work_on {c : RawConnection} {T : String → Prop} (call : Call) (work : Work c T call) :
    On c call := by
  cases call <;> simp_all [Work, On, raw?, closes]

end Call

def Action.Gives (Q : α → Prop) (a : Action α) : Prop :=
  ∀ w v w', a w = .ok v w' → Q v

theorem ok_of_bind {a : Action α} {f : α → Action β} {w w' : World} {v : β}
    (run : (a >>= f) w = .ok v w') : ∃ u w₁, a w = .ok u w₁ ∧ f u w₁ = .ok v w' := by
  cases first : a w with
  | ok u w₁ => exact ⟨u, w₁, rfl, by rw [← run, bind_of_ok first]⟩
  | error f w₁ =>
      rw [bind_of_error first] at run
      cases run

theorem gives_pure {Q : α → Prop} {v : α} (holds : Q v) : Gives Q (pure v : Action α) := by
  intro w u w' run
  cases run
  exact holds

theorem gives_throw {Q : α → Prop} (f : Failure) : Gives Q (throw f : Action α) := by
  intro w u w' run
  cases run

theorem gives_bind_of {P : α → Prop} {Q : β → Prop} {a : Action α} {f : α → Action β}
    (first : Gives P a) (rest : ∀ v, P v → Gives Q (f v)) : Gives Q (a >>= f) := by
  intro w v w' run
  obtain ⟨u, w₁, ran, ran'⟩ := ok_of_bind run
  exact rest u (first w u w₁ ran) w₁ v w' ran'

theorem gives_bind {Q : β → Prop} {a : Action α} {f : α → Action β} (rest : ∀ v, Gives Q (f v)) :
    Gives Q (a >>= f) := by
  intro w v w' run
  obtain ⟨u, w₁, _, ran⟩ := ok_of_bind run
  exact rest u w₁ v w' ran

theorem kept_bind_gives {l : Law} {P : α → Prop} {a : Action α} {f : α → Action β} (first : l.Kept a)
    (gives : Gives P a) (rest : ∀ v, P v → l.Kept (f v)) : l.Kept (a >>= f) :=
  kept_bind_of first fun w v w' run => rest v (gives w v w' run)

theorem gives_on_ordinary {Q : α → Prop} {a : Action α} {recover : Failure → Action α}
    (body : Gives Q a) (handler : ∀ f, Gives Q (recover f)) : Gives Q (onOrdinary a recover) := by
  intro w v w' run
  obtain ⟨r, w₁, ran, ran'⟩ := ok_of_bind run
  unfold outcome at ran
  cases inner : a w with
  | ok u w₂ =>
      rw [inner] at ran
      cases ran
      cases ran'
      exact body w _ _ inner
  | error f w₂ =>
      rw [inner] at ran
      cases ran
      dsimp only at ran'
      by_cases ordinary : f.isOrdinary
      · rw [if_pos ordinary] at ran'
        exact handler f w₁ v w' ran'
      · rw [if_neg ordinary] at ran'
        cases ran'

theorem gives_wrapping {Q : α → Prop} {a : Action α} (kind : Kind) (message : String)
    (body : Gives Q a) : Gives Q (wrapping kind message a) :=
  gives_on_ordinary body fun _ => gives_throw _

section

variable {l : Law}

theorem or_missing_kept {read : Action α} (fallback : α) (kept : l.Kept read) :
    l.Kept (orMissing read fallback) := by
  apply kept_bind (kept_outcome kept)
  intro r
  cases r with
  | ok v => exact kept_pure v
  | error f =>
      dsimp only
      by_cases missing : f.kind = .attribute
      · rw [if_pos missing]
        exact kept_pure fallback
      · rw [if_neg missing]
        exact kept_throw f

theorem Held.read_kept (h : Held) (name : String) : l.Kept (h.read name) := by
  cases h with
  | lent c => exact kept_bind (kept_pure c) fun d => d.read_kept name
  | value v => exact kept_bind (kept_throw _) fun d => d.read_kept name

namespace Proxy

theorem state_kept (p : Proxy) : l.Kept p.state :=
  kept_bind kept_get fun _ => kept_pure _

theorem held_kept (p : Proxy) : l.Kept p.held :=
  kept_bind p.state_kept fun _ => kept_pure _

theorem closed_kept (p : Proxy) : l.Kept p.closed := by
  apply kept_bind p.state_kept
  intro s
  dsimp only
  by_cases released : s.released.isTruthy
  · rw [if_pos released]
    exact kept_pure _
  · rw [if_neg released]
    apply kept_bind p.held_kept
    intro h
    exact kept_bind (or_missing_kept _ (h.read_kept "closed")) fun _ => kept_pure _

theorem read_kept (p : Proxy) (name : String) : l.Kept (p.read name) := by
  unfold read
  by_cases closed : name = "closed"
  · rw [if_pos closed]
    exact p.closed_kept
  · rw [if_neg closed]
    by_cases raw : name = "raw_connection" ∨ name = "_connection"
    · rw [if_pos raw]
      exact kept_bind p.held_kept fun _ => kept_pure _
    · rw [if_neg raw]
      by_cases released : name = "_released"
      · rw [if_pos released]
        exact kept_bind p.state_kept fun _ => kept_pure _
      · rw [if_neg released]
        apply kept_bind p.state_kept
        intro s
        cases s.attributes.get? name with
        | some v => exact kept_pure v
        | none => exact kept_bind p.held_kept fun h => h.read_kept name

end Proxy

theorem Connection.held_kept (c : Connection) : l.Kept c.held := by
  cases c with
  | direct c => exact kept_pure _
  | pooled p => exact p.held_kept

theorem Connection.read_or_kept (c : Connection) (name : String) (fallback : Value) :
    l.Kept (c.readOr name fallback) := by
  cases c with
  | direct c => exact or_missing_kept _ (c.read_kept name)
  | pooled p => exact or_missing_kept _ (p.read_kept name)

namespace Connection

theorem driver_kept (c : Connection) : l.Kept c.driver := by
  cases c with
  | direct c =>
      refine kept_bind (or_missing_kept _ ?_) fun v => ?_
      · exact kept_bind (c.read_kept "raw_connection") fun v => kept_pure (some v)
      · cases v with
        | none => exact kept_bind c.state_kept fun _ => kept_pure _
        | some v => exact kept_pure _
  | pooled p =>
      apply kept_bind p.held_kept
      intro h
      cases h with
      | lent c => exact kept_bind c.state_kept fun _ => kept_pure _
      | value v => exact kept_pure _

theorem dsn_kept (c : Connection) : l.Kept c.dsn := by
  apply kept_bind (c.read_or_kept "dsn" .null)
  intro v
  cases v with
  | text s => exact kept_pure _
  | _ => exact kept_pure []

theorem present_kept (c : Connection) (names : List String) : l.Kept (c.present names) := by
  induction names with
  | nil => exact kept_pure []
  | cons name rest ih =>
      exact kept_bind (c.read_or_kept name .null) fun v => kept_bind ih fun more => kept_pure _

theorem report_kept (c : Connection) : l.Kept c.report := by
  apply kept_bind c.driver_kept
  intro driver
  apply kept_bind (c.read_or_kept "autocommit" .null)
  intro autocommit
  apply kept_bind (c.read_or_kept "closed" (.bool false))
  intro closed
  exact kept_bind c.dsn_kept fun dsn => kept_bind (c.present_kept _) fun more => kept_pure _

end Connection

end

section

variable {P : Call → Prop}

theorem Proxy.held_gives (p : Proxy) : Gives (fun h => h = .lent p.raw ∨ ∃ v, h = .value v) p.held := by
  refine gives_bind fun s => gives_pure ?_
  cases s.attributes.get? "_connection" with
  | none => exact Or.inl rfl
  | some v => exact Or.inr ⟨v, rfl⟩

namespace Connection

theorem held_gives (c : Connection) :
    Gives (fun h => h = .lent c.raw ∨ ∃ v, h = .value v) c.held := by
  cases c with
  | direct c => exact gives_pure (Or.inl rfl)
  | pooled p => exact p.held_gives

theorem callee_acts (c : Connection) (name : String) {f : RawConnection → Action α}
    (kept : (acting P).Kept (f c.raw)) :
    (acting P).Kept (c.held >>= fun h => h.callee name >>= f) := by
  apply kept_bind_gives c.held_kept c.held_gives
  intro h stands
  rcases stands with rfl | ⟨v, rfl⟩
  · exact kept_bind_gives (P := fun d => d = c.raw) (kept_pure c.raw) (gives_pure rfl)
      fun d same => same ▸ kept
  · exact kept_bind_gives (P := fun _ => False) (kept_throw _) (gives_throw _)
      fun _ absurd => absurd.elim

theorem open_cursor_acts (c : Connection) (meets : P (.openCursor c.raw)) :
    (acting P).Kept c.openCursor :=
  c.callee_acts "cursor" (c.raw.open_cursor_acts meets)

theorem commit_acts (c : Connection) (meets : P (.commit c.raw)) : (acting P).Kept c.commit :=
  c.callee_acts "commit" (c.raw.commit_acts meets)

theorem rollback_acts (c : Connection) (meets : P (.rollback c.raw)) :
    (acting P).Kept c.rollback :=
  c.callee_acts "rollback" (c.raw.rollback_acts meets)

theorem open_cursor_gives (c : Connection) :
    Gives (fun q : RawCursor => q.connection = c.raw) c.openCursor := by
  refine gives_bind_of c.held_gives fun h stands => ?_
  rcases stands with rfl | ⟨v, rfl⟩
  · refine gives_bind_of (P := fun d => d = c.raw) (gives_pure rfl) fun d same => ?_
    refine gives_bind fun s => gives_bind fun _ => gives_bind fun _ => gives_bind fun _ => ?_
    exact gives_pure same
  · exact gives_bind_of (P := fun _ => False) (gives_throw _) fun _ absurd => absurd.elim

theorem switch_to_manual_acts (c : Connection)
    (meets : P (.assign c.raw "autocommit" (.bool false))) : (acting P).Kept c.switchToManual := by
  apply kept_bind (c.read_or_kept "autocommit" .null)
  intro v
  have assigns : (acting P).Kept (c.assign "autocommit" (.bool false) (.gives (.bool false))) := by
    cases c with
    | direct c => exact c.assign_acts (by decide) _ _ meets
    | pooled p =>
        apply kept_bind_gives p.held_kept p.held_gives
        intro h stands
        rcases stands with rfl | ⟨v, rfl⟩
        · refine kept_bind_gives (P := fun d => d = p.raw) (kept_pure p.raw) (gives_pure rfl) fun d same => ?_
          subst same
          exact p.raw.assign_acts (by decide) _ _ meets
        · exact kept_bind_gives (P := fun _ => False) (kept_throw _) (gives_throw _)
            fun _ absurd => absurd.elim
  split
  · exact assigns
  · exact kept_pure ()

end Connection

end

end SqlScope
