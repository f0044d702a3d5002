import SqlScope.Proofs.Closing

set_option autoImplicit false

namespace SqlScope

open SqlScope.Action

variable {α β : Type} {c : Connection} {w w' : World}

def Connection.ReadsOpen (c : Connection) (w : World) : Prop :=
  ∃ v, c.readOr "closed" (.bool false) w = .ok v w ∧ v.isTruthy = false

def still : Law := ⟨fun _ => True, fun w w' => w' = w, fun _ => rfl, fun _ _ _ first second => second.trans first⟩

theorem read_or_still (c : Connection) (name : String) (fallback : Value) (w : World) :
    (c.readOr name fallback).after w = w :=
  (c.read_or_kept (l := still) name fallback w trivial).2

def Reading.IsOpen : Option (Reading Value) → Prop
  | none => True
  | some (.gives v) => v.isTruthy = false
  | some (.raises f) => f.kind = .attribute

def RawConnection.IsOpen (c : RawConnection) (w : World) : Prop :=
  Reading.IsOpen (w.connections.get c.index).standing.2

theorem is_open_of_standing {c : RawConnection} (opened : c.IsOpen w)
    (same : (w'.connections.get c.index).standing = (w.connections.get c.index).standing) : c.IsOpen w' := by
  rw [RawConnection.IsOpen, same]
  exact opened

theorem raw_state_ok (c : RawConnection) (w : World) : c.state w = .ok (w.connections.get c.index) w := rfl

theorem raw_read_of_missing {c : RawConnection} {name : String}
    (missing : (w.connections.get c.index).attributes.get? name = none) :
    c.read name w = .error (Kind.attribute.failure name) w := by
  rw [RawConnection.read, bind_of_ok (raw_state_ok c w), missing]
  rfl

theorem raw_read_of_named {c : RawConnection} {name : String} {r : Reading Value}
    (named : (w.connections.get c.index).attributes.get? name = some r) : c.read name w = r.get w := by
  rw [RawConnection.read, bind_of_ok (raw_state_ok c w), named]

theorem or_missing_of_ok {read : Action α} {v : α} (run : read w = .ok v w') (fallback : α) :
    orMissing read fallback w = .ok v w' := by
  rw [orMissing, bind_of_ok (outcome_of_ok run)]
  rfl

theorem or_missing_of_error {read : Action α} {f : Failure} (run : read w = .error f w')
    (missing : f.kind = .attribute) (fallback : α) : orMissing read fallback w = .ok fallback w' := by
  rw [orMissing, bind_of_ok (outcome_of_error run)]
  change (if f.kind = .attribute then pure fallback else throw f : Action α) w' = _
  rw [if_pos missing]
  rfl

theorem or_missing_of_other {read : Action α} {e : Failure} (failed : read w = .error e w') (other : e.kind ≠ .attribute)
    (fallback : α) : orMissing read fallback w = .error e w' := by
  rw [orMissing, bind_of_ok (outcome_of_error failed)]
  change (if e.kind = .attribute then pure fallback else throw e : Action α) w' = _
  rw [if_neg other]
  rfl

theorem or_missing_error {read : Action α} {fallback : α} {e : Failure} (failed : orMissing read fallback w = .error e w') :
    e.kind ≠ .attribute := by
  intro missing
  cases ran : read w with
  | ok v u =>
      rw [or_missing_of_ok ran] at failed
      cases failed
  | error f u =>
      by_cases lacking : f.kind = .attribute
      · rw [or_missing_of_error ran lacking] at failed
        cases failed
      · rw [or_missing_of_other ran lacking] at failed
        cases failed
        exact lacking missing

theorem raw_probe {c : RawConnection} (opened : c.IsOpen w) :
    ∃ v, orMissing (c.read "closed") (.bool false) w = .ok v w ∧ v.isTruthy = false := by
  unfold RawConnection.IsOpen RawConnectionState.standing at opened
  cases named : (w.connections.get c.index).attributes.get? "closed" with
  | none => exact ⟨.bool false, or_missing_of_error (raw_read_of_missing named) rfl _, rfl⟩
  | some r =>
      have read := raw_read_of_named named
      rw [named] at opened
      cases r with
      | gives v => exact ⟨v, or_missing_of_ok read _, opened⟩
      | raises f => exact ⟨.bool false, or_missing_of_error read opened _, rfl⟩

theorem reads_open_of_pristine (opened : c.raw.IsOpen w) (pristine : c.Pristine w) : c.ReadsOpen w := by
  cases c with
  | direct c => exact raw_probe opened
  | pooled p =>
      obtain ⟨v, probe, falsy⟩ := raw_probe opened
      have clean : (w.proxies.get p.index).released = .bool false := congrArg Prod.fst (pristine p rfl)
      have held : p.held w = .ok (.lent p.raw) w := by
        rw [proxy_held_ok, held_of_pristine p pristine]
      have closed : p.closed w = .ok (.bool false) w := by
        change (if (w.proxies.get p.index).released.isTruthy then _ else _ : Action Value) w = _
        rw [clean, if_neg (by decide)]
        refine (bind_of_ok held).trans ((bind_of_ok probe).trans ?_)
        rw [falsy]
        rfl
      exact ⟨.bool false, or_missing_of_ok closed _, rfl⟩

structure Alike (u v : World) : Prop where
  standing : ∀ i, (v.connections.get i).standing = (u.connections.get i).standing
  proxies : ∀ i, v.proxies.get i = u.proxies.get i

def Agrees (a : Action α) : Prop :=
  ∀ u v, Alike u v → ∃ r, outcome a u = .ok r u ∧ outcome a v = .ok r v

theorem agrees_pure (a : α) : Agrees (pure a : Action α) := fun _ _ _ => ⟨.ok a, rfl, rfl⟩

theorem agrees_throw (f : Failure) : Agrees (throw f : Action α) := fun _ _ _ => ⟨.error f, rfl, rfl⟩

theorem ok_of_outcome {a : Action α} {v : α} (run : outcome a w = .ok (.ok v) w') : a w = .ok v w' := by
  unfold outcome at run
  cases ran : a w with
  | ok u w₁ => rw [ran] at run; cases run; rfl
  | error f w₁ => rw [ran] at run; cases run

theorem error_of_outcome {a : Action α} {f : Failure} (run : outcome a w = .ok (.error f) w') :
    a w = .error f w' := by
  unfold outcome at run
  cases ran : a w with
  | ok u w₁ => rw [ran] at run; cases run
  | error e w₁ => rw [ran] at run; cases run; rfl

theorem agrees_bind {a : Action α} {f : α → Action β} (first : Agrees a) (rest : ∀ v, Agrees (f v)) :
    Agrees (a >>= f) := by
  intro u v alike
  obtain ⟨r, here, there⟩ := first u v alike
  cases r with
  | ok b =>
      obtain ⟨r', here', there'⟩ := rest b u v alike
      refine ⟨r', ?_, ?_⟩
      · rw [outcome, bind_of_ok (ok_of_outcome here)]
        exact here'
      · rw [outcome, bind_of_ok (ok_of_outcome there)]
        exact there'
  | error e =>
      exact ⟨.error e, outcome_of_error (bind_of_error (error_of_outcome here)),
        outcome_of_error (bind_of_error (error_of_outcome there))⟩

theorem agrees_outcome {a : Action α} (agrees : Agrees a) : Agrees (outcome a) := by
  intro u v alike
  obtain ⟨r, here, there⟩ := agrees u v alike
  exact ⟨.ok r, outcome_of_ok here, outcome_of_ok there⟩

theorem agrees_or_missing {read : Action α} (fallback : α) (agrees : Agrees read) :
    Agrees (orMissing read fallback) := by
  apply agrees_bind (agrees_outcome agrees)
  intro r
  cases r with
  | ok v => exact agrees_pure v
  | error f =>
      dsimp only
      by_cases missing : f.kind = .attribute
      · rw [if_pos missing]
        exact agrees_pure fallback
      · rw [if_neg missing]
        exact agrees_throw f

theorem raw_closed_agrees (k : RawConnection) : Agrees (k.read "closed") := by
  intro u v alike
  have same : (v.connections.get k.index).attributes.get? "closed" =
      (u.connections.get k.index).attributes.get? "closed" := congrArg Prod.snd (alike.standing k.index)
  cases named : (u.connections.get k.index).attributes.get? "closed" with
  | none =>
      exact ⟨_, outcome_of_error (raw_read_of_missing named),
        outcome_of_error (raw_read_of_missing (same.trans named))⟩
  | some r =>
      have here := raw_read_of_named named
      have there := raw_read_of_named (same.trans named)
      cases r with
      | gives a => exact ⟨.ok a, outcome_of_ok here, outcome_of_ok there⟩
      | raises f => exact ⟨.error f.raised, outcome_of_error here, outcome_of_error there⟩

theorem held_closed_agrees (h : Held) : Agrees (h.read "closed") := by
  cases h with
  | lent k => exact agrees_bind (agrees_pure k) fun d => raw_closed_agrees d
  | value v => exact agrees_bind (agrees_throw _) fun d => raw_closed_agrees d

theorem proxy_state_agrees (p : Proxy) : Agrees p.state := by
  intro u v alike
  refine ⟨.ok (u.proxies.get p.index), outcome_of_ok (proxy_state_ok p u), ?_⟩
  rw [← alike.proxies]
  exact outcome_of_ok (proxy_state_ok p v)

theorem proxy_closed_agrees (p : Proxy) : Agrees p.closed := by
  apply agrees_bind (proxy_state_agrees p)
  intro t
  dsimp only
  by_cases released : t.released.isTruthy
  · rw [if_pos released]
    exact agrees_pure _
  · rw [if_neg released]
    refine agrees_bind (agrees_bind (proxy_state_agrees p) fun _ => agrees_pure _) fun h => ?_
    exact agrees_bind (agrees_or_missing _ (held_closed_agrees h)) fun _ => agrees_pure _

theorem reads_open_of_alike {u v : World} (alike : Alike u v) (opens : c.ReadsOpen u) : c.ReadsOpen v := by
  have agrees : Agrees (c.readOr "closed" (.bool false)) := by
    cases c with
    | direct k => exact agrees_or_missing _ (raw_closed_agrees k)
    | pooled p => exact agrees_or_missing _ (proxy_closed_agrees p)
  obtain ⟨r, here, there⟩ := agrees u v alike
  obtain ⟨a, probe, falsy⟩ := opens
  rw [outcome_of_ok probe] at here
  cases here
  exact ⟨a, ok_of_outcome there, falsy⟩

end SqlScope
